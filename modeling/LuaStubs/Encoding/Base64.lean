/-! Base64 with the standard alphabet and mandatory padding.  `decode` accepts canonical text only:
groups of four, padding in the last one, and unused bits that are zero. -/
namespace LuaStubs.Encoding.Base64

def pad : UInt8 := 61

/-- The six bits that a symbol stands for. -/
def value? (b : UInt8) : Option Nat :=
  let n := b.toNat
  if 65 ≤ n ∧ n ≤ 90 then some (n - 65)
  else if 97 ≤ n ∧ n ≤ 122 then some (n - 71)
  else if 48 ≤ n ∧ n ≤ 57 then some (n + 4)
  else if n = 43 then some 62
  else if n = 47 then some 63
  else none

def symbol (v : Nat) : UInt8 :=
  UInt8.ofNat
    (if v < 26 then v + 65
     else if v < 52 then v + 71
     else if v < 62 then v - 4
     else if v = 62 then 43
     else 47)

def encode : List UInt8 → List UInt8
  | [] => []
  | [a] => [symbol (a.toNat / 4), symbol (a.toNat % 4 * 16), pad, pad]
  | [a, b] =>
    [symbol (a.toNat / 4), symbol (a.toNat % 4 * 16 + b.toNat / 16), symbol (b.toNat % 16 * 4), pad]
  | a :: b :: c :: rest =>
    symbol (a.toNat / 4) :: symbol (a.toNat % 4 * 16 + b.toNat / 16) ::
      symbol (b.toNat % 16 * 4 + c.toNat / 64) :: symbol (c.toNat % 64) :: encode rest

/-- Offsets count bytes of the text. -/
inductive Fault where
  | symbol (byte : UInt8) (offset : Nat)
  | length (count : Nat)
  | lastSymbol (byte : UInt8) (offset : Nat)
  | padding
deriving DecidableEq, Repr

def Fault.message : Fault → String
  | .symbol byte offset => s!"Invalid symbol {byte}, offset {offset}."
  | .length n => s!"Invalid input length: {n}"
  | .lastSymbol byte offset => s!"Invalid last symbol {byte}, offset {offset}."
  | .padding => "Invalid padding"

def read (offset : Nat) (b : UInt8) : Except Fault Nat :=
  match value? b with
  | some v => .ok v
  | none => .error (.symbol b offset)

/-- A group before the last one; padding is no symbol here. -/
def group (offset : Nat) (a b c d : UInt8) : Except Fault (List UInt8) := do
  let a ← read offset a
  let b ← read (offset + 1) b
  let c ← read (offset + 2) c
  let d ← read (offset + 3) d
  return [UInt8.ofNat (a * 4 + b / 16), UInt8.ofNat (b % 16 * 16 + c / 4),
    UInt8.ofNat (c % 4 * 64 + d)]

/-- The values and the padding of the last group, from its place `i` on.  Padding begins at the
third place at the earliest, and nothing follows it. -/
def lastGroup (offset i : Nat) (pads : Nat) : List UInt8 → Except Fault (List (UInt8 × Nat) × Nat)
  | [] => .ok ([], pads)
  | b :: rest =>
    if b = pad then
      if i < 2 then .error (.symbol pad (offset + i))
      else lastGroup offset (i + 1) (pads + 1) rest
    else if 0 < pads then .error (.symbol pad (offset + i - pads))
    else do
      let v ← read (offset + i) b
      let (values, pads) ← lastGroup offset (i + 1) pads rest
      return ((b, v) :: values, pads)

/-- The bytes of the last group. -/
def closing (offset : Nat) (text : List UInt8) : Except Fault (List UInt8) := do
  let (values, pads) ← lastGroup offset 0 0 text
  match values, pads with
  | [], 0 => return []
  | [(_, a), (s, b)], 2 =>
    if b % 16 = 0 then return [UInt8.ofNat (a * 4 + b / 16)]
    else throw (.lastSymbol s (offset + 1))
  | [(_, a), (_, b), (s, c)], 1 =>
    if c % 4 = 0 then return [UInt8.ofNat (a * 4 + b / 16), UInt8.ofNat (b % 16 * 16 + c / 4)]
    else throw (.lastSymbol s (offset + 2))
  | [(_, a), (_, b), (_, c), (_, d)], 0 =>
    return [UInt8.ofNat (a * 4 + b / 16), UInt8.ofNat (b % 16 * 16 + c / 4),
      UInt8.ofNat (c % 4 * 64 + d)]
  | [_], _ => throw (.length (offset + 1))
  | _, _ => throw .padding

/-- Every group but the last is full; the last has what is left, four symbols at most. -/
def groups (offset : Nat) : List UInt8 → Except Fault (List UInt8)
  | a :: b :: c :: d :: e :: rest => do
    let bytes ← group offset a b c d
    let more ← groups (offset + 4) (e :: rest)
    return bytes ++ more
  | text => closing offset text

/-- A symbol beyond the last full group that is none of the alphabet is reported first. -/
def decode (text : List UInt8) : Except Fault (List UInt8) :=
  match text.length % 4, text.getLast? with
  | 1, some b =>
    if b ≠ pad ∧ value? b = none then .error (.symbol b (text.length - 1)) else groups 0 text
  | _, _ => groups 0 text

end LuaStubs.Encoding.Base64
