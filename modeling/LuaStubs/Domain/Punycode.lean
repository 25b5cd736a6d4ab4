/-! Punycode: a label with characters beyond ASCII, written in ASCII.  The plain characters come
first.  The others are inserted between them in the order of their numbers; what is written for each
is its gap, the count of insertions that were possible since the one before it. -/
namespace LuaStubs.Domain.Punycode

/-! ## Insertions -/

/-- A character by its number, and how many characters stand before it when it is inserted. -/
structure Insertion where
  number : Nat
  place : Nat
deriving DecidableEq, Repr

def isPlain (c : Char) : Bool := c.toNat < 128

/-- Before a character stand those in front of it whose numbers are not larger. -/
def insertion (label : List Char) (c : Char) (i : Nat) : Insertion :=
  ⟨c.toNat, (label.take i).countP (fun d => d.toNat ≤ c.toNat)⟩

/-- The characters to insert, by number and then from left to right. -/
def insertions (label : List Char) : List Insertion :=
  ((label.zipIdx.filter (fun x => !isPlain x.1)).map (fun x => insertion label x.1 x.2)).mergeSort
    (fun x y => x.number ≤ y.number)

/-- Among `count` characters there are `count + 1` places for each number; `next` is the first
insertion that is still possible. -/
def gaps (count : Nat) (next : Insertion) : List Insertion → List Nat
  | [] => []
  | x :: rest =>
    ((x.number - next.number) * (count + 1) + x.place - next.place) ::
      gaps (count + 1) ⟨x.number, x.place + 1⟩ rest

/-! ## Numbers in letters -/

/-- Letters are the lower digits. -/
def digit (n : Nat) : Char := if n < 26 then Char.ofNat (97 + n) else Char.ofNat (22 + n)

def digit? (c : Char) : Option Nat :=
  let n := c.toLower.toNat
  if 97 ≤ n ∧ n ≤ 122 then some (n - 97)
  else if 48 ≤ n ∧ n ≤ 57 then some (n - 22)
  else none

theorem digit?_digit {n : Nat} (h : n < 36) : digit? (digit n) = some n := by
  have all : ∀ m < 36, digit? (digit m) = some m := by decide
  exact all n h

/-- A digit below its threshold ends a number. -/
def threshold (bias place : Nat) : Nat := max 1 (min 26 (place - bias))

theorem one_le_threshold (bias place : Nat) : 1 ≤ threshold bias place := by
  simp only [threshold]
  omega

/-- The digits of a number, the lightest first. -/
def digits (bias place n : Nat) : List Char :=
  let t := threshold bias place
  if n < t then [digit n]
  else digit (t + (n - t) % (36 - t)) :: digits bias (place + 36) ((n - t) / (36 - t))
termination_by n
decreasing_by
  have := one_le_threshold bias place
  have := Nat.div_le_self (n - threshold bias place) (36 - threshold bias place)
  omega

/-- Adds 36 for every division by 35 that brings `n` down to 455. -/
def shrink (n bias : Nat) : Nat :=
  if 455 < n then shrink (n / 35) (bias + 36) else bias + 36 * n / (n + 38)
termination_by n
decreasing_by omega

/-- The bias after a gap among `count` characters: large gaps let the digits of the next one be
large. -/
def biasAfter (gap count : Nat) (isFirst : Bool) : Nat :=
  let n := if isFirst then gap / 700 else gap / 2
  shrink (n + n / count) 0

def spell (bias count : Nat) (isFirst : Bool) : List Nat → List Char
  | [] => []
  | gap :: rest =>
    digits bias 36 gap ++ spell (biasAfter gap (count + 1) isFirst) (count + 1) false rest

def encode (label : List Char) : List Char :=
  let plain := label.filter isPlain
  let tail := spell 72 plain.length true (gaps plain.length ⟨128, 0⟩ (insertions label))
  if plain = [] then tail else plain ++ '-' :: tail

/-! ## Reading -/

/-- Numbers have 32 bits. -/
def limit : Nat := Nat.pow 2 32

def isScalar (n : Nat) : Bool := n < 0xD800 || (0xE000 ≤ n && n < 0x110000)

/-- A label that is read: its characters so far, the first insertion that is still possible, and of
the gap that follows the sum of the digits read, the weight of the next one and its position. -/
structure Reader where
  label : List Char
  next : Insertion
  bias : Nat
  isFirst : Bool
  gap : Nat
  weight : Nat
  position : Nat
deriving DecidableEq, Repr

namespace Reader

def start (plain : List Char) : Reader := ⟨plain, ⟨128, 0⟩, 72, true, 0, 1, 36⟩

/-- Makes the insertion that a whole gap stands for. -/
def insert? (r : Reader) (gap : Nat) : Option Reader :=
  let count := r.label.length + 1
  let place := (r.next.place + gap) % count
  let number := r.next.number + (r.next.place + gap) / count
  if isScalar number then
    some
      { label := r.label.take place ++ Char.ofNat number :: r.label.drop place
        next := ⟨number, place + 1⟩
        bias := biasAfter gap count r.isFirst
        isFirst := false
        gap := 0
        weight := 1
        position := 36 }
  else none

def step? (r : Reader) (c : Char) : Option Reader := do
  let d ← digit? c
  let gap := r.gap + d * r.weight
  let t := threshold r.bias r.position
  if limit ≤ r.next.place + gap then none
  else if d < t then r.insert? gap
  else if limit ≤ r.weight * (36 - t) then none
  else return { r with gap := gap, weight := r.weight * (36 - t), position := r.position + 36 }

/-- Between two gaps. -/
def isComplete (r : Reader) : Bool := r.position = 36

end Reader

/-- The plain characters before the last dash, if there are any, and what follows. -/
def cut (cs : List Char) : List Char × List Char :=
  match cs.reverse.dropWhile (· ≠ '-') with
  | [] | [_] => ([], cs)
  | _ :: front => (front.reverse, (cs.reverse.takeWhile (· ≠ '-')).reverse)

/-- The label behind an ASCII text, if it is one. -/
def decode? (cs : List Char) : Option (List Char) := do
  let (plain, tail) := cut cs
  let r ← tail.foldlM Reader.step? (.start plain)
  if r.isComplete then return r.label else none

end LuaStubs.Domain.Punycode
