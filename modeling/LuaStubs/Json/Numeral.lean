import LuaStubs.Json.Cursor

/-! Number tokens.  `scan` takes the longest token; `value` computes it: integers of at most 64 bits
exactly, anything else from the digits that fit 64 bits and a power of ten. -/
namespace LuaStubs.Json

/-- A token in parts; digits are numbers below ten. -/
structure Numeral where
  negative : Bool
  whole : List Nat
  fraction : Option (List Nat)
  exponent : Option (Bool × List Nat)
deriving DecidableEq, Repr

namespace Numeral

def digit? (c : Char) : Option Nat :=
  if 48 ≤ c.toNat ∧ c.toNat ≤ 57 then some (c.toNat - 48) else none

/-- The digits that a text begins with, and the rest of it. -/
def digits : List Char → List Nat × List Char
  | [] => ([], [])
  | c :: cs =>
    match digit? c with
    | some d =>
      let run := digits cs
      (d :: run.1, run.2)
    | none => ([], c :: cs)

def across (p : Place) (n : Nat) : Place := ⟨p.line, p.column + n⟩

/-- The token cannot go on with the next byte, or the text ends in it. -/
def broken (c : Cursor) : Fault :=
  match c.rest with
  | [] => .worded (.endOf .value) .number c.here
  | _ :: _ => .plain .number c.ahead

/-- The exponent, if the text goes on with one. -/
def scanExponent (c : Cursor) : Except Fault (Option (Bool × List Nat) × Cursor) :=
  let tail (negative : Bool) (c : Cursor) : Except Fault (Option (Bool × List Nat) × Cursor) :=
    match digits c.rest with
    | ([], _) => .error (broken c)
    | (ds, rest) => .ok (some (negative, ds), ⟨rest, across c.place ds.length⟩)
  match c.rest with
  | 'e' :: '-' :: rest | 'E' :: '-' :: rest => tail true ⟨rest, across c.place 2⟩
  | 'e' :: '+' :: rest | 'E' :: '+' :: rest => tail false ⟨rest, across c.place 2⟩
  | 'e' :: rest | 'E' :: rest => tail false ⟨rest, across c.place 1⟩
  | _ => .ok (none, c)

/-- The fraction, if the text goes on with one. -/
def scanFraction (c : Cursor) : Except Fault (Option (List Nat) × Cursor) :=
  match c.rest with
  | '.' :: rest =>
    let c : Cursor := ⟨rest, across c.place 1⟩
    match digits rest with
    | ([], _) => .error (broken c)
    | (ds, rest) => .ok (some ds, ⟨rest, across c.place ds.length⟩)
  | _ => .ok (none, c)

/-- A zero in front stands alone. -/
def scanWhole (c : Cursor) : Except Fault (List Nat × Cursor) :=
  match digits c.rest with
  | ([], _) => .error (broken c)
  | (0 :: _ :: _, _) => .error (.plain .number (.both (across c.place 2)))
  | (ds, rest) => .ok (ds, ⟨rest, across c.place ds.length⟩)

def scan (c : Cursor) : Except Fault (Numeral × Cursor) := do
  let (negative, c) : Bool × Cursor :=
    match c.rest with
    | '-' :: rest => (true, ⟨rest, across c.place 1⟩)
    | _ => (false, c)
  let (whole, c) ← scanWhole c
  let (fraction, c) ← scanFraction c
  let (exponent, c) ← scanExponent c
  return (⟨negative, whole, fraction, exponent⟩, c)

/-- Takes digits while the number they extend stays below `2 ^ 64`; the rest is left. -/
def gather (n : Nat) : List Nat → Nat × List Nat
  | [] => (n, [])
  | d :: ds => if n * 10 + d < Nat.pow 2 64 then gather (n * 10 + d) ds else (n, d :: ds)

/-- Reads an exponent; `none` with the count of digits that already pass 31 bits. -/
def power (n taken : Nat) : List Nat → Nat ⊕ Nat
  | [] => .inl n
  | d :: ds =>
    if n * 10 + d < Nat.pow 2 31 then power (n * 10 + d) (taken + 1) ds else .inr (taken + 1)

/-- A number that is no integer token: the significand times a power of ten. -/
def scaled (negative : Bool) (significand : Nat) (exponent : Int) : Option Number :=
  ((Binary64.ofNat? significand).bind (fun v => v.scaleTen? exponent)).map (Number.decimal negative)

/-- The digits that fit, as a number, and the power of ten that they are short of. -/
def significand (t : Numeral) : Nat × Int :=
  let (n, left) := gather 0 t.whole
  match t.fraction with
  | none => (n, left.length)
  | some f =>
    let (m, unread) := gather n f
    (m, (left.length : Int) - ((f.length - unread.length : Nat) : Int))

/-- The value of a token, or how many of its exponent's digits put it out of range; `none` stands
for the whole token. -/
def value (t : Numeral) : Except (Option Nat) Number :=
  let (n, point) := t.significand
  let inRange (exponent : Int) : Except (Option Nat) Number :=
    match scaled t.negative n exponent with
    | some v => .ok v
    | none => .error none
  match t.fraction, t.exponent with
  | none, none =>
    if point ≠ 0 then inRange point
    else if t.negative = false then .ok (.integer n)
    else if 0 < n ∧ n ≤ Nat.pow 2 63 then .ok (.integer (-n))
    else inRange 0
  | some _, none => inRange point
  | _, some (negative, ds) =>
    match power 0 0 ds with
    | .inl e => inRange (if negative then point - e else point + e)
    | .inr taken =>
      if n = 0 ∨ negative = true then .ok (.decimal t.negative .zero) else .error (some taken)

/-- The value at `stop`, the cursor behind the token. -/
def read (t : Numeral) (stop : Cursor) : Except Problem Number :=
  match t.value with
  | .ok v => .ok v
  | .error none => .error ⟨.range, stop.looking⟩
  | .error (some taken) =>
    let after := match t.exponent with
      | none => 0
      | some (_, ds) => ds.length - taken
    .error ⟨.range, .both ⟨stop.place.line, stop.place.column - after⟩⟩

end Numeral

end LuaStubs.Json
