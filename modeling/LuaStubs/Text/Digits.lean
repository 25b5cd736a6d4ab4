/-! Decimal digits as numbers. -/
namespace LuaStubs.Text

/-- The number that digits spell, from a number that they extend. -/
def extend (n : Nat) (digits : List Char) : Nat :=
  digits.foldl (fun n c => n * 10 + (c.toNat - 48)) n

/-- A number without a sign or with a plus; leading zeros do not matter. -/
def natural? (cs : List Char) : Option Nat :=
  let digits := if cs.head? = some '+' then cs.drop 1 else cs
  if digits ≠ [] && digits.all Char.isDigit then some (extend 0 digits) else none

end LuaStubs.Text
