import LuaStubs.Keyed
import LuaStubs.Json.Binary64

/-! JSON values.  Objects keep their members in order, repeated names included; `collapse` leaves
one member for each name. -/
namespace LuaStubs

/-- An integer of at most 64 bits, or a binary floating point value with its sign. -/
inductive Json.Number where
  | integer (value : Int)
  | decimal (negative : Bool) (magnitude : Json.Binary64)
deriving DecidableEq, Repr

inductive Json where
  | null
  | bool (value : Bool)
  | number (value : Json.Number)
  | string (value : String)
  | array (items : List Json)
  | object (members : List (String × Json))
deriving Repr

namespace Json

namespace Number

/-- Digits with a point, at least one digit on either side of it. -/
def plain (digits : List Char) (exponent : Int) : List Char :=
  if 0 ≤ exponent then digits ++ List.replicate exponent.toNat '0' ++ ['.', '0']
  else
    let places := (-exponent).toNat
    if places < digits.length then
      digits.take (digits.length - places) ++ '.' :: digits.drop (digits.length - places)
    else '0' :: '.' :: List.replicate (places - digits.length) '0' ++ digits

/-- One digit before the point, and the power of ten with its sign. -/
def scientific (digits : List Char) (power : Int) : List Char :=
  let sign := if 0 ≤ power then '+' else '-'
  let fraction := if digits.length ≤ 1 then [] else '.' :: digits.drop 1
  digits.take 1 ++ fraction ++ 'e' :: sign :: (toString power.natAbs).toList

/-- Powers of ten written positionally. -/
def isPositional (power : Int) : Bool := -5 ≤ power && power ≤ 15

def magnitudeText (v : Binary64) : List Char :=
  let d := v.shortest
  let digits := (toString d.digits).toList
  let power : Int := d.exponent + digits.length - 1
  if isPositional power then plain digits d.exponent else scientific digits power

/-- Integers in digits, other values with the fewest digits that read back. -/
def text : Number → String
  | .integer n => toString n
  | .decimal negative v =>
    String.ofList (if negative then '-' :: magnitudeText v else magnitudeText v)

end Number

mutual

/-- Repeated names keep the place of the first member and the value of the last. -/
def collapse : Json → Json
  | .array items => .array (collapseItems items)
  | .object members => .object (Keyed.putAll Prod.fst [] (collapseMembers members))
  | .null => .null
  | .bool b => .bool b
  | .number n => .number n
  | .string s => .string s

def collapseItems : List Json → List Json
  | [] => []
  | j :: rest => j.collapse :: collapseItems rest

def collapseMembers : List (String × Json) → List (String × Json)
  | [] => []
  | (k, j) :: rest => (k, j.collapse) :: collapseMembers rest

end

/-- The value of the first member of that name. -/
def member? (name : String) : Json → Option Json
  | .object members => (Keyed.get? Prod.fst name members).map Prod.snd
  | _ => none

end Json

end LuaStubs
