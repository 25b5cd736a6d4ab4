import LuaStubs.Json.Basic
import LuaStubs.Log.Pattern
import LuaStubs.Text.Affix
import LuaStubs.Text.Digits

/-! What a directive asks of a field: its name, and perhaps a value. -/
namespace LuaStubs.Log

open LuaStubs.Text
open LuaStubs.Json (Binary64)

/-- A decimal without a magnitude is infinite; what is no other value is a pattern. -/
inductive FieldValue where
  | bool (b : Bool)
  | decimal (isNegative : Bool) (magnitude : Option Binary64)
  | noNumber
  | signed (n : Int)
  | unsigned (n : Nat)
  | pattern (text : String)
deriving DecidableEq, Repr

namespace FieldValue

/-! ## Reading -/

def unsigned? (cs : List Char) : Option FieldValue :=
  (natural? cs).bind (fun n => if n < Nat.pow 2 64 then some (.unsigned n) else none)

/-- Only numbers with a minus are left for this form. -/
def signed? (cs : List Char) : Option FieldValue :=
  match cs with
  | '-' :: '+' :: _ => none
  | '-' :: rest =>
    (natural? rest).bind (fun n => if n ≤ Nat.pow 2 63 then some (.signed (-n)) else none)
  | _ => none

/-- The power of ten after the mark, or zero if nothing follows the digits. -/
def power? (cs : List Char) : Option Int :=
  match cs with
  | [] => some 0
  | mark :: rest =>
    if mark.toLower ≠ 'e' then none
    else
      match rest with
      | '-' :: '+' :: _ => none
      | '-' :: digits => (natural? digits).map (fun n => -(n : Int))
      | digits => (natural? digits).map (fun n => (n : Int))

/-- The value nearest to `n * 10 ^ e`; what lies far out of the range is not computed. -/
def nearest (n : Nat) (e : Int) : Option Binary64 :=
  let top : Int := e + (toString n).length
  if n = 0 || top < -400 then some .zero
  else if 400 < top then none
  else if 0 ≤ e then Binary64.ofRatio? (n * Nat.pow 10 e.toNat) 1
  else Binary64.ofRatio? n (Nat.pow 10 (-e).toNat)

/-- Digits with or without a point among them or at either end, and perhaps a power of ten. -/
def magnitude? (cs : List Char) : Option (Option Binary64) :=
  let whole := cs.takeWhile Char.isDigit
  let rest := cs.dropWhile Char.isDigit
  let hasPoint := rest.head? = some '.'
  let tail := if hasPoint then rest.drop 1 else rest
  let fraction := if hasPoint then tail.takeWhile Char.isDigit else []
  let rest := if hasPoint then tail.dropWhile Char.isDigit else tail
  if whole = [] && fraction = [] then none
  else
    (power? rest).map (fun e => nearest (extend 0 (whole ++ fraction)) (e - fraction.length))

def isWord (word : String) (cs : List Char) : Bool := cs.map Char.toLower = word.toList

/-- A decimal with or without a sign, or one of the words for what is no number. -/
def decimal? (cs : List Char) : Option FieldValue :=
  let digits := if cs.head? = some '-' || cs.head? = some '+' then cs.drop 1 else cs
  let isNegative := cs.head? = some '-'
  if isWord "nan" digits then some .noNumber
  else if isWord "inf" digits || isWord "infinity" digits then some (.decimal isNegative none)
  else (magnitude? digits).map (.decimal isNegative)

/-- The first form that fits. -/
def parse (cs : List Char) : Except Pattern.Fault FieldValue :=
  if cs = "true".toList then .ok (.bool true)
  else if cs = "false".toList then .ok (.bool false)
  else
    match ((unsigned? cs).or (signed? cs)).or (decimal? cs) with
    | some v => .ok v
    | none => (Pattern.check cs).map (fun _ => .pattern (String.ofList cs))

/-! ## Printing -/

/-- The fewest digits that read back, without a power of ten. -/
def magnitudeText (v : Binary64) : List Char :=
  let digits := (toString v.shortest.digits).toList
  let e := v.shortest.exponent
  if 0 ≤ e then digits ++ List.replicate e.toNat '0' else Json.Number.plain digits e

def text : FieldValue → String
  | .bool b => if b then "true" else "false"
  | .decimal isNegative magnitude =>
    String.ofList ((if isNegative then ['-'] else []) ++
      (magnitude.map magnitudeText).getD "inf".toList)
  | .noNumber => "NaN"
  | .signed n => toString n
  | .unsigned n => toString n
  | .pattern s => s

/-! ## Order -/

def rank : FieldValue → Nat
  | .bool _ => 0
  | .decimal _ _ => 1
  | .noNumber => 2
  | .signed _ => 3
  | .unsigned _ => 4
  | .pattern _ => 5

def compareMagnitudes (a b : Option Binary64) : Ordering :=
  match a, b with
  | none, none => .eq
  | none, some _ => .gt
  | some _, none => .lt
  | some v, some w => Ord.compare (v.ratio.1 * w.ratio.2) (w.ratio.1 * v.ratio.2)

/-- Zeros of either sign are equal. -/
def compareDecimals (a b : Bool × Option Binary64) : Ordering :=
  let isNegative (x : Bool × Option Binary64) : Bool :=
    x.1 && (x.2.map Binary64.mantissa).getD 1 ≠ 0
  match isNegative a, isNegative b with
  | false, false => compareMagnitudes a.2 b.2
  | true, true => compareMagnitudes b.2 a.2
  | true, false => .lt
  | false, true => .gt

def compare (a b : FieldValue) : Ordering :=
  match a, b with
  | .bool a, .bool b => Ord.compare a.toNat b.toNat
  | .decimal m a, .decimal n b => compareDecimals (m, a) (n, b)
  | .signed a, .signed b => Ord.compare a b
  | .unsigned a, .unsigned b => Ord.compare a b
  | .pattern a, .pattern b => Ord.compare a b
  | a, b => Ord.compare a.rank b.rank

end FieldValue

structure FieldFilter where
  name : String
  value : Option FieldValue
deriving DecidableEq, Repr

namespace FieldFilter

/-- A name, or a name and a value with `=` between them; what follows a second `=` does not count. -/
def parse (cs : List Char) : Except Pattern.Fault FieldFilter :=
  match split (· = '=') cs with
  | name :: value :: _ => (FieldValue.parse value).map (fun v => ⟨String.ofList name, some v⟩)
  | _ => .ok ⟨String.ofList cs, none⟩

def text (f : FieldFilter) : String :=
  match f.value with
  | none => f.name
  | some v => f.name ++ "=" ++ v.text

/-- Two values; a field without one comes first. -/
def compareValues (a b : Option FieldValue) : Ordering :=
  match a, b with
  | none, none => .eq
  | none, some _ => .lt
  | some _, none => .gt
  | some v, some w => v.compare w

/-- Whether a value is asked for counts first, then the name, then the value. -/
def compare (a b : FieldFilter) : Ordering :=
  ((Ord.compare a.value.isSome.toNat b.value.isSome.toNat).then
    (Ord.compare a.name b.name)).then (compareValues a.value b.value)

end FieldFilter

end LuaStubs.Log
