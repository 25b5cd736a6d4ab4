/-! Binary floating point with 53 significant bits, computed exactly on natural numbers.  A value is
`mantissa * 2 ^ exponent`; rounding goes to the nearest value and ties go to an even mantissa. -/
namespace LuaStubs.Json

/-- A nonnegative finite value. -/
structure Binary64 where
  mantissa : Nat
  exponent : Int
deriving DecidableEq, Repr, Inhabited

namespace Binary64

def minExponent : Int := -1074

def maxExponent : Int := 971

def zero : Binary64 := ⟨0, minExponent⟩

/-- `n / d` rounded to the nearest integer, ties to even. -/
def divNearest (n d : Nat) : Nat :=
  let q := n / d
  let r := n % d
  if d < 2 * r ∨ (2 * r = d ∧ q % 2 = 1) then q + 1 else q

/-- `n * 2 ^ e / d` as a quotient of natural numbers. -/
def shifted (n d : Nat) (e : Int) : Nat × Nat :=
  if 0 ≤ e then (n * Nat.pow 2 e.toNat, d) else (n, d * Nat.pow 2 (-e).toNat)

/-- The exponent at which the quotient has 53 bits, or the least one. -/
def scaleOf (n d : Nat) : Int :=
  let e : Int := (Nat.log2 n : Int) - (Nat.log2 d : Int) - 52
  let s := shifted n d (-e)
  let e := if s.1 < Nat.pow 2 52 * s.2 then e - 1 else e
  max e minExponent

/-- The value nearest to `n / d`, or `none` past the largest one. -/
def ofRatio? (n d : Nat) : Option Binary64 :=
  if n = 0 then some zero
  else
    let e := scaleOf n d
    let s := shifted n d (-e)
    let m := divNearest s.1 s.2
    let v : Binary64 := if m = Nat.pow 2 53 then ⟨Nat.pow 2 52, e + 1⟩ else ⟨m, e⟩
    if maxExponent < v.exponent then none else some v

/-- The value as a quotient. -/
def ratio (v : Binary64) : Nat × Nat := shifted v.mantissa 1 v.exponent

def mul? (v w : Binary64) : Option Binary64 :=
  ofRatio? (v.ratio.1 * w.ratio.1) (v.ratio.2 * w.ratio.2)

def div? (v w : Binary64) : Option Binary64 :=
  ofRatio? (v.ratio.1 * w.ratio.2) (v.ratio.2 * w.ratio.1)

def ofNat? (n : Nat) : Option Binary64 := ofRatio? n 1

/-- The value nearest to `10 ^ e`. -/
def powTen? (e : Nat) : Option Binary64 := ofNat? (Nat.pow 10 e)

/-- `v * 10 ^ e` in steps of at most 308: one rounding for each step.  A step down that reaches zero
ends there, and a step up beyond 308 leaves the range. -/
def scaleTen? (v : Binary64) (e : Int) : Option Binary64 :=
  go (e.natAbs / 308) v e
where
  go : Nat → Binary64 → Int → Option Binary64
    | steps, v, e =>
      if e.natAbs ≤ 308 then
        (powTen? e.natAbs).bind (fun p => if 0 ≤ e then v.mul? p else v.div? p)
      else if v.mantissa = 0 then some v
      else if 0 ≤ e then none
      else
        match steps with
        | 0 => none
        | steps + 1 => ((powTen? 308).bind v.div?).bind (fun v => go steps v (e + 308))

/-! Shortest decimals. -/

/-- `digits * 10 ^ exponent`. -/
structure Decimal where
  digits : Nat
  exponent : Int
deriving DecidableEq, Repr

/-- Drops zeros at the end of the digits. -/
def Decimal.trim (d : Decimal) : Decimal :=
  go (Nat.log2 d.digits) d
where
  go : Nat → Decimal → Decimal
    | 0, d => d
    | fuel + 1, d =>
      if d.digits ≠ 0 ∧ d.digits % 10 = 0 then go fuel ⟨d.digits / 10, d.exponent + 1⟩ else d

/-- The exponent of the first digit of `n / d`. -/
def leading (n d : Nat) : Int :=
  if d ≤ n then ((toString (n / d)).length : Int) - 1
  else
    let k := (toString (d / n)).length
    if d ≤ n * Nat.pow 10 (k - 1) then 1 - (k : Int) else -(k : Int)

/-- The candidate on the grid `10 ^ e` that reads back as `v`: of the two neighbours of `v` the
nearer one, the even one on a tie. -/
def onGrid? (v : Binary64) (e : Int) : Option Decimal :=
  let closer := v.mantissa = Nat.pow 2 52 ∧ minExponent < v.exponent
  let s := shifted 1 1 (v.exponent - 2)
  let unit := s.1 * (if e < 0 then Nat.pow 10 (-e).toNat else 1)
  let grid := s.2 * (if 0 ≤ e then Nat.pow 10 e.toNat else 1)
  let value := 4 * v.mantissa * unit
  let lower := value - (if closer then 1 else 2) * unit
  let upper := value + 2 * unit
  let even := v.mantissa % 2 = 0
  let inside (x : Nat) : Bool :=
    if even then lower ≤ x && x ≤ upper else lower < x && x < upper
  let c := value / grid
  let below := c * grid
  let above := below + grid
  let first := inside below && 0 < c
  let second := inside above
  let up := above - value < value - below ∨ (above - value = value - below ∧ c % 2 = 1)
  if first && second then some (if up then ⟨c + 1, e⟩ else ⟨c, e⟩)
  else if first then some ⟨c, e⟩
  else if second then some ⟨c + 1, e⟩
  else none

/-- The decimal with the fewest digits that reads back as `v`, and the nearest of those. -/
def shortest (v : Binary64) : Decimal :=
  if v.mantissa = 0 then ⟨0, 0⟩
  else
    let k := leading v.ratio.1 v.ratio.2
    match (List.range 17).findSome? (fun (n : Nat) => onGrid? v (k - (n : Int))) with
    | some d => d.trim
    | none => ⟨v.mantissa, 0⟩

end Binary64

end LuaStubs.Json
