import LuaStubs.Proofs.Json.Binary64
import Mathlib.Data.List.Range

/-! The decimal that stands for a value: it is read back as the value, and a decimal of at most fifteen
digits stands for the value that it is rounded to. -/
namespace LuaStubs.Json.Binary64

/-! ## Decimals -/

namespace Decimal

def toRat (d : Decimal) : ℚ := d.digits * 10 ^ d.exponent

/-- No zero stands at the end of the digits. -/
def IsTrimmed (d : Decimal) : Prop := d.digits % 10 ≠ 0

theorem toRat_trim_go (fuel : Nat) (d : Decimal) : (trim.go fuel d).toRat = d.toRat := by
  induction fuel generalizing d with
  | zero => rfl
  | succ fuel ih =>
    rw [trim.go]
    split
    · next h =>
      obtain ⟨k, hk⟩ : ∃ k, d.digits = 10 * k := ⟨d.digits / 10, by omega⟩
      rw [ih, toRat, toRat, hk, Nat.mul_div_cancel_left k (by decide), zpow_add_one₀ (by norm_num)]
      push_cast
      ring
    · rfl

theorem isTrimmed_trim_go {fuel : Nat} {d : Decimal} (hd : d.digits ≠ 0)
    (hfuel : Nat.log2 d.digits ≤ fuel) : (trim.go fuel d).IsTrimmed := by
  induction fuel generalizing d with
  | zero =>
    have hone : d.digits < 2 ^ 1 := (Nat.log2_lt hd).mp (by omega)
    rw [trim.go, IsTrimmed]
    omega
  | succ fuel ih =>
    rw [trim.go]
    split
    · next h =>
      have hbelow : d.digits < 2 ^ (fuel + 2) := (Nat.log2_lt hd).mp (by omega)
      rw [Nat.pow_succ] at hbelow
      refine ih (by dsimp only; omega) (Nat.lt_succ_iff.mp ((Nat.log2_lt ?_).mpr ?_))
      · dsimp only
        omega
      · dsimp only
        omega
    · next h =>
      rw [IsTrimmed]
      omega

theorem exponent_le_trim_go (fuel : Nat) (d : Decimal) :
    d.exponent ≤ (trim.go fuel d).exponent := by
  induction fuel generalizing d with
  | zero => exact le_refl _
  | succ fuel ih =>
    rw [trim.go]
    split
    · exact (by omega : d.exponent ≤ d.exponent + 1).trans (ih _)
    · exact le_refl _

theorem exponent_le_trim (d : Decimal) : d.exponent ≤ d.trim.exponent := exponent_le_trim_go _ d

theorem digits_trim_go_le (fuel : Nat) (d : Decimal) : (trim.go fuel d).digits ≤ d.digits := by
  induction fuel generalizing d with
  | zero => exact le_refl _
  | succ fuel ih =>
    rw [trim.go]
    split
    · exact (ih _).trans (Nat.div_le_self _ _)
    · exact le_refl _

theorem digits_trim_le (d : Decimal) : d.trim.digits ≤ d.digits := digits_trim_go_le _ d

theorem toRat_trim (d : Decimal) : d.trim.toRat = d.toRat := toRat_trim_go _ d

theorem isTrimmed_trim {d : Decimal} (hd : d.digits ≠ 0) : d.trim.IsTrimmed :=
  isTrimmed_trim_go hd (le_refl _)

/-- A decimal in units of a lower place. -/
theorem toRat_of_le {d : Decimal} {p : Int} (h : p ≤ d.exponent) :
    d.toRat = (d.digits * 10 ^ (d.exponent - p).toNat : Nat) * 10 ^ p := by
  obtain ⟨k, hk⟩ := Int.eq_ofNat_of_zero_le (a := d.exponent - p) (by omega)
  have hexponent : d.exponent = k + p := by omega
  rw [toRat, hexponent, zpow_add₀ (by norm_num), zpow_natCast]
  push_cast
  simp
  ring

/-- Decimals with the same place at the end are a whole number of units of that place apart. -/
theorem eq_of_near {d e : Decimal} {p : Int} (hd : p ≤ d.exponent) (he : p ≤ e.exponent)
    (h : |d.toRat - e.toRat| < 10 ^ p) : d.toRat = e.toRat := by
  obtain ⟨j, hj⟩ : ∃ j : Nat, d.toRat = j * 10 ^ p := ⟨_, toRat_of_le hd⟩
  obtain ⟨k, hk⟩ : ∃ k : Nat, e.toRat = k * 10 ^ p := ⟨_, toRat_of_le he⟩
  have hunit : (0 : ℚ) < 10 ^ p := by positivity
  rw [hj, hk, ← sub_mul, abs_mul, abs_of_pos hunit, mul_lt_iff_lt_one_left hunit] at h
  have hint : |(j : Int) - k| < 1 := by exact_mod_cast h
  have heq := Int.abs_lt_one_iff.mp hint
  rw [hj, hk, show j = k by omega]

/-- A number has one decimal without zeros at the end. -/
theorem eq_of_toRat_eq {d e : Decimal} (hd : d.IsTrimmed) (he : e.IsTrimmed)
    (h : d.toRat = e.toRat) : d = e := by
  have hle {d e : Decimal} (hd : d.IsTrimmed) (h : d.toRat = e.toRat) :
      e.exponent ≤ d.exponent := by
    by_contra hlt
    obtain ⟨k, hk⟩ := Int.eq_ofNat_of_zero_le (a := e.exponent - d.exponent - 1) (by omega)
    have hexponent : e.exponent = d.exponent + (k + 1 : Nat) := by omega
    rw [toRat, toRat, hexponent, zpow_add₀ (by norm_num), zpow_natCast, mul_comm (10 ^ _ : ℚ),
      ← mul_assoc] at h
    have hdigits : (d.digits : ℚ) = e.digits * 10 ^ (k + 1) :=
      mul_right_cancel₀ (by positivity) h
    have hdigits : d.digits = e.digits * 10 ^ (k + 1) := by exact_mod_cast hdigits
    rw [IsTrimmed, hdigits, Nat.pow_succ, ← Nat.mul_assoc, Nat.mul_mod_left] at hd
    exact hd rfl
  have hexponent : d.exponent = e.exponent := le_antisymm (hle he h.symm) (hle hd h)
  rw [toRat, toRat, hexponent] at h
  have hdigits : (d.digits : ℚ) = e.digits := mul_right_cancel₀ (by positivity) h
  obtain ⟨n, p⟩ := d
  obtain ⟨m, q⟩ := e
  obtain rfl : n = m := by exact_mod_cast hdigits
  obtain rfl : p = q := hexponent
  rfl

end Decimal

/-! ## The first digit -/

/-- A number is written with as many digits as there are powers of ten up to it. -/
theorem length_toString {n : Nat} (hn : 0 < n) :
    ∃ k, (toString n).length = k + 1 ∧ 10 ^ k ≤ n ∧ n < 10 ^ (k + 1) := by
  have hpos : 0 < (toString n).length := Nat.length_repr_pos
  obtain ⟨k, hk⟩ : ∃ k, (toString n).length = k + 1 := ⟨(toString n).length - 1, by omega⟩
  have hlt (j : Nat) (hj : 0 < j) : (toString n).length ≤ j ↔ n < 10 ^ j := Nat.length_repr_le_iff hj
  refine ⟨k, hk, ?_, (hlt (k + 1) (by omega)).mp (by omega)⟩
  rcases Nat.eq_zero_or_pos k with rfl | hkpos
  · rw [pow_zero]
    exact hn
  · exact not_lt.mp (fun h => absurd ((hlt k hkpos).mpr h) (by omega))

/-- The first digit of a quotient stands at the power of ten below it. -/
theorem leading_spec {n d : Nat} (hn : 0 < n) (hd : 0 < d) :
    (10 : ℚ) ^ leading n d ≤ n / d ∧ (n / d : ℚ) < 10 ^ (leading n d + 1) := by
  have hnpos : (0 : ℚ) < n := by exact_mod_cast hn
  have hdpos : (0 : ℚ) < d := by exact_mod_cast hd
  unfold leading
  split
  · next hle =>
    obtain ⟨k, hk, hlow, hhigh⟩ := length_toString (Nat.div_pos hle hd)
    have hlow' : 10 ^ k * d ≤ n := (Nat.le_div_iff_mul_le hd).mp hlow
    have hhigh' : n < 10 ^ (k + 1) * d := (Nat.div_lt_iff_lt_mul hd).mp hhigh
    rw [hk, show ((k + 1 : Nat) : Int) - 1 = k by omega]
    constructor
    · rw [le_div_iff₀ hdpos, zpow_natCast]
      exact_mod_cast hlow'
    · rw [div_lt_iff₀ hdpos, zpow_add_one₀ (by norm_num), zpow_natCast, ← pow_succ]
      exact_mod_cast hhigh'
  · next hlt =>
    obtain ⟨k, hk, hlow, hhigh⟩ := length_toString (Nat.div_pos (by omega : n ≤ d) hn)
    have hlow' : 10 ^ k * n ≤ d := (Nat.le_div_iff_mul_le hn).mp hlow
    have hhigh' : d < 10 ^ (k + 1) * n := (Nat.div_lt_iff_lt_mul hn).mp hhigh
    have hlow'' : (n / d : ℚ) ≤ 10 ^ (-(k : Int)) := by
      rw [div_le_iff₀ hdpos, zpow_neg, zpow_natCast, ← div_eq_inv_mul, le_div_iff₀ (by positivity),
        mul_comm]
      exact_mod_cast hlow'
    dsimp only
    rw [hk]
    split
    · next hexact =>
      have hexact' : (10 : ℚ) ^ (-(k : Int)) ≤ n / d := by
        rw [le_div_iff₀ hdpos, zpow_neg, zpow_natCast, ← div_eq_inv_mul,
          div_le_iff₀ (by positivity)]
        exact_mod_cast hexact
      rw [show 1 - ((k + 1 : Nat) : Int) = -k by omega]
      exact ⟨hexact', hlow''.trans_lt (zpow_lt_zpow_right₀ (by norm_num) (by omega))⟩
    · next hshort =>
      rw [show -((k + 1 : Nat) : Int) + 1 = -k by omega]
      constructor
      · rw [le_div_iff₀ hdpos, zpow_neg, zpow_natCast, ← div_eq_inv_mul,
          div_le_iff₀ (by positivity), mul_comm]
        exact_mod_cast hhigh'.le
      · rw [div_lt_iff₀ hdpos, zpow_neg, zpow_natCast, ← div_eq_inv_mul,
          lt_div_iff₀ (by positivity)]
        exact_mod_cast not_le.mp hshort

/-! ## Candidates -/

/-- What lies strictly between the middles on either side. -/
theorem covers_of_lt {v : Binary64} {x : ℚ} (hlow : v.toRat - v.slack * v.quarter < x)
    (hhigh : x < v.toRat + 2 * v.quarter) : v.Covers x := by
  unfold Covers
  split
  · exact ⟨hlow.le, hhigh.le⟩
  · exact ⟨hlow, hhigh⟩

theorem covers_toRat (v : Binary64) : v.Covers v.toRat := by
  have hq := v.quarter_pos
  exact covers_of_lt (by linarith [mul_pos v.slack_pos hq]) (by linarith)

theorem Covers.between {v : Binary64} {x y z : ℚ} (hx : v.Covers x) (hz : v.Covers z)
    (hxy : x ≤ y) (hyz : y ≤ z) : v.Covers y := by
  unfold Covers at *
  split at hx
  · next heven =>
    rw [if_pos heven] at hz ⊢
    exact ⟨hx.1.trans hxy, hyz.trans hz.2⟩
  · next hodd =>
    rw [if_neg hodd] at hz ⊢
    exact ⟨hx.1.trans_le hxy, hyz.trans_lt hz.2⟩

/-- The quarter of the last place and the unit of a grid, as natural numbers of a common scale. -/
def gridUnits (v : Binary64) (e : Int) : Nat × Nat :=
  let s := shifted 1 1 (v.exponent - 2)
  (s.1 * (if e < 0 then Nat.pow 10 (-e).toNat else 1),
    s.2 * (if 0 ≤ e then Nat.pow 10 e.toNat else 1))

theorem exists_scale (v : Binary64) (e : Int) :
    ∃ k : ℚ, 0 < k ∧ ((v.gridUnits e).1 : ℚ) = k * v.quarter ∧
      ((v.gridUnits e).2 : ℚ) = k * 10 ^ e := by
  have hs := shifted_div 1 1 (v.exponent - 2)
  have hspos : (0 : ℚ) < (shifted 1 1 (v.exponent - 2)).2 := by
    exact_mod_cast shifted_snd_pos 1 (by decide) (v.exponent - 2)
  rw [Nat.cast_one, div_one, one_mul, div_eq_iff hspos.ne'] at hs
  unfold gridUnits
  dsimp only
  rcases Int.lt_or_le e 0 with he | he
  · obtain ⟨n, hn⟩ := Int.eq_ofNat_of_zero_le (a := -e) (by omega)
    obtain rfl : e = -(n : Int) := by omega
    refine ⟨(shifted 1 1 (v.exponent - 2)).2 * 10 ^ n, by positivity, ?_, ?_⟩
    · rw [if_pos he]
      push_cast
      rw [hs, quarter]
      simp
      ring
    · rw [if_neg (by omega)]
      simp
  · obtain ⟨n, rfl⟩ := Int.eq_ofNat_of_zero_le he
    refine ⟨(shifted 1 1 (v.exponent - 2)).2, hspos, ?_, ?_⟩
    · rw [if_neg (by omega), quarter]
      push_cast
      rw [hs]
      ring
    · rw [if_pos he]
      simp

/-- The test of a candidate, as a natural number of the common scale. -/
def insideGrid (v : Binary64) (unit x : Nat) : Bool :=
  let value := 4 * v.mantissa * unit
  let lower := value - (if v.mantissa = Nat.pow 2 52 ∧ minExponent < v.exponent then 1 else 2) * unit
  let upper := value + 2 * unit
  if v.mantissa % 2 = 0 then lower ≤ x && x ≤ upper else lower < x && x < upper

theorem insideGrid_iff {v : Binary64} (hv : 0 < v.mantissa) (e : Int) (j : Nat) :
    v.insideGrid (v.gridUnits e).1 (j * (v.gridUnits e).2) = true ↔ v.Covers (j * 10 ^ e) := by
  obtain ⟨k, hk, hunit, hgrid⟩ := v.exists_scale e
  generalize (v.gridUnits e).1 = unit at *
  generalize (v.gridUnits e).2 = grid at *
  unfold insideGrid
  dsimp only
  generalize hslack : (if v.mantissa = Nat.pow 2 52 ∧ minExponent < v.exponent then 1 else 2) = a
  have ha : (a : ℚ) = v.slack ∧ a ≤ 4 * v.mantissa := by
    rw [← hslack, slack]
    split
    · exact ⟨by norm_num, by omega⟩
    · exact ⟨by norm_num, by omega⟩
  have hle : a * unit ≤ 4 * v.mantissa * unit := Nat.mul_le_mul_right unit ha.2
  have hlower : ((4 * v.mantissa * unit - a * unit : Nat) : ℚ) =
      k * (v.toRat - v.slack * v.quarter) := by
    rw [Nat.cast_sub hle, toRat_eq, ← ha.1]
    push_cast
    rw [hunit]
    ring
  have hupper : ((4 * v.mantissa * unit + 2 * unit : Nat) : ℚ) = k * (v.toRat + 2 * v.quarter) := by
    rw [toRat_eq]
    push_cast
    rw [hunit]
    ring
  have hx : ((j * grid : Nat) : ℚ) = k * (j * 10 ^ e) := by
    push_cast
    rw [hgrid]
    ring
  unfold Covers
  split
  · rw [Bool.and_eq_true, decide_eq_true_eq, decide_eq_true_eq, ← Nat.cast_le (α := ℚ),
      ← Nat.cast_le (α := ℚ), hlower, hupper, hx, mul_le_mul_iff_of_pos_left hk,
      mul_le_mul_iff_of_pos_left hk]
  · rw [Bool.and_eq_true, decide_eq_true_eq, decide_eq_true_eq, ← Nat.cast_lt (α := ℚ),
      ← Nat.cast_lt (α := ℚ), hlower, hupper, hx, mul_lt_mul_iff_of_pos_left hk,
      mul_lt_mul_iff_of_pos_left hk]

/-- So many units of a grid are in the value. -/
def unitsBelow (v : Binary64) (e : Int) : Nat :=
  4 * v.mantissa * (v.gridUnits e).1 / (v.gridUnits e).2

theorem unitsBelow_spec (v : Binary64) (e : Int) :
    (v.unitsBelow e : ℚ) * 10 ^ e ≤ v.toRat ∧ v.toRat < (v.unitsBelow e + 1 : Nat) * 10 ^ e := by
  obtain ⟨k, hk, hunit, hgrid⟩ := v.exists_scale e
  have hgridpos : 0 < (v.gridUnits e).2 := by
    have hpos : (0 : ℚ) < (v.gridUnits e).2 := by
      rw [hgrid]
      positivity
    exact_mod_cast hpos
  have hvalue : ((4 * v.mantissa * (v.gridUnits e).1 : Nat) : ℚ) = k * v.toRat := by
    rw [toRat_eq]
    push_cast
    rw [hunit]
    ring
  have hunits (j : Nat) : ((j * (v.gridUnits e).2 : Nat) : ℚ) = k * (j * 10 ^ e) := by
    rw [Nat.cast_mul, hgrid]
    ring
  constructor
  · have hlow : v.unitsBelow e * (v.gridUnits e).2 ≤ 4 * v.mantissa * (v.gridUnits e).1 :=
      Nat.div_mul_le_self _ _
    rw [← Nat.cast_le (α := ℚ), hvalue, hunits] at hlow
    exact le_of_mul_le_mul_left hlow hk
  · have hhigh : 4 * v.mantissa * (v.gridUnits e).1 < (v.unitsBelow e + 1) * (v.gridUnits e).2 :=
      Nat.lt_mul_of_div_lt (Nat.lt_succ_self _) hgridpos
    rw [← Nat.cast_lt (α := ℚ), hvalue, hunits] at hhigh
    exact lt_of_mul_lt_mul_left hhigh hk.le

/-- Of the two neighbours on a grid, those that the value covers are candidates; one is taken. -/
theorem onGrid?_eq {v : Binary64} (hv : 0 < v.mantissa) (e : Int) :
    ∃ (first second : Bool) (up : Prop) (_ : Decidable up),
      (first = true ↔ 0 < v.unitsBelow e ∧ v.Covers (v.unitsBelow e * 10 ^ e)) ∧
      (second = true ↔ v.Covers ((v.unitsBelow e + 1 : Nat) * 10 ^ e)) ∧
      onGrid? v e =
        if first && second then
          some (if up then ⟨v.unitsBelow e + 1, e⟩ else ⟨v.unitsBelow e, e⟩)
        else if first then some ⟨v.unitsBelow e, e⟩
        else if second then some ⟨v.unitsBelow e + 1, e⟩ else none := by
  have habove := insideGrid_iff hv e (v.unitsBelow e + 1)
  rw [Nat.succ_mul] at habove
  refine ⟨v.insideGrid (v.gridUnits e).1 (v.unitsBelow e * (v.gridUnits e).2) &&
    decide (0 < v.unitsBelow e), _, _, _, ?_, habove, rfl⟩
  rw [Bool.and_eq_true, decide_eq_true_eq, insideGrid_iff hv, and_comm]

/-- What is taken on a grid is covered by the value. -/
theorem onGrid?_eq_some {v : Binary64} (hv : 0 < v.mantissa) {e : Int} {d : Decimal}
    (h : onGrid? v e = some d) : v.Covers d.toRat ∧ d.exponent = e ∧ 0 < d.digits := by
  obtain ⟨first, second, up, _, hfirst, hsecond, hgrid⟩ := onGrid?_eq hv e
  rw [hgrid] at h
  have hlower (hone : first = true) (hd : some ⟨v.unitsBelow e, e⟩ = some d) :
      v.Covers d.toRat ∧ d.exponent = e ∧ 0 < d.digits := by
    rw [← Option.some.inj hd]
    exact ⟨(hfirst.mp hone).2, rfl, (hfirst.mp hone).1⟩
  have hupper (htwo : second = true) (hd : some ⟨v.unitsBelow e + 1, e⟩ = some d) :
      v.Covers d.toRat ∧ d.exponent = e ∧ 0 < d.digits := by
    rw [← Option.some.inj hd]
    exact ⟨hsecond.mp htwo, rfl, Nat.succ_pos _⟩
  split at h
  · next hboth =>
    obtain ⟨hone, htwo⟩ := Bool.and_eq_true_iff.mp hboth
    split at h
    · exact hupper htwo h
    · exact hlower hone h
  · split at h
    · next hone => exact hlower hone h
    · split at h
      · next htwo => exact hupper htwo h
      · cases h

/-- Nothing is taken only if the value covers neither neighbour. -/
theorem not_covers_of_onGrid? {v : Binary64} (hv : 0 < v.mantissa) {e : Int}
    (h : onGrid? v e = none) : ¬ (0 < v.unitsBelow e ∧ v.Covers (v.unitsBelow e * 10 ^ e)) ∧
      ¬ v.Covers ((v.unitsBelow e + 1 : Nat) * 10 ^ e) := by
  obtain ⟨first, second, up, _, hfirst, hsecond, hgrid⟩ := onGrid?_eq hv e
  rw [hgrid] at h
  rw [← hfirst, ← hsecond]
  cases first <;> cases second <;> simp_all

/-- Where a grid has something that the value covers, something is taken. -/
theorem onGrid?_ne_none {v : Binary64} (hv : 0 < v.mantissa) {e : Int} {j : Nat} (hj : 0 < j)
    (h : v.Covers (j * 10 ^ e)) : onGrid? v e ≠ none := by
  intro hnone
  obtain ⟨hbelow, habove⟩ := not_covers_of_onGrid? hv hnone
  obtain ⟨hlow, hhigh⟩ := v.unitsBelow_spec e
  generalize v.unitsBelow e = c at *
  have hunit : (0 : ℚ) < 10 ^ e := by positivity
  rcases Nat.lt_or_ge c j with hjc | hjc
  · have hle : ((c + 1 : Nat) : ℚ) * 10 ^ e ≤ j * 10 ^ e :=
      mul_le_mul_of_nonneg_right (by exact_mod_cast hjc) hunit.le
    exact habove ((covers_toRat v).between h hhigh.le hle)
  · have hle : (j : ℚ) * 10 ^ e ≤ c * 10 ^ e :=
      mul_le_mul_of_nonneg_right (by exact_mod_cast hjc) hunit.le
    exact hbelow ⟨by omega, h.between (covers_toRat v) hle hlow⟩

/-! ## Shortest decimals -/

/-- Seventeen digits are enough. -/
theorem onGrid?_seventeen {v : Binary64} (hv : 0 < v.mantissa) (hbits : v.mantissa < 2 ^ 53)
    {k : Int} (hk : (10 : ℚ) ^ k ≤ v.toRat) : onGrid? v (k - 16) ≠ none := by
  intro hnone
  obtain ⟨hbelow, habove⟩ := not_covers_of_onGrid? hv hnone
  obtain ⟨hlow, hhigh⟩ := v.unitsBelow_spec (k - 16)
  generalize v.unitsBelow (k - 16) = c at *
  have hunit : (0 : ℚ) < 10 ^ (k - 16) := by positivity
  have hq := v.quarter_pos
  have hten : (10 : ℚ) ^ k = 10 ^ 16 * 10 ^ (k - 16) := by
    rw [← zpow_natCast (10 : ℚ) 16, ← zpow_add₀ (by norm_num)]
    congr 1
    push_cast
    ring
  rw [hten] at hk
  have hv' := v.toRat_eq
  generalize (10 : ℚ) ^ (k - 16) = unit at *
  have hmantissa : (v.mantissa : ℚ) < 2 ^ 53 := by exact_mod_cast hbits
  have hsmall : v.toRat < 2 ^ 55 * v.quarter := by
    rw [hv']
    exact mul_lt_mul_of_pos_right (by linarith) hq
  have hc : 0 < c := by
    have hone : ((1 : Nat) : ℚ) < (c + 1 : Nat) := by
      refine lt_of_mul_lt_mul_right (lt_of_le_of_lt ?_ hhigh) hunit.le
      push_cast
      linarith
    have hone : 1 < c + 1 := by exact_mod_cast hone
    omega
  have hnext : ((c + 1 : Nat) : ℚ) * unit = c * unit + unit := by
    push_cast
    ring
  rw [hnext] at hhigh habove
  by_cases hcloser : v.mantissa = Nat.pow 2 52 ∧ minExponent < v.exponent
  · have hslack : v.slack = 1 := if_pos hcloser
    have hvalue : v.toRat = 2 ^ 54 * v.quarter := by
      rw [hv', hcloser.1, Nat.pow_eq]
      push_cast
      ring
    exact habove (covers_of_lt (by rw [hslack]; linarith) (by linarith))
  · have hslack : v.slack = 2 := if_neg hcloser
    rcases lt_or_ge (v.toRat - 2 * v.quarter) (c * unit) with hnear | hfar
    · exact hbelow ⟨hc, covers_of_lt (by rw [hslack]; exact hnear) (by linarith)⟩
    · exact habove (covers_of_lt (by rw [hslack]; linarith) (by linarith))

/-- What is found first is on the coarsest grid that has something. -/
theorem findSome?_range_eq_some {α : Type} {f : Nat → Option α} {n : Nat} {a : α}
    (h : (List.range n).findSome? f = some a) :
    ∃ i < n, f i = some a ∧ ∀ j < i, f j = none := by
  obtain ⟨before, i, behind, hrange, hi, hbefore⟩ := List.findSome?_eq_some_iff.mp h
  have hmem : i ∈ List.range n := by simp [hrange]
  refine ⟨i, List.mem_range.mp hmem, hi, fun j hj => ?_⟩
  have hj' : j ∈ before ++ i :: behind := by
    rw [← hrange]
    exact List.mem_range.mpr (by have := List.mem_range.mp hmem; omega)
  have hsorted := List.pairwise_lt_range (n := n)
  rw [hrange, List.pairwise_append, List.pairwise_cons] at hsorted
  rcases List.mem_append.mp hj' with hmem | hmem
  · exact hbefore j hmem
  · rcases List.mem_cons.mp hmem with rfl | hmem
    · omega
    · have hlt := hsorted.2.1.1 j hmem
      omega

/-- The decimal of a value is the first candidate, without the zeros at its end. -/
theorem shortest_eq_trim {v : Binary64} (hv : 0 < v.mantissa) (hbits : v.mantissa < 2 ^ 53) :
    ∃ k : Int, (10 : ℚ) ^ k ≤ v.toRat ∧ v.toRat < 10 ^ (k + 1) ∧
      ∃ i : Nat, ∃ d, v.shortest = d.trim ∧ onGrid? v (k - i) = some d ∧
        ∀ j < i, onGrid? v (k - (j : Int)) = none := by
  obtain ⟨hlow, hhigh⟩ := leading_spec (ratio_fst_pos (toRat_pos hv)) v.ratio_snd_pos
  rw [ratio_div] at hlow hhigh
  refine ⟨leading v.ratio.1 v.ratio.2, hlow, hhigh, ?_⟩
  unfold shortest
  rw [if_neg hv.ne']
  dsimp only
  generalize leading v.ratio.1 v.ratio.2 = k at *
  cases hfind : (List.range 17).findSome? (fun (n : Nat) => onGrid? v (k - (n : Int))) with
  | none =>
    have hlast := List.findSome?_eq_none_iff.mp hfind 16 (by decide)
    exact absurd hlast (onGrid?_seventeen hv hbits hlow)
  | some d =>
    obtain ⟨i, -, hi, hbefore⟩ := findSome?_range_eq_some hfind
    exact ⟨i, d, rfl, hi, hbefore⟩

/-- The decimal of a value is covered by it, and has no zeros at its end. -/
theorem shortest_spec {v : Binary64} (hv : 0 < v.mantissa) (hbits : v.mantissa < 2 ^ 53) :
    v.shortest.IsTrimmed ∧ v.Covers v.shortest.toRat := by
  obtain ⟨k, -, -, i, d, hd, hgrid, -⟩ := shortest_eq_trim hv hbits
  obtain ⟨hcovers, -, hpos⟩ := onGrid?_eq_some hv hgrid
  rw [hd, Decimal.toRat_trim]
  exact ⟨Decimal.isTrimmed_trim hpos.ne', hcovers⟩

/-- A decimal of at most fifteen digits stands for the value that covers it. -/
theorem shortest_eq {v : Binary64} (hv : v.IsNormal) (hfull : 2 ^ 52 ≤ v.mantissa) {d : Decimal}
    (hd : d.IsTrimmed) (hdigits : d.digits < 10 ^ 15) (hcovers : v.Covers d.toRat) :
    v.shortest = d := by
  have hpos : 0 < v.mantissa := by omega
  obtain ⟨k, hlow, hhigh, i, first, hshortest, hfirst, hnone⟩ := shortest_eq_trim hpos hv.bits
  obtain ⟨hfirstCovers, hexponent, hfirstPos⟩ := onGrid?_eq_some hpos hfirst
  have hq := v.quarter_pos
  have hlarge : 2 ^ 54 * v.quarter ≤ v.toRat := by
    have hcast : (2 ^ 52 : ℚ) ≤ v.mantissa := by exact_mod_cast hfull
    rw [toRat_eq]
    exact mul_le_mul_of_nonneg_right (by linarith) hq.le
  obtain ⟨hd1, hd2⟩ := hcovers.le
  obtain ⟨hf1, hf2⟩ := hfirstCovers.le
  have hdlt : d.toRat < 10 ^ 15 * 10 ^ d.exponent := by
    have hcast : (d.digits : ℚ) < 10 ^ 15 := by exact_mod_cast hdigits
    exact mul_lt_mul_of_pos_right hcast (by positivity)
  -- the last places of the grids in question are wider than what the value covers
  have hwide : 4 * v.quarter < 10 ^ d.exponent := by
    by_contra hle
    linarith [not_lt.mp hle]
  have hwide' : 4 * v.quarter < 10 ^ k := by
    rw [zpow_add_one₀ (by norm_num)] at hhigh
    by_contra hle
    linarith [not_lt.mp hle]
  have hplace : min d.exponent k ≤ first.exponent := by
    rw [hexponent]
    by_contra hlt
    have hbefore := hnone (k - min d.exponent k).toNat (by omega)
    rw [show k - ((k - min d.exponent k).toNat : Int) = min d.exponent k by omega] at hbefore
    have hpositive : 0 < d.digits * 10 ^ (d.exponent - min d.exponent k).toNat :=
      Nat.mul_pos (Nat.pos_of_ne_zero (fun h => hd (by rw [h]))) (by positivity)
    refine onGrid?_ne_none hpos hpositive ?_ hbefore
    rw [← Decimal.toRat_of_le (min_le_left _ _)]
    exact hcovers
  have hnear : |d.toRat - first.toRat| < 10 ^ min d.exponent k := by
    refine lt_of_le_of_lt (abs_le.mpr ⟨?_, ?_⟩ : _ ≤ 4 * v.quarter) ?_
    · linarith
    · linarith
    · rcases min_choice d.exponent k with h | h <;> rw [h] <;> assumption
  have heq := Decimal.eq_of_near (min_le_left _ _) hplace hnear
  rw [hshortest]
  refine Decimal.eq_of_toRat_eq (Decimal.isTrimmed_trim hfirstPos.ne') hd ?_
  rw [Decimal.toRat_trim, heq]

theorem shortest_zero : shortest zero = ⟨0, 0⟩ := rfl

end LuaStubs.Json.Binary64
