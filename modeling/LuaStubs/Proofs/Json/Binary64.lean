import LuaStubs.Json.Binary64
import Mathlib.Algebra.Order.Field.Power
import Mathlib.Tactic.FieldSimp
import Mathlib.Tactic.Linarith
import Mathlib.Tactic.Positivity
import Mathlib.Tactic.Ring

/-! Binary floating point against the rational numbers: a quotient is rounded to a value whose
neighbours are not nearer, and a quotient that is a value is not changed. -/
namespace LuaStubs.Json.Binary64

/-! ## Values -/

def toRat (v : Binary64) : ℚ := v.mantissa * 2 ^ v.exponent

theorem shifted_snd_pos (n : Nat) {d : Nat} (hd : 0 < d) (e : Int) : 0 < (shifted n d e).2 := by
  unfold shifted
  split
  · exact hd
  · exact Nat.mul_pos hd (Nat.pow_pos (by decide))

theorem shifted_div (n d : Nat) (e : Int) :
    ((shifted n d e).1 : ℚ) / (shifted n d e).2 = n / d * 2 ^ e := by
  unfold shifted
  split
  · next he =>
    obtain ⟨k, rfl⟩ := Int.eq_ofNat_of_zero_le he
    simp
    ring
  · next he =>
    obtain ⟨k, hk⟩ := Int.eq_ofNat_of_zero_le (a := -e) (by omega)
    obtain rfl : e = -(k : Int) := by omega
    simp [zpow_neg, div_eq_mul_inv]
    ring

theorem ratio_snd_pos (v : Binary64) : 0 < v.ratio.2 := shifted_snd_pos _ (by decide) _

theorem ratio_div (v : Binary64) : (v.ratio.1 : ℚ) / v.ratio.2 = v.toRat := by
  rw [ratio, shifted_div, toRat, Nat.cast_one, div_one]

/-- Values in normal form: 53 bits at most, and no less unless the exponent is the least one. -/
structure IsNormal (v : Binary64) : Prop where
  bits : v.mantissa < 2 ^ 53
  least : minExponent ≤ v.exponent
  full : minExponent < v.exponent → 2 ^ 52 ≤ v.mantissa

theorem isNormal_zero : zero.IsNormal := ⟨by decide, by decide, fun h => absurd h (by decide)⟩

/-! ## Rounding -/

/-- A quarter of the last place. -/
def quarter (v : Binary64) : ℚ := 2 ^ (v.exponent - 2)

/-- How many quarters it is to the middle between a value and the one below it; below a power of two
the values are closer. -/
def slack (v : Binary64) : ℚ :=
  if v.mantissa = Nat.pow 2 52 ∧ minExponent < v.exponent then 1 else 2

/-- The number is no nearer to another value; the middle between two goes to the even one. -/
def Covers (v : Binary64) (x : ℚ) : Prop :=
  if v.mantissa % 2 = 0 then v.toRat - v.slack * v.quarter ≤ x ∧ x ≤ v.toRat + 2 * v.quarter
  else v.toRat - v.slack * v.quarter < x ∧ x < v.toRat + 2 * v.quarter

theorem quarter_pos (v : Binary64) : 0 < v.quarter := by
  unfold quarter
  positivity

theorem two_zpow_eq (v : Binary64) : (2 : ℚ) ^ v.exponent = 4 * v.quarter := by
  rw [quarter, zpow_sub₀ (by norm_num)]
  norm_num
  ring

theorem toRat_eq (v : Binary64) : v.toRat = 4 * v.mantissa * v.quarter := by
  rw [toRat, two_zpow_eq]
  ring

theorem slack_le (v : Binary64) : v.slack ≤ 2 := by
  unfold slack
  split <;> norm_num

theorem slack_pos (v : Binary64) : 0 < v.slack := by
  unfold slack
  split <;> norm_num

theorem Covers.le {v : Binary64} {x : ℚ} (h : v.Covers x) :
    v.toRat - 2 * v.quarter ≤ x ∧ x ≤ v.toRat + 2 * v.quarter := by
  have hslack : v.slack * v.quarter ≤ 2 * v.quarter :=
    mul_le_mul_of_nonneg_right v.slack_le v.quarter_pos.le
  unfold Covers at h
  split at h
  · exact ⟨by linarith, h.2⟩
  · exact ⟨by linarith, h.2.le⟩

/-- The nearest integer to a quotient; at the same distance from two it is the even one. -/
theorem divNearest_le (n : Nat) {d : Nat} (hd : 0 < d) :
    d * (2 * divNearest n d) ≤ 2 * n + d ∧ 2 * n ≤ d * (2 * divNearest n d) + d ∧
      (divNearest n d % 2 = 1 →
        d * (2 * divNearest n d) < 2 * n + d ∧ 2 * n < d * (2 * divNearest n d) + d) := by
  have hdiv := Nat.div_add_mod n d
  have hmod := Nat.mod_lt n hd
  have htwice : d * (2 * (n / d)) = 2 * (d * (n / d)) := by ring
  unfold divNearest
  dsimp only
  split
  · have hnext : d * (2 * (n / d + 1)) = 2 * (d * (n / d)) + 2 * d := by ring
    rw [hnext]
    omega
  · rw [htwice]
    omega

theorem divNearest_spec (n : Nat) {d : Nat} (hd : 0 < d) :
    (divNearest n d : ℚ) - 1 / 2 ≤ n / d ∧ (n / d : ℚ) ≤ divNearest n d + 1 / 2 ∧
      (divNearest n d % 2 = 1 →
        (divNearest n d : ℚ) - 1 / 2 < n / d ∧ (n / d : ℚ) < divNearest n d + 1 / 2) := by
  have hdpos : (0 : ℚ) < d := by exact_mod_cast hd
  obtain ⟨hlow, hhigh, hodd⟩ := divNearest_le n hd
  have hlow' : (d : ℚ) * (2 * divNearest n d) ≤ 2 * n + d := by exact_mod_cast hlow
  have hhigh' : (2 : ℚ) * n ≤ d * (2 * divNearest n d) + d := by exact_mod_cast hhigh
  refine ⟨?_, ?_, fun h => ?_⟩
  · rw [le_div_iff₀ hdpos]
    linarith
  · rw [div_le_iff₀ hdpos]
    linarith
  · obtain ⟨hlow, hhigh⟩ := hodd h
    have hlow' : (d : ℚ) * (2 * divNearest n d) < 2 * n + d := by exact_mod_cast hlow
    have hhigh' : (2 : ℚ) * n < d * (2 * divNearest n d) + d := by exact_mod_cast hhigh
    refine ⟨?_, ?_⟩
    · rw [lt_div_iff₀ hdpos]
      linarith
    · rw [div_lt_iff₀ hdpos]
      linarith

/-- A quotient lies between the powers of two that the lengths of its parts leave. -/
theorem log2_div {n d : Nat} (hn : 0 < n) (hd : 0 < d) :
    (2 : ℚ) ^ ((Nat.log2 n : Int) - Nat.log2 d - 1) ≤ n / d ∧
      (n / d : ℚ) < 2 ^ ((Nat.log2 n : Int) - Nat.log2 d + 1) := by
  have hdpos : (0 : ℚ) < d := by exact_mod_cast hd
  have hnlow : (2 : ℚ) ^ (Nat.log2 n) ≤ n := by exact_mod_cast Nat.log2_self_le hn.ne'
  have hnhigh : (n : ℚ) < 2 ^ (Nat.log2 n + 1) := by exact_mod_cast Nat.lt_log2_self
  have hdlow : (2 : ℚ) ^ (Nat.log2 d) ≤ d := by exact_mod_cast Nat.log2_self_le hd.ne'
  have hdhigh : (d : ℚ) ≤ 2 ^ (Nat.log2 d + 1) := by exact_mod_cast Nat.lt_log2_self.le
  constructor
  · rw [le_div_iff₀ hdpos]
    calc (2 : ℚ) ^ ((Nat.log2 n : Int) - Nat.log2 d - 1) * d
        ≤ 2 ^ ((Nat.log2 n : Int) - Nat.log2 d - 1) * 2 ^ (Nat.log2 d + 1) := by gcongr
      _ = 2 ^ Nat.log2 n := by
        rw [← zpow_natCast, ← zpow_natCast, ← zpow_add₀ (by norm_num)]
        congr 1
        push_cast
        ring
      _ ≤ n := hnlow
  · rw [div_lt_iff₀ hdpos]
    calc (n : ℚ) < 2 ^ (Nat.log2 n + 1) := hnhigh
      _ = 2 ^ ((Nat.log2 n : Int) - Nat.log2 d + 1) * 2 ^ Nat.log2 d := by
        rw [← zpow_natCast, ← zpow_natCast, ← zpow_add₀ (by norm_num)]
        congr 1
        push_cast
        ring
      _ ≤ 2 ^ ((Nat.log2 n : Int) - Nat.log2 d + 1) * d := by gcongr

/-- The scale of a quotient leaves 53 bits before the point, or fewer at the least exponent. -/
theorem scaleOf_spec {n d : Nat} (hn : 0 < n) (hd : 0 < d) :
    minExponent ≤ scaleOf n d ∧ (n / d : ℚ) < 2 ^ 53 * 2 ^ scaleOf n d ∧
      (minExponent < scaleOf n d → (2 : ℚ) ^ 52 * 2 ^ scaleOf n d ≤ n / d) := by
  obtain ⟨hlow, hhigh⟩ := log2_div hn hd
  have hmax : ∃ e : Int, scaleOf n d = max e minExponent ∧
      (n / d : ℚ) < 2 ^ 53 * 2 ^ e ∧ (2 : ℚ) ^ 52 * 2 ^ e ≤ n / d := by
    have hstep (e : Int) : (2 : ℚ) ^ 52 * 2 ^ e = 2 ^ 53 * 2 ^ (e - 1) := by
      rw [zpow_sub₀ (by norm_num)]
      norm_num
      ring
    have hpow (k : Nat) (e : Int) : (2 : ℚ) ^ k * 2 ^ e = 2 ^ (k + e) := by
      rw [zpow_add₀ (by norm_num), zpow_natCast]
    let e : Int := (Nat.log2 n : Int) - Nat.log2 d - 52
    have hspos : (0 : ℚ) < (shifted n d (-e)).2 := by exact_mod_cast shifted_snd_pos n hd (-e)
    have htest : (shifted n d (-e)).1 < Nat.pow 2 52 * (shifted n d (-e)).2 ↔
        (n / d : ℚ) < 2 ^ 52 * 2 ^ e := by
      have hcast : (shifted n d (-e)).1 < Nat.pow 2 52 * (shifted n d (-e)).2 ↔
          ((shifted n d (-e)).1 : ℚ) < 2 ^ 52 * (shifted n d (-e)).2 := by
        exact_mod_cast Iff.rfl
      rw [hcast, ← div_lt_iff₀ hspos, shifted_div, zpow_neg, ← div_eq_mul_inv,
        div_lt_iff₀ (by positivity)]
    unfold scaleOf
    dsimp only
    by_cases h : (shifted n d (-e)).1 < Nat.pow 2 52 * (shifted n d (-e)).2
    · refine ⟨e - 1, by rw [if_pos h], ?_, ?_⟩
      · rw [← hstep]
        exact htest.mp h
      · refine le_trans (le_of_eq ?_) hlow
        rw [hpow]
        congr 1
        simp only [e]
        push_cast
        ring
    · refine ⟨e, by rw [if_neg h], ?_, ?_⟩
      · refine lt_of_lt_of_eq hhigh ?_
        rw [hpow]
        congr 1
        simp only [e]
        push_cast
        ring
      · exact not_lt.mp (fun hlt => h (htest.mpr hlt))
  obtain ⟨e, hscale, hlt, hle⟩ := hmax
  rw [hscale]
  refine ⟨le_max_right _ _, lt_of_lt_of_le hlt ?_, fun h => ?_⟩
  · exact mul_le_mul_of_nonneg_left (zpow_le_zpow_right₀ (by norm_num) (le_max_left _ _)) (by norm_num)
  · rwa [max_eq_left (by omega)]

/-- The integer that stands for a quotient at its scale. -/
theorem ofRatio?_eq_some {n d : Nat} (hn : 0 < n) {v : Binary64} (h : ofRatio? n d = some v) :
    ∃ m, m = divNearest (shifted n d (-scaleOf n d)).1 (shifted n d (-scaleOf n d)).2 ∧
      (m = 2 ^ 53 ∧ v = ⟨2 ^ 52, scaleOf n d + 1⟩ ∨ m ≠ 2 ^ 53 ∧ v = ⟨m, scaleOf n d⟩) := by
  unfold ofRatio? at h
  rw [if_neg hn.ne'] at h
  dsimp only at h
  have hrange {w : Binary64} (h : (if maxExponent < w.exponent then none else some w) = some v) :
      v = w := by
    split at h
    · cases h
    · exact (Option.some.inj h).symm
  refine ⟨_, rfl, ?_⟩
  by_cases hm : divNearest (shifted n d (-scaleOf n d)).1 (shifted n d (-scaleOf n d)).2 =
      Nat.pow 2 53
  · rw [if_pos hm] at h
    exact .inl ⟨hm, hrange h⟩
  · rw [if_neg hm] at h
    exact .inr ⟨hm, hrange h⟩

/-- A rational that is at most half a unit away from a value is covered by it. -/
theorem covers_of_near {m : Nat} {e : Int} {q : ℚ} (hlow : ((m : ℚ) - 1 / 2) * 2 ^ e ≤ q)
    (hhigh : q ≤ ((m : ℚ) + 1 / 2) * 2 ^ e)
    (hodd : m % 2 = 1 → ((m : ℚ) - 1 / 2) * 2 ^ e < q ∧ q < ((m : ℚ) + 1 / 2) * 2 ^ e)
    (hfull : minExponent < e → 2 ^ 52 * 2 ^ e ≤ q) : Covers ⟨m, e⟩ q := by
  have hunit : (0 : ℚ) < 2 ^ e := by positivity
  have hquarter : quarter ⟨m, e⟩ = 2 ^ e / 4 := by
    rw [quarter]
    dsimp only
    rw [zpow_sub₀ (by norm_num)]
    norm_num
  have hslack : m * 2 ^ e - slack ⟨m, e⟩ * (2 ^ e / 4) ≤ q ∧
      (m % 2 = 1 → m * 2 ^ e - slack ⟨m, e⟩ * (2 ^ e / 4) < q) := by
    by_cases hcloser : m = Nat.pow 2 52 ∧ minExponent < e
    · -- the values below are half as far apart, but none of them is nearer
      rw [slack, if_pos hcloser]
      have hle := hfull hcloser.2
      have hcast : (m : ℚ) = 2 ^ 52 := by
        rw [hcloser.1]
        norm_num
      rw [hcast]
      exact ⟨by linarith, fun _ => by linarith⟩
    · rw [slack, if_neg hcloser]
      exact ⟨by linarith, fun ho => by linarith [(hodd ho).1]⟩
  rw [Covers, toRat_eq, hquarter]
  dsimp only
  rw [show 4 * (m : ℚ) * (2 ^ e / 4) = m * 2 ^ e by ring]
  split
  · exact ⟨hslack.1, by linarith⟩
  · next heven =>
    have ho : m % 2 = 1 := by omega
    exact ⟨hslack.2 ho, by linarith [(hodd ho).2]⟩

/-- A rational that is nearer to a power of two than to the last value below it. -/
theorem covers_of_carry {e : Int} (he : minExponent ≤ e) {q : ℚ}
    (hlow : ((2 ^ 53 : ℚ) - 1 / 2) * 2 ^ e ≤ q) (hhigh : q < 2 ^ 53 * 2 ^ e) :
    Covers ⟨2 ^ 52, e + 1⟩ q := by
  have hunit : (0 : ℚ) < 2 ^ e := by positivity
  have hcloser : slack ⟨2 ^ 52, e + 1⟩ = 1 := if_pos ⟨rfl, by dsimp only; omega⟩
  have hquarter : quarter ⟨2 ^ 52, e + 1⟩ = 2 ^ e / 2 := by
    rw [quarter]
    dsimp only
    rw [show e + 1 - 2 = e - 1 by ring, zpow_sub₀ (by norm_num), zpow_one]
  rw [Covers, if_pos (by norm_num), toRat_eq, hcloser, hquarter]
  push_cast
  constructor <;> linarith

/-- A quotient is rounded to a value in normal form that is not farther than any other. -/
theorem ofRatio?_spec {n d : Nat} (hn : 0 < n) (hd : 0 < d) {v : Binary64}
    (h : ofRatio? n d = some v) : v.IsNormal ∧ v.Covers (n / d) := by
  obtain ⟨m, hm, hv⟩ := ofRatio?_eq_some hn h
  obtain ⟨hleast, hhigh, hfull⟩ := scaleOf_spec hn hd
  generalize scaleOf n d = e at *
  obtain ⟨hnear, hnear', hodd⟩ := divNearest_spec (shifted n d (-e)).1 (shifted_snd_pos n hd (-e))
  have hunit : (0 : ℚ) < 2 ^ e := by positivity
  rw [← hm, shifted_div, zpow_neg, ← div_eq_mul_inv] at hnear hnear' hodd
  simp only [le_div_iff₀ hunit, div_le_iff₀ hunit, lt_div_iff₀ hunit, div_lt_iff₀ hunit]
    at hnear hnear' hodd
  have hmax : m ≤ 2 ^ 53 := by
    have hlt : (m : ℚ) - 1 / 2 < 2 ^ 53 := lt_of_mul_lt_mul_right (hnear.trans_lt hhigh) hunit.le
    have hlt' : (m : ℚ) < (2 ^ 53 + 1 : Nat) := by
      push_cast
      linarith
    exact Nat.lt_succ_iff.mp (by exact_mod_cast hlt')
  rcases hv with ⟨hm53, rfl⟩ | ⟨hm53, rfl⟩
  · rw [hm53] at hnear
    exact ⟨⟨by norm_num, by dsimp only; omega, fun _ => le_refl _⟩,
      covers_of_carry hleast (by exact_mod_cast hnear) hhigh⟩
  · have hbits : m < 2 ^ 53 := by omega
    have hfull' : minExponent < e → 2 ^ 52 ≤ m := by
      intro he
      have hle : (2 : ℚ) ^ 52 ≤ m + 1 / 2 := le_of_mul_le_mul_right ((hfull he).trans hnear') hunit
      have hle' : ((2 ^ 52 : Nat) : ℚ) < (m + 1 : Nat) := by
        push_cast
        linarith
      exact Nat.lt_succ_iff.mp (by exact_mod_cast hle')
    exact ⟨⟨hbits, hleast, hfull'⟩, covers_of_near hnear hnear' hodd hfull⟩

theorem divNearest_of_eq {n d k : Nat} (hd : 0 < d) (h : (n / d : ℚ) = k) : divNearest n d = k := by
  obtain ⟨hlow, hhigh, -⟩ := divNearest_spec n hd
  rw [h] at hlow hhigh
  have hle : (divNearest n d : ℚ) < (k + 1 : Nat) := by
    push_cast
    linarith
  have hge : (k : ℚ) < (divNearest n d + 1 : Nat) := by
    push_cast
    linarith
  have hle' : divNearest n d < k + 1 := by exact_mod_cast hle
  have hge' : k < divNearest n d + 1 := by exact_mod_cast hge
  omega

/-- A quotient that is a value is not changed. -/
theorem ofRatio?_exact {n d : Nat} (hn : 0 < n) (hd : 0 < d) {v : Binary64}
    (h : ofRatio? n d = some v) {m : Nat} {e : Int} (hm : m < 2 ^ 53) (he : minExponent ≤ e)
    (hvalue : (n / d : ℚ) = m * 2 ^ e) : v.toRat = n / d := by
  obtain ⟨m', hm', hv⟩ := ofRatio?_eq_some hn h
  obtain ⟨hleast, hhigh, hfull⟩ := scaleOf_spec hn hd
  generalize scaleOf n d = e' at *
  have hle : e' ≤ e := by
    by_contra hlt
    have hbelow := hfull (by omega)
    have hm' : (m : ℚ) < 2 ^ 53 := by exact_mod_cast hm
    have hstep : (2 : ℚ) * 2 ^ e ≤ 2 ^ e' := by
      rw [← zpow_one_add₀ (by norm_num)]
      exact zpow_le_zpow_right₀ (by norm_num) (by omega)
    have hpos : (0 : ℚ) < 2 ^ e := by positivity
    have habove : (m : ℚ) * 2 ^ e < 2 ^ 53 * 2 ^ e := mul_lt_mul_of_pos_right hm' hpos
    rw [hvalue] at hbelow
    linarith
  obtain ⟨k, rfl⟩ : ∃ k : Nat, e = e' + k := ⟨(e - e').toNat, by omega⟩
  have hwhole : ((shifted n d (-e')).1 / (shifted n d (-e')).2 : ℚ) = (m * 2 ^ k : Nat) := by
    rw [shifted_div, hvalue, mul_assoc, ← zpow_add₀ (by norm_num)]
    push_cast
    rw [show e' + (k : Int) + -e' = k by ring, zpow_natCast]
  have hexact : m' = m * 2 ^ k := hm'.trans (divNearest_of_eq (shifted_snd_pos n hd _) hwhole)
  have hv' : v.toRat = m' * 2 ^ e' := by
    rcases hv with ⟨hm53, rfl⟩ | ⟨-, rfl⟩
    · rw [toRat, hm53]
      dsimp only
      rw [zpow_add_one₀ (by norm_num)]
      push_cast
      ring
    · rfl
  rw [hv', hexact, hvalue, zpow_add₀ (by norm_num), zpow_natCast]
  push_cast
  ring

/-! ## Powers of ten -/

theorem toRat_pos {v : Binary64} (h : 0 < v.mantissa) : 0 < v.toRat := by
  have hpos : (0 : ℚ) < v.mantissa := by exact_mod_cast h
  unfold toRat
  positivity

/-- Integers of 53 bits are values. -/
theorem ofNat?_exact {n : Nat} (hn : n < 2 ^ 53) {v : Binary64} (h : ofNat? n = some v) :
    v.toRat = n := by
  rcases Nat.eq_zero_or_pos n with rfl | hpos
  · obtain rfl : zero = v := Option.some.inj h
    simp [toRat, zero]
  · have hexact := ofRatio?_exact hpos Nat.one_pos h hn (by decide : minExponent ≤ 0) (by simp)
    simpa using hexact

/-- So are the powers of ten up to the twenty-second. -/
theorem powTen?_exact {k : Nat} (hk : k ≤ 22) {v : Binary64} (h : powTen? k = some v) :
    v.toRat = 10 ^ k := by
  have hfive : 5 ^ k < 2 ^ 53 :=
    lt_of_le_of_lt (Nat.pow_le_pow_right (by decide) hk) (by decide)
  have hten : ((Nat.pow 10 k : Nat) / (1 : Nat) : ℚ) = (5 ^ k : Nat) * 2 ^ (k : Int) := by
    rw [zpow_natCast, Nat.cast_one, div_one, Nat.pow_eq]
    push_cast
    rw [← mul_pow]
    norm_num
  have hexact := ofRatio?_exact (Nat.pow_pos (by decide)) Nat.one_pos h hfive
    (by have : minExponent = -1074 := rfl; omega) hten
  rw [hexact]
  simp

/-- Values away from zero have all of their bits. -/
theorem IsNormal.full_of_covers {v : Binary64} (h : v.IsNormal) {x : ℚ} (hx : v.Covers x)
    (hlow : (2 : ℚ) ^ (-1000 : Int) ≤ x) : 2 ^ 52 ≤ v.mantissa := by
  by_cases he : minExponent < v.exponent
  · exact h.full he
  · obtain ⟨m, e⟩ := v
    obtain rfl : e = -1074 := le_antisymm (not_lt.mp he) h.least
    have hbits : (m : ℚ) < 2 ^ 53 := by exact_mod_cast h.bits
    have hquarter : quarter ⟨m, -1074⟩ = 2 ^ (-1000 : Int) / 2 ^ 76 := by
      rw [quarter]
      dsimp only
      rw [show (-1074 : Int) - 2 = -1000 - (76 : Nat) by norm_num, zpow_sub₀ (by norm_num),
        zpow_natCast]
    have hle := hx.le.2
    rw [toRat_eq, hquarter] at hle
    have hpos : (0 : ℚ) < 2 ^ (-1000 : Int) := by positivity
    generalize (2 : ℚ) ^ (-1000 : Int) = u at *
    dsimp only at hle
    have hsmall : 4 * (m : ℚ) * (u / 2 ^ 76) + 2 * (u / 2 ^ 76) < u := by
      rw [← add_mul, mul_div_assoc', div_lt_iff₀ (by norm_num), mul_comm]
      exact mul_lt_mul_of_pos_left (by linarith) hpos
    linarith

theorem ratio_fst_pos {v : Binary64} (h : 0 < v.toRat) : 0 < v.ratio.1 := by
  rw [← ratio_div] at h
  by_contra hzero
  rw [Nat.eq_zero_of_not_pos hzero] at h
  simp at h

theorem mul?_spec {v w u : Binary64} (hv : 0 < v.toRat) (hw : 0 < w.toRat)
    (h : v.mul? w = some u) : u.IsNormal ∧ u.Covers (v.toRat * w.toRat) := by
  have hspec := ofRatio?_spec (Nat.mul_pos (ratio_fst_pos hv) (ratio_fst_pos hw))
    (Nat.mul_pos v.ratio_snd_pos w.ratio_snd_pos) h
  rwa [Nat.cast_mul, Nat.cast_mul, mul_div_mul_comm, ratio_div, ratio_div] at hspec

theorem div?_spec {v w u : Binary64} (hv : 0 < v.toRat) (hw : 0 < w.toRat)
    (h : v.div? w = some u) : u.IsNormal ∧ u.Covers (v.toRat / w.toRat) := by
  have hspec := ofRatio?_spec (Nat.mul_pos (ratio_fst_pos hv) w.ratio_snd_pos)
    (Nat.mul_pos v.ratio_snd_pos (ratio_fst_pos hw)) h
  rwa [Nat.cast_mul, Nat.cast_mul, mul_div_mul_comm, ← inv_div (w.ratio.1 : ℚ), ratio_div,
    ratio_div, ← div_eq_mul_inv] at hspec

/-- What is scaled by a power of ten that is a value is rounded once. -/
theorem scaleTen?_spec {v w : Binary64} {e : Int} (he : e.natAbs ≤ 22) (hv : 0 < v.toRat)
    (h : v.scaleTen? e = some w) : w.IsNormal ∧ w.Covers (v.toRat * 10 ^ e) := by
  unfold scaleTen? scaleTen?.go at h
  rw [if_pos (by omega)] at h
  obtain ⟨p, hp, h⟩ := Option.bind_eq_some_iff.mp h
  have hten := powTen?_exact he hp
  have hppos : 0 < p.toRat := by
    rw [hten]
    positivity
  rcases Int.natAbs_eq e with heq | heq
  · rw [if_pos (by omega)] at h
    have hspec := mul?_spec hv hppos h
    rw [hten, ← zpow_natCast, ← heq] at hspec
    exact hspec
  · by_cases hzero : e = 0
    · subst hzero
      have hspec := mul?_spec hv hppos h
      rw [hten] at hspec
      simpa using hspec
    · rw [if_neg (by omega)] at h
      have hspec := div?_spec hv hppos h
      rw [hten, div_eq_mul_inv, ← zpow_natCast, ← zpow_neg, ← heq] at hspec
      exact hspec

theorem scaleTen?_zero {w : Binary64} {e : Int} (he : e.natAbs ≤ 308)
    (h : zero.scaleTen? e = some w) : w = zero := by
  unfold scaleTen? scaleTen?.go at h
  rw [if_pos he] at h
  obtain ⟨p, -, h⟩ := Option.bind_eq_some_iff.mp h
  have hzero (n d : Nat) (h : ofRatio? (zero.ratio.1 * n) d = some w) : w = zero := by
    rw [show zero.ratio.1 = 0 from rfl, Nat.zero_mul] at h
    exact (Option.some.inj h).symm
  split at h
  · exact hzero _ _ h
  · exact hzero _ _ h

/-! ## Normal form -/

theorem ofRatio?_normal (n : Nat) {d : Nat} (hd : 0 < d) {v : Binary64}
    (h : ofRatio? n d = some v) : v.IsNormal := by
  rcases Nat.eq_zero_or_pos n with rfl | hn
  · obtain rfl : zero = v := Option.some.inj h
    exact isNormal_zero
  · exact (ofRatio?_spec hn hd h).1

theorem powTen?_pos {k : Nat} {v : Binary64} (h : powTen? k = some v) : 0 < v.toRat := by
  have hone : 0 < Nat.pow 10 k := Nat.pow_pos (by decide)
  obtain ⟨hnormal, hcovers⟩ := ofRatio?_spec hone Nat.one_pos h
  have hle : (1 : ℚ) ≤ (Nat.pow 10 k : Nat) / (1 : Nat) := by
    rw [Nat.cast_one, div_one]
    exact_mod_cast hone
  have hlow : (2 : ℚ) ^ (-1000 : Int) ≤ 1 := zpow_le_one_of_nonpos₀ (by norm_num) (by norm_num)
  have hfull := hnormal.full_of_covers hcovers (hlow.trans hle)
  exact toRat_pos (by omega)

theorem scaleTen?_go_normal {steps : Nat} {v w : Binary64} {e : Int} (hv : v.IsNormal)
    (h : scaleTen?.go steps v e = some w) : w.IsNormal := by
  have hdiv {v p u : Binary64} {k : Nat} (hp : powTen? k = some p) (h : v.div? p = some u) :
      u.IsNormal :=
    ofRatio?_normal _ (Nat.mul_pos v.ratio_snd_pos (ratio_fst_pos (powTen?_pos hp))) h
  induction steps generalizing v e with
  | zero =>
    unfold scaleTen?.go at h
    split at h
    · obtain ⟨p, hp, h⟩ := Option.bind_eq_some_iff.mp h
      split at h
      · exact ofRatio?_normal _ (Nat.mul_pos v.ratio_snd_pos p.ratio_snd_pos) h
      · exact hdiv hp h
    · split at h
      · exact Option.some.inj h ▸ hv
      · split at h <;> cases h
  | succ steps ih =>
    unfold scaleTen?.go at h
    split at h
    · obtain ⟨p, hp, h⟩ := Option.bind_eq_some_iff.mp h
      split at h
      · exact ofRatio?_normal _ (Nat.mul_pos v.ratio_snd_pos p.ratio_snd_pos) h
      · exact hdiv hp h
    · split at h
      · exact Option.some.inj h ▸ hv
      · split at h
        · cases h
        · obtain ⟨u, hu, h⟩ := Option.bind_eq_some_iff.mp h
          obtain ⟨p, hp, hu⟩ := Option.bind_eq_some_iff.mp hu
          exact ih (hdiv hp hu) h

/-- However often it is rounded on the way, what is scaled is in normal form. -/
theorem scaleTen?_normal {v w : Binary64} {e : Int} (hv : v.IsNormal)
    (h : v.scaleTen? e = some w) : w.IsNormal := scaleTen?_go_normal hv h

end LuaStubs.Json.Binary64
