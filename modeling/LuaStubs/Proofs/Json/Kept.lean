import LuaStubs.Proofs.Json.Printing

/-! What becomes of a token when it is read and printed: integers of at most 64 bits are kept, other
numbers if they are in printed form and few digits are written. -/
namespace LuaStubs.Json.Numeral

variable {t : Numeral}

/-! ## Values -/

/-- An integer of at most 64 bits; a zero with a sign is none. -/
def IsInteger (t : Numeral) : Prop :=
  t.fraction = none ∧ t.exponent = none ∧
    if t.negative then 0 < spelled t.whole ∧ spelled t.whole ≤ 2 ^ 63 else spelled t.whole < 2 ^ 64

instance (t : Numeral) : Decidable t.IsInteger := inferInstanceAs (Decidable (_ ∧ _ ∧ _))

theorem IsInteger.value (h : t.IsInteger) :
    t.value = .ok (.integer (if t.negative then -(spelled t.whole : Int) else spelled t.whole)) := by
  obtain ⟨negative, whole, fraction, exponent⟩ := t
  obtain ⟨hfraction, hexponent, hrange⟩ := h
  cases hfraction
  cases hexponent
  cases negative with
  | true => exact value_neg hrange.1 hrange.2
  | false => exact value_nat hrange

theorem scaled_eq_some {negative : Bool} {n : Nat} {e : Int} {v : Number}
    (h : scaled negative n e = some v) :
    ∃ u w, Binary64.ofNat? n = some u ∧ u.scaleTen? e = some w ∧ w.IsNormal ∧
      v = .decimal negative w := by
  obtain ⟨w, hw, rfl⟩ := Option.map_eq_some_iff.mp h
  obtain ⟨u, hu, hw⟩ := Option.bind_eq_some_iff.mp hw
  have hnormal := Binary64.ofRatio?_normal n Nat.one_pos hu
  exact ⟨u, w, hu, hw, Binary64.scaleTen?_normal hnormal hw, rfl⟩

/-- Digits that are all taken are fewer than 64 bits. -/
theorem gather_eq_nil {n m : Nat} {ds : List Nat} (hn : n < 2 ^ 64)
    (h : gather n ds = (m, [])) : m < 2 ^ 64 ∧ m = ds.foldl (fun n d => n * 10 + d) n := by
  induction ds generalizing n with
  | nil =>
    cases h
    exact ⟨hn, rfl⟩
  | cons d ds ih =>
    rw [gather] at h
    split at h
    · next hd => exact ih hd h
    · cases h

/-- The significand of a token, scaled. -/
def rounded (t : Numeral) (e : Int) : Except (Option Nat) Number :=
  match scaled t.negative t.significand.1 e with
  | some v => .ok v
  | none => .error none

theorem value_none {negative : Bool} {ws : List Nat} :
    value ⟨negative, ws, none, none⟩ =
      if (significand ⟨negative, ws, none, none⟩).2 ≠ 0 then
        rounded ⟨negative, ws, none, none⟩ (significand ⟨negative, ws, none, none⟩).2
      else if negative = false then
        .ok (.integer (significand ⟨negative, ws, none, none⟩).1)
      else if 0 < (significand ⟨negative, ws, none, none⟩).1 ∧
          (significand ⟨negative, ws, none, none⟩).1 ≤ Nat.pow 2 63 then
        .ok (.integer (-(significand ⟨negative, ws, none, none⟩).1))
      else rounded ⟨negative, ws, none, none⟩ 0 := rfl

theorem value_fraction {negative : Bool} {ws fs : List Nat} :
    value ⟨negative, ws, some fs, none⟩ =
      rounded ⟨negative, ws, some fs, none⟩ (significand ⟨negative, ws, some fs, none⟩).2 := rfl

theorem value_exponent {negative : Bool} {ws : List Nat} {fraction : Option (List Nat)} {down : Bool}
    {es : List Nat} :
    value ⟨negative, ws, fraction, some (down, es)⟩ =
      match power 0 0 es with
      | .inl e => rounded ⟨negative, ws, fraction, some (down, es)⟩
          (if down then (significand ⟨negative, ws, fraction, some (down, es)⟩).2 - e
          else (significand ⟨negative, ws, fraction, some (down, es)⟩).2 + e)
      | .inr taken =>
        if (significand ⟨negative, ws, fraction, some (down, es)⟩).1 = 0 ∨ down = true then
          .ok (.decimal negative .zero)
        else .error (some taken) := by
  cases fraction <;> rfl

theorem rounded_eq_ok {e : Int} {v : Number} (h : t.rounded e = .ok v) :
    ∃ u w, Binary64.ofNat? t.significand.1 = some u ∧ u.scaleTen? e = some w ∧ w.IsNormal ∧
      v = .decimal t.negative w := by
  unfold rounded at h
  split at h
  · next heq =>
    cases h
    exact scaled_eq_some heq
  · cases h

/-- A token that is no integer has a value of binary floating point, with the sign of the token. -/
theorem exists_decimal_of_value (ht : ¬ t.IsInteger) {v : Number} (hv : t.value = .ok v) :
    ∃ b, v = .decimal t.negative b ∧ b.IsNormal := by
  have hrounded {e : Int} (h : t.rounded e = .ok v) : ∃ b, v = .decimal t.negative b ∧ b.IsNormal := by
    obtain ⟨u, w, -, -, hnormal, hv⟩ := rounded_eq_ok h
    exact ⟨w, hv, hnormal⟩
  obtain ⟨negative, ws, fraction, exponent⟩ := t
  cases exponent with
  | some e =>
    obtain ⟨down, es⟩ := e
    rw [value_exponent] at hv
    split at hv
    · exact hrounded hv
    · split at hv
      · cases hv
        exact ⟨_, rfl, Binary64.isNormal_zero⟩
      · cases hv
  | none =>
    cases fraction with
    | some fs => exact hrounded (value_fraction.symm.trans hv)
    | none =>
      rw [value_none] at hv
      by_cases hpoint : (significand ⟨negative, ws, none, none⟩).2 ≠ 0
      · rw [if_pos hpoint] at hv
        exact hrounded hv
      · -- all digits have been taken, so that only the sign can be in the way
        have hleft : (gather 0 ws).2 = [] := by
          have hlength : ((gather 0 ws).2.length : Int) = 0 := not_not.mp hpoint
          exact List.eq_nil_of_length_eq_zero (by exact_mod_cast hlength)
        obtain ⟨hbits, hspelled⟩ :=
          gather_eq_nil (n := 0) (m := (gather 0 ws).1) (by norm_num) (by rw [← hleft])
        have hn : (significand ⟨negative, ws, none, none⟩).1 = spelled ws := hspelled
        rw [hspelled] at hbits
        rw [if_neg hpoint, hn] at hv
        cases negative with
        | false => exact absurd ⟨rfl, rfl, hbits⟩ ht
        | true =>
          by_cases hrange : 0 < spelled ws ∧ spelled ws ≤ Nat.pow 2 63
          · exact absurd ⟨rfl, rfl, hrange⟩ ht
          · rw [if_neg (by simp), if_neg hrange] at hv
            exact hrounded hv

/-! ## Tokens that are kept -/

theorem isCanonical_shortest {b : Binary64} (h : b.IsNormal) : b.shortest.IsCanonical := by
  by_cases hzero : b.mantissa = 0
  · right
    unfold Binary64.shortest
    rw [if_pos hzero]
  · exact .inl (Binary64.shortest_spec (Nat.pos_of_ne_zero hzero) h.bits).1

theorem IsInteger.text_eq {cs : List Char} (hs : Spells cs t) (h : t.IsInteger) :
    (Number.integer (if t.negative then -(spelled t.whole : Int) else spelled t.whole)).text =
      String.ofList cs := by
  obtain ⟨negative, ws, fraction, exponent⟩ := t
  obtain ⟨rfl, rfl, hrange⟩ := h
  obtain ⟨f, e, hf, he, rfl⟩ := hs.parts
  obtain rfl : f = [] := hf
  obtain rfl : e = [] := he
  have hdigits := toDigits_spelled hs.run hs.zero
  apply String.toList_inj.mp
  rw [String.toList_ofList, List.append_nil, List.append_nil]
  cases negative with
  | true =>
    refine (toList_neg hrange.1).trans ?_
    rw [hdigits]
    rfl
  | false =>
    refine (toList_natCast (spelled ws)).trans ?_
    rw [hdigits]
    rfl

/-- The token is an integer of at most 64 bits, or it is in printed form and the shortest decimal of its
value is the number that is written. -/
def IsKept (t : Numeral) (cs : List Char) (v : Number) : Prop :=
  t.IsInteger ∨ cs = t.chars ∧ t.IsPrinted ∧
    ∃ b, v = .decimal t.negative b ∧ b.shortest.toRat = t.toRat

/-- These tokens, and no others, are printed as they are written. -/
theorem text_eq_iff {cs : List Char} (hs : Spells cs t) {v : Number} (hv : t.value = .ok v) :
    v.text = String.ofList cs ↔ t.IsKept cs v := by
  by_cases ht : t.IsInteger
  · obtain rfl := Except.ok.inj (ht.value.symm.trans hv)
    simp only [IsKept, ht, true_or, iff_true]
    exact ht.text_eq hs
  · obtain ⟨b, rfl, hnormal⟩ := exists_decimal_of_value ht hv
    have hcanonical := isCanonical_shortest hnormal
    rw [Number.text_decimal, String.ofList_inj]
    constructor
    · intro hcs
      obtain ⟨t', hprinted, hwell, hsign, hrat⟩ := exists_tokenOf t.negative hcanonical
      obtain ⟨d, hd, hdrat, hchars⟩ := hprinted.exists_printOf hwell
      obtain rfl := hd.eq_of_toRat_eq hcanonical (hdrat.trans hrat)
      rw [hsign, hcs] at hchars
      obtain rfl := hs.unique (hchars ▸ hwell.spells_chars)
      exact .inr ⟨hchars.symm, hprinted, b, rfl, hrat.symm⟩
    · rintro (hint | ⟨hcs, hprinted, b', hb, hrat⟩)
      · exact absurd hint ht
      · cases hb
        obtain ⟨d, hd, hdrat, hchars⟩ := hprinted.exists_printOf hs.isWellFormed
        obtain rfl := hd.eq_of_toRat_eq hcanonical (hdrat.trans hrat.symm)
        rw [hcs, hchars]

/-! ## Few digits -/

/-- At most fifteen digits are written, and the last one no farther from the point than the powers of ten
that are values. -/
structure IsShort (t : Numeral) : Prop where
  digits : (t.whole ++ t.fraction.getD []).length ≤ 15
  place : t.decimal.exponent.natAbs ≤ 22

/-- All digits of a short token are taken. -/
theorem IsShort.significand (h : t.IsShort) (hw : t.IsWellFormed) :
    t.significand = (t.decimal.digits, -((t.fraction.getD []).length : Int)) ∧
      t.decimal.digits < 10 ^ 15 := by
  obtain ⟨negative, ws, fraction, exponent⟩ := t
  have hlength := h.digits
  have hlt : ∀ d ∈ ws ++ fraction.getD [], d < 10 := by
    refine List.forall_mem_append.mpr ⟨hw.whole.2, ?_⟩
    cases fraction with
    | none => simp
    | some fs => exact (hw.fraction fs rfl).2
  have hbound : spelled (ws ++ fraction.getD []) < 10 ^ 15 :=
    (spelled_lt hlt).trans_le (Nat.pow_le_pow_right (by decide) hlength)
  refine ⟨?_, hbound⟩
  have hwhole : spelled ws < 10 ^ 15 := by
    refine (spelled_lt hw.whole.2).trans_le (Nat.pow_le_pow_right (by decide) ?_)
    rw [List.length_append] at hlength
    exact (Nat.le_add_right _ _).trans hlength
  have hgather : gather 0 ws = (spelled ws, []) := gather_eq 0 ws (hwhole.trans (by decide))
  unfold Numeral.significand
  rw [hgather]
  cases fraction with
  | none => simp [decimal]
  | some fs =>
    have hfold : fs.foldl (fun n d => n * 10 + d) (spelled ws) = spelled (ws ++ fs) :=
      (List.foldl_append ..).symm
    have hgather' : gather (spelled ws) fs = (spelled (ws ++ fs), []) := by
      rw [← hfold]
      refine gather_eq (spelled ws) fs ?_
      rw [hfold]
      exact hbound.trans (by decide)
    dsimp only
    rw [hgather']
    simp [decimal]

theorem le_foldl_digits (n : Nat) (ds : List Nat) : n ≤ ds.foldl (fun n d => n * 10 + d) n := by
  induction ds generalizing n with
  | nil => exact le_refl n
  | cons d ds ih =>
    have hle := ih (n * 10 + d)
    rw [List.foldl_cons]
    omega

/-- An exponent below 31 bits is taken as it is. -/
theorem power_eq (n taken : Nat) (es : List Nat)
    (h : es.foldl (fun n d => n * 10 + d) n < Nat.pow 2 31) :
    power n taken es = .inl (es.foldl (fun n d => n * 10 + d) n) := by
  induction es generalizing n taken with
  | nil => rfl
  | cons d es ih =>
    rw [List.foldl_cons] at h ⊢
    rw [power, if_pos ((le_foldl_digits _ es).trans_lt h), ih _ _ h]

/-- A short token that is no integer is scaled once. -/
theorem IsShort.rounded_of_value (h : t.IsShort) (hw : t.IsWellFormed) (ht : ¬ t.IsInteger)
    {v : Number} (hv : t.value = .ok v) : t.rounded t.decimal.exponent = .ok v := by
  obtain ⟨hsignificand, hbound⟩ := h.significand hw
  have hlength := h.digits
  have hplace := h.place
  obtain ⟨negative, ws, fraction, exponent⟩ := t
  rw [List.length_append] at hlength
  dsimp only at hlength
  cases exponent with
  | some e =>
    obtain ⟨down, es⟩ := e
    have hes : spelled es < Nat.pow 2 31 := by
      have hsmall : spelled es ≤ 37 := by
        cases down <;> simp only [decimal, power10, if_true, Bool.false_eq_true, if_false] at hplace <;>
          omega
      exact hsmall.trans_lt (by decide)
    rw [value_exponent, power_eq 0 0 es hes] at hv
    rw [hsignificand] at hv
    have hexponent : (decimal ⟨negative, ws, fraction, some (down, es)⟩).exponent =
        if down then -((fraction.getD []).length : Int) - spelled es
        else -((fraction.getD []).length : Int) + spelled es := by
      cases down <;> simp only [decimal, power10, if_true, Bool.false_eq_true, if_false] <;> ring
    rw [hexponent]
    exact hv
  | none =>
    cases fraction with
    | some fs =>
      have hv := value_fraction.symm.trans hv
      rw [hsignificand] at hv
      simpa [decimal, power10] using hv
    | none =>
      have hn : (decimal ⟨negative, ws, none, none⟩).digits = spelled ws := by simp [decimal]
      rw [value_none, hsignificand, hn, if_neg (by simp)] at hv
      rw [hn] at hbound
      cases negative with
      | false => exact absurd ⟨rfl, rfl, hbound.trans (by norm_num)⟩ ht
      | true =>
        by_cases hrange : 0 < spelled ws ∧ spelled ws ≤ Nat.pow 2 63
        · exact absurd ⟨rfl, rfl, hrange⟩ ht
        · rw [if_neg (by simp), if_neg hrange] at hv
          exact hv

/-- The value of a short token has the number that is written as its shortest decimal. -/
theorem IsShort.toRat_shortest (h : t.IsShort) (hw : t.IsWellFormed) (ht : ¬ t.IsInteger)
    {negative : Bool} {b : Binary64} (hv : t.value = .ok (.decimal negative b)) :
    b.shortest.toRat = t.toRat := by
  obtain ⟨hsignificand, hbound⟩ := h.significand hw
  obtain ⟨u, w, hu, hw', hnormal, heq⟩ := rounded_eq_ok (h.rounded_of_value hw ht hv)
  cases heq
  rw [hsignificand] at hu
  have hexact := Binary64.ofNat?_exact (hbound.trans (by norm_num)) hu
  rcases Nat.eq_zero_or_pos t.decimal.digits with hzero | hpos
  · rw [hzero] at hu
    obtain rfl : Binary64.zero = u := Option.some.inj hu
    rw [Binary64.scaleTen?_zero (h.place.trans (by decide)) hw', Binary64.shortest_zero, toRat]
    simp [Binary64.Decimal.toRat, hzero]
  · have hupos : 0 < u.toRat := by
      rw [hexact]
      exact_mod_cast hpos
    obtain ⟨-, hcovers⟩ := Binary64.scaleTen?_spec h.place hupos hw'
    have hrat : u.toRat * 10 ^ t.decimal.exponent = t.toRat := by
      rw [hexact]
      rfl
    rw [hrat] at hcovers
    have hlow : (2 : ℚ) ^ (-1000 : Int) ≤ t.toRat := by
      have hplace : (-22 : Int) ≤ t.decimal.exponent := by
        have := h.place
        omega
      calc (2 : ℚ) ^ (-1000 : Int) ≤ 2 ^ (-100 : Int) := zpow_le_zpow_right₀ (by norm_num) (by decide)
        _ ≤ 10 ^ (-22 : Int) := by norm_num
        _ ≤ 10 ^ t.decimal.exponent := zpow_le_zpow_right₀ (by norm_num) hplace
        _ ≤ t.toRat := le_mul_of_one_le_left (by positivity) (by exact_mod_cast hpos)
    have hfull := hnormal.full_of_covers hcovers hlow
    have hrat' := Binary64.Decimal.toRat_trim t.decimal
    rw [Binary64.shortest_eq hnormal hfull (Binary64.Decimal.isTrimmed_trim hpos.ne')
      ((Binary64.Decimal.digits_trim_le _).trans_lt hbound) (by rw [hrat']; exact hcovers), hrat']
    rfl

/-- A short token that is no integer is kept in printed form. -/
theorem IsShort.isKept_iff (h : t.IsShort) {cs : List Char} (hs : Spells cs t) {v : Number}
    (hv : t.value = .ok v) : t.IsKept cs v ↔ t.IsInteger ∨ cs = t.chars ∧ t.IsPrinted := by
  by_cases ht : t.IsInteger
  · simp only [IsKept, ht, true_or]
  · obtain ⟨b, rfl, -⟩ := exists_decimal_of_value ht hv
    have hrat := h.toRat_shortest hs.isWellFormed ht hv
    unfold IsKept
    simp only [ht, false_or]
    exact ⟨fun ⟨hcs, hprinted, _⟩ => ⟨hcs, hprinted⟩,
      fun ⟨hcs, hprinted⟩ => ⟨hcs, hprinted, b, rfl, hrat⟩⟩

end LuaStubs.Json.Numeral
