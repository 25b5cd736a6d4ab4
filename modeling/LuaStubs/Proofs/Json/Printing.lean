import LuaStubs.Json.Basic
import LuaStubs.Proofs.Json.Numeral
import LuaStubs.Proofs.Json.Shortest

/-! Which tokens are printed as they are written.  Numbers that are no integers have one printed form,
and the decimal that is printed must be the one that was written. -/
namespace LuaStubs.Json

namespace Numeral

/-! ## Runs of digits -/

theorem spelled_append_run (xs ys : List Nat) :
    spelled (xs ++ ys) = spelled xs * 10 ^ ys.length + spelled ys := by
  induction ys using List.reverseRecOn with
  | nil => simp [spelled]
  | append_singleton ys y ih =>
    rw [← List.append_assoc, spelled_append, spelled_append, ih, List.length_append,
      List.length_singleton, pow_succ]
    ring

theorem spelled_singleton (d : Nat) : spelled [d] = d := by simp [spelled]

theorem spelled_replicate_zero (n : Nat) : spelled (List.replicate n 0) = 0 := by
  induction n with
  | zero => rfl
  | succ n ih => rw [List.replicate_succ', spelled_append, ih]

theorem spelled_lt {ds : List Nat} (h : ∀ d ∈ ds, d < 10) : spelled ds < 10 ^ ds.length := by
  induction ds using List.reverseRecOn with
  | nil => simp [spelled]
  | append_singleton ds d ih =>
    have hds := ih (fun e he => h e (List.mem_append_left _ he))
    have hd := h d (by simp)
    rw [spelled_append, List.length_append, List.length_singleton, pow_succ]
    omega

theorem spelled_cons_pos {d : Nat} (hd : d ≠ 0) (ds : List Nat) : 0 < spelled (d :: ds) := by
  rw [← List.singleton_append, spelled_append_run, spelled_singleton]
  have hpos : 0 < d * 10 ^ ds.length := by positivity
  omega

/-- A run that does not end in a zero spells no multiple of ten. -/
theorem spelled_mod_ten {ds : List Nat} (hrun : IsRun ds) (hlast : ds.getLast? ≠ some 0) :
    spelled ds % 10 ≠ 0 := by
  obtain ⟨hne, hlt⟩ := hrun
  rcases List.eq_nil_or_concat ds with rfl | ⟨ys, d, rfl⟩
  · exact absurd rfl hne
  · have hd := hlt d (by simp)
    have hzero : d ≠ 0 := by simpa using hlast
    rw [List.concat_eq_append, spelled_append]
    omega

/-- Digits with no zero in front of others are those of the number that they spell. -/
theorem toDigits_spelled {ds : List Nat} (hrun : IsRun ds)
    (hzero : ∀ rest, ds = 0 :: rest → rest = []) :
    Nat.toDigits 10 (spelled ds) = ds.map Nat.digitChar := by
  induction ds using List.reverseRecOn with
  | nil => exact absurd rfl hrun.1
  | append_singleton ds d ih =>
    have hd : d < 10 := hrun.2 d (by simp)
    rcases ds with _ | ⟨e, es⟩
    · rw [List.nil_append, spelled_singleton, Nat.toDigits_of_lt_base hd]
      rfl
    · have he : e ≠ 0 := by
        rintro rfl
        simpa using hzero (es ++ [d]) rfl
      have hpos := spelled_cons_pos he es
      have hrun' : IsRun (e :: es) := ⟨by simp, fun x hx => hrun.2 x (List.mem_append_left _ hx)⟩
      have hzero' : ∀ rest, e :: es = 0 :: rest → rest = [] :=
        fun rest heq => absurd (List.cons.inj heq).1 he
      rw [spelled_append, Nat.toDigits_of_base_le (by decide) (by omega),
        show (spelled (e :: es) * 10 + d) / 10 = spelled (e :: es) by omega,
        show (spelled (e :: es) * 10 + d) % 10 = d by omega, ih hrun' hzero']
      simp

/-! ## Tokens -/

/-- The parts of a token are runs of digits; a zero in front stands alone. -/
structure IsWellFormed (t : Numeral) : Prop where
  whole : IsRun t.whole
  zero : ∀ rest, t.whole = 0 :: rest → rest = []
  fraction : ∀ fs ∈ t.fraction, IsRun fs
  exponent : ∀ e ∈ t.exponent, IsRun e.2

/-- The characters of a token whose exponent has a small letter and a sign. -/
def chars (t : Numeral) : List Char :=
  (if t.negative then ['-'] else []) ++ (t.whole.map Nat.digitChar ++
    ((match t.fraction with
      | none => []
      | some fs => '.' :: fs.map Nat.digitChar) ++
    (match t.exponent with
      | none => []
      | some (down, es) => 'e' :: (if down then '-' else '+') :: es.map Nat.digitChar)))

theorem Spells.isWellFormed {cs : List Char} {t : Numeral} (h : Spells cs t) : t.IsWellFormed := by
  obtain ⟨fraction, exponent, hfraction, hexponent, -⟩ := h.parts
  refine ⟨h.run, h.zero, fun fs hfs => ?_, fun e he => ?_⟩
  · rw [hfs] at hfraction
    exact hfraction.1
  · rw [he] at hexponent
    exact hexponent.1

theorem IsWellFormed.spells_chars {t : Numeral} (h : t.IsWellFormed) : Spells t.chars t := by
  refine ⟨h.whole, h.zero, _, _, ?_, ?_, rfl⟩
  · cases hf : t.fraction with
    | none => rfl
    | some fs => exact ⟨h.fraction fs hf, rfl⟩
  · cases he : t.exponent with
    | none => rfl
    | some e =>
      obtain ⟨down, es⟩ := e
      refine ⟨h.exponent _ he, 'e', by simp, [if down then '-' else '+'], ?_, rfl⟩
      cases down <;> simp [signs]

/-- Characters are those of one token only. -/
theorem Spells.unique {cs : List Char} {t t' : Numeral} (h : Spells cs t) (h' : Spells cs t') :
    t = t' := by
  have hends : EndsNumber [] := fun c hc => by cases hc
  obtain ⟨q, hq⟩ := h.scan hends .start
  obtain ⟨q', hq'⟩ := h'.scan hends .start
  exact (Prod.ext_iff.mp (Except.ok.inj (hq.symm.trans hq'))).1

/-- The power of ten that an exponent stands for. -/
def power10 : Option (Bool × List Nat) → Int
  | none => 0
  | some (down, es) => if down then -(spelled es : Int) else spelled es

/-- The number that is written: all digits, and the place of the last one. -/
def decimal (t : Numeral) : Binary64.Decimal :=
  ⟨spelled (t.whole ++ t.fraction.getD []), power10 t.exponent - (t.fraction.getD []).length⟩

def toRat (t : Numeral) : ℚ := t.decimal.toRat

/-- The printed form of numbers that are no integers: up to sixteen digits before the point and the
fraction without zeros at its end, or a fraction with at most four zeros in front, or one digit before
the point and an exponent beyond those. -/
inductive IsPrinted : Numeral → Prop
  | whole {negative : Bool} {ws : List Nat} (hlength : ws.length ≤ 16) :
      IsPrinted ⟨negative, ws, some [0], none⟩
  | mixed {negative : Bool} {ws fs : List Nat} (hws : ws ≠ [0]) (hlength : ws.length ≤ 16)
      (hlast : fs.getLast? ≠ some 0) : IsPrinted ⟨negative, ws, some fs, none⟩
  | small {negative : Bool} {zeros d : Nat} {ds : List Nat} (hzeros : zeros ≤ 4) (hd : d ≠ 0)
      (hlast : (d :: ds).getLast? ≠ some 0) :
      IsPrinted ⟨negative, [0], some (List.replicate zeros 0 ++ d :: ds), none⟩
  | scientific {negative : Bool} {d : Nat} {ds : List Nat} (hd : d ≠ 0)
      (hlast : (d :: ds).getLast? ≠ some 0) {down : Bool} {es : List Nat}
      (hes : es.head? ≠ some 0) (hpower : (if down then 5 else 15) < spelled es) :
      IsPrinted ⟨negative, [d], if ds = [] then none else some ds, some (down, es)⟩

end Numeral

/-! ## Printed decimals -/

namespace Binary64.Decimal

/-- What is printed of a decimal. -/
def text (d : Decimal) : List Char :=
  let digits := (toString d.digits).toList
  let power : Int := d.exponent + digits.length - 1
  if Number.isPositional power then Number.plain digits d.exponent
  else Number.scientific digits power

/-- Zero, or no zeros at the end. -/
def IsCanonical (d : Decimal) : Prop := d.IsTrimmed ∨ d = ⟨0, 0⟩

theorem toRat_pos {d : Decimal} (h : 0 < d.digits) : 0 < d.toRat := by
  have hpos : (0 : ℚ) < d.digits := by exact_mod_cast h
  unfold toRat
  positivity

theorem IsTrimmed.digits_pos {d : Decimal} (h : d.IsTrimmed) : 0 < d.digits :=
  Nat.pos_of_ne_zero (fun hzero => h (by rw [hzero]))

theorem IsCanonical.eq_of_toRat_eq {d e : Decimal} (hd : d.IsCanonical) (he : e.IsCanonical)
    (h : d.toRat = e.toRat) : d = e := by
  have hzero : toRat ⟨0, 0⟩ = 0 := by simp [toRat]
  rcases hd with hd | rfl
  · rcases he with he | rfl
    · exact Decimal.eq_of_toRat_eq hd he h
    · rw [hzero] at h
      exact absurd h (toRat_pos hd.digits_pos).ne'
  · rcases he with he | rfl
    · rw [hzero] at h
      exact absurd h.symm (toRat_pos he.digits_pos).ne'
    · rfl

theorem text_eq {d : Decimal} {ds : List Nat} (h : Nat.toDigits 10 d.digits = ds.map Nat.digitChar) :
    d.text = if -5 ≤ d.exponent + ds.length - 1 ∧ d.exponent + ds.length - 1 ≤ 15 then
        Number.plain (ds.map Nat.digitChar) d.exponent
      else Number.scientific (ds.map Nat.digitChar) (d.exponent + ds.length - 1) := by
  have hdigits : (toString d.digits).toList = ds.map Nat.digitChar := by
    rw [← h]
    exact Nat.toList_repr
  unfold text
  dsimp only
  rw [hdigits, List.length_map]
  simp [Number.isPositional]

/-- A number with digits behind the point. -/
theorem plain_neg (digits : List Char) {places : Nat} (h : 0 < places) :
    Number.plain digits (-(places : Int)) =
      if places < digits.length then
        digits.take (digits.length - places) ++ '.' :: digits.drop (digits.length - places)
      else '0' :: '.' :: List.replicate (places - digits.length) '0' ++ digits := by
  unfold Number.plain
  rw [if_neg (by omega), Int.neg_neg, Int.toNat_natCast]

end Binary64.Decimal

/-! ## From tokens to decimals -/

namespace Numeral

variable {t : Numeral}

/-- A whole number is its digits without the zeros at their end, and these zeros. -/
theorem exists_trimmed {ws : List Nat} (hrun : IsRun ws) (hzero : ∀ rest, ws = 0 :: rest → rest = [])
    (hpos : 0 < spelled ws) :
    ∃ d : Binary64.Decimal, ∃ zeros ns, d.IsTrimmed ∧ d.exponent = (zeros : Nat) ∧
      d.toRat = spelled ws ∧ Nat.toDigits 10 d.digits = ns.map Nat.digitChar ∧
      ws.map Nat.digitChar = (ns ++ List.replicate zeros 0).map Nat.digitChar := by
  let d : Binary64.Decimal := Binary64.Decimal.trim ⟨spelled ws, 0⟩
  have htrimmed : d.IsTrimmed := Binary64.Decimal.isTrimmed_trim hpos.ne'
  have hrat : d.toRat = spelled ws := by
    rw [Binary64.Decimal.toRat_trim]
    simp [Binary64.Decimal.toRat]
  have hexponent : 0 ≤ d.exponent := Binary64.Decimal.exponent_le_trim ⟨spelled ws, 0⟩
  obtain ⟨zeros, hzeros⟩ := Int.eq_ofNat_of_zero_le hexponent
  obtain ⟨ns, hns, hlt, hspelled, hne, hnzero⟩ := exists_digits d.digits
  refine ⟨d, zeros, ns, htrimmed, hzeros, hrat, hns, ?_⟩
  have hwhole : spelled ws = spelled (ns ++ List.replicate zeros 0) := by
    have hunits := Binary64.Decimal.toRat_of_le hexponent
    rw [hrat, hzeros, zpow_zero, mul_one, Int.sub_zero, Int.toNat_natCast] at hunits
    have hunits : spelled ws = d.digits * 10 ^ zeros := by exact_mod_cast hunits
    rw [hunits, spelled_append_run, spelled_replicate_zero, List.length_replicate, hspelled,
      Nat.add_zero]
  rw [← toDigits_spelled hrun hzero, hwhole]
  refine toDigits_spelled ⟨by simp [hne], ?_⟩ ?_
  · intro x hx
    rcases List.mem_append.mp hx with hx | hx
    · exact hlt x hx
    · rw [(List.mem_replicate.mp hx).2]
      decide
  · intro rest heq
    obtain ⟨n, more, rfl⟩ := List.exists_cons_of_ne_nil hne
    rw [List.cons_append, List.cons.injEq] at heq
    obtain ⟨rfl, rfl⟩ := heq
    rw [hnzero more rfl, spelled_singleton] at hspelled
    exact absurd hspelled.symm htrimmed.digits_pos.ne'

theorem toRat_whole (negative : Bool) (ws : List Nat) :
    toRat ⟨negative, ws, some [0], none⟩ = spelled ws := by
  simp only [toRat, decimal, Option.getD_some, spelled_append, power10, Binary64.Decimal.toRat]
  push_cast
  norm_num
  ring

theorem decimal_small (negative : Bool) (zeros d : Nat) (ds : List Nat) :
    decimal ⟨negative, [0], some (List.replicate zeros 0 ++ d :: ds), none⟩ =
      ⟨spelled (d :: ds), -((zeros + (ds.length + 1) : Nat) : Int)⟩ := by
  have hspelled : spelled (0 :: (List.replicate zeros 0 ++ d :: ds)) = spelled (d :: ds) := by
    rw [← List.cons_append, ← List.replicate_succ, spelled_append_run, spelled_replicate_zero,
      Nat.zero_mul, Nat.zero_add]
  simp [decimal, power10, hspelled]

theorem decimal_scientific (negative : Bool) (d : Nat) (ds : List Nat)
    (exponent : Option (Bool × List Nat)) :
    decimal ⟨negative, [d], if ds = [] then none else some ds, exponent⟩ =
      ⟨spelled (d :: ds), power10 exponent - ds.length⟩ := by
  have hfraction : (if ds = [] then none else some ds).getD [] = ds := by
    split
    · next h =>
      rw [h]
      rfl
    · rfl
  simp [decimal, hfraction]

theorem chars_none (negative : Bool) (ws fs : List Nat) :
    chars ⟨negative, ws, some fs, none⟩ = (if negative then ['-'] else []) ++
      (ws.map Nat.digitChar ++ '.' :: fs.map Nat.digitChar) := by
  simp [chars]

/-- The token is what is printed of the decimal. -/
structure PrintOf (t : Numeral) (d : Binary64.Decimal) : Prop where
  canonical : d.IsCanonical
  toRat_eq : d.toRat = t.toRat
  chars_eq : t.chars = (if t.negative then ['-'] else []) ++ d.text

section

variable {negative : Bool}

theorem exists_printOf_whole {ws : List Nat} (hlength : ws.length ≤ 16)
    (hw : IsWellFormed ⟨negative, ws, some [0], none⟩) :
    ∃ d, PrintOf ⟨negative, ws, some [0], none⟩ d := by
  have hrat := toRat_whole negative ws
  rcases Nat.eq_zero_or_pos (spelled ws) with hspelled | hpos
  · obtain rfl : ws = [0] := by
      obtain ⟨w, rest, rfl⟩ := List.exists_cons_of_ne_nil hw.whole.1
      by_cases hzero : w = 0
      · rw [hzero, hw.zero rest (by rw [hzero])]
      · exact absurd hspelled (spelled_cons_pos hzero rest).ne'
    refine ⟨⟨0, 0⟩, .inr rfl, ?_, rfl⟩
    rw [hrat, hspelled]
    simp [Binary64.Decimal.toRat]
  · obtain ⟨d, zeros, ns, htrimmed, hexponent, hdrat, hns, hws⟩ :=
      exists_trimmed hw.whole hw.zero hpos
    refine ⟨d, .inl htrimmed, hdrat.trans hrat.symm, ?_⟩
    have hlength' : ws.length = ns.length + zeros := by
      have := congrArg List.length hws
      simpa using this
    have hnslength : 0 < ns.length := by
      rcases ns with _ | ⟨n, ns⟩
      · exact absurd hns (Nat.toDigits_ne_nil)
      · simp
    have hpower : -5 ≤ (zeros : Int) + ns.length - 1 ∧ (zeros : Int) + ns.length - 1 ≤ 15 := by
      omega
    rw [Binary64.Decimal.text_eq hns, hexponent, if_pos hpower, chars_none, hws, Number.plain,
      if_pos (Int.natCast_nonneg zeros)]
    simp [Nat.digitChar]

theorem exists_printOf_mixed {ws fs : List Nat} (hws : ws ≠ [0]) (hlength : ws.length ≤ 16)
    (hlast : fs.getLast? ≠ some 0) (hw : IsWellFormed ⟨negative, ws, some fs, none⟩) :
    ∃ d, PrintOf ⟨negative, ws, some fs, none⟩ d := by
  have hfs : IsRun fs := hw.fraction fs rfl
  have hrun : IsRun (ws ++ fs) := ⟨by simp [hfs.1], List.forall_mem_append.mpr ⟨hw.whole.2, hfs.2⟩⟩
  have hlast' : (ws ++ fs).getLast? ≠ some 0 := by
    rwa [List.getLast?_append_of_ne_nil _ hfs.1]
  have hzero : ∀ rest, ws ++ fs = 0 :: rest → rest = [] := by
    intro rest heq
    obtain ⟨w, more, rfl⟩ := List.exists_cons_of_ne_nil hw.whole.1
    rw [List.cons_append, List.cons.injEq] at heq
    obtain ⟨rfl, -⟩ := heq
    exact absurd (by rw [hw.zero more rfl]) hws
  have hdigits := toDigits_spelled hrun hzero
  refine ⟨decimal ⟨negative, ws, some fs, none⟩, .inl (spelled_mod_ten hrun hlast'), rfl, ?_⟩
  have hexponent : (decimal ⟨negative, ws, some fs, none⟩).exponent = -(fs.length : Int) := by
    simp [decimal, power10]
  have hwlength : 0 < ws.length := List.length_pos_of_ne_nil hw.whole.1
  have hflength := List.length_pos_of_ne_nil hfs.1
  have hpower : -5 ≤ -(fs.length : Int) + (ws ++ fs).length - 1 ∧
      -(fs.length : Int) + (ws ++ fs).length - 1 ≤ 15 := by
    rw [List.length_append]
    omega
  have hplaces : fs.length < ((ws ++ fs).map Nat.digitChar).length := by
    rw [List.length_map, List.length_append]
    omega
  rw [Binary64.Decimal.text_eq hdigits, hexponent, if_pos hpower,
    Binary64.Decimal.plain_neg _ hflength, if_pos hplaces, chars_none]
  simp

theorem exists_printOf_small {zeros d : Nat} {ds : List Nat} (hzeros : zeros ≤ 4) (hd : d ≠ 0)
    (hlast : (d :: ds).getLast? ≠ some 0)
    (hw : IsWellFormed ⟨negative, [0], some (List.replicate zeros 0 ++ d :: ds), none⟩) :
    ∃ v, PrintOf ⟨negative, [0], some (List.replicate zeros 0 ++ d :: ds), none⟩ v := by
  have hfs := hw.fraction _ rfl
  have hrun : IsRun (d :: ds) :=
    ⟨by simp, fun x hx => hfs.2 x (List.mem_append_right _ hx)⟩
  have hzero : ∀ rest, d :: ds = 0 :: rest → rest = [] :=
    fun rest heq => absurd (List.cons.inj heq).1 hd
  have hdigits := toDigits_spelled hrun hzero
  have hdecimal := decimal_small negative zeros d ds
  refine ⟨_, .inl ?_, rfl, ?_⟩
  · rw [hdecimal]
    exact spelled_mod_ten hrun hlast
  · have hpower : -5 ≤ -((zeros + (ds.length + 1) : Nat) : Int) + (d :: ds).length - 1 ∧
        -((zeros + (ds.length + 1) : Nat) : Int) + (d :: ds).length - 1 ≤ 15 := by
      rw [List.length_cons]
      omega
    have hplaces : ¬ zeros + (ds.length + 1) < ((d :: ds).map Nat.digitChar).length := by
      rw [List.length_map, List.length_cons]
      omega
    rw [hdecimal, Binary64.Decimal.text_eq hdigits, if_pos hpower,
      Binary64.Decimal.plain_neg _ (by omega), if_neg hplaces, chars_none]
    simp [Nat.digitChar]

/-- The exponent is printed with its sign, and it is too large for a point among the digits. -/
theorem power10_beyond {down : Bool} {es : List Nat}
    (hpower : (if down then 5 else 15) < spelled es) :
    (power10 (some (down, es))).natAbs = spelled es ∧
      (if 0 ≤ power10 (some (down, es)) then '+' else '-') = (if down then '-' else '+') ∧
      ¬ (-5 ≤ power10 (some (down, es)) ∧ power10 (some (down, es)) ≤ 15) := by
  cases down with
  | true =>
    simp only [if_true] at hpower
    have hneg : ¬ 0 ≤ power10 (some (true, es)) := by
      simp only [power10, if_true]
      omega
    refine ⟨by simp [power10], by rw [if_neg hneg]; rfl, ?_⟩
    simp only [power10, if_true]
    omega
  | false =>
    simp only [Bool.false_eq_true, if_false] at hpower
    have hnat : 0 ≤ power10 (some (false, es)) := by simp [power10]
    refine ⟨by simp [power10], by rw [if_pos hnat]; rfl, ?_⟩
    simp only [power10, Bool.false_eq_true, if_false]
    omega

theorem exists_printOf_scientific {d : Nat} {ds : List Nat} (hd : d ≠ 0)
    (hlast : (d :: ds).getLast? ≠ some 0) {down : Bool} {es : List Nat} (hes : es.head? ≠ some 0)
    (hpower : (if down then 5 else 15) < spelled es)
    (hw : IsWellFormed ⟨negative, [d], if ds = [] then none else some ds, some (down, es)⟩) :
    ∃ v, PrintOf ⟨negative, [d], if ds = [] then none else some ds, some (down, es)⟩ v := by
  have hrun : IsRun (d :: ds) := by
    refine ⟨by simp, List.forall_mem_cons.mpr ⟨hw.whole.2 d (by simp), fun x hx => ?_⟩⟩
    have hne : ds ≠ [] := List.ne_nil_of_mem hx
    exact (hw.fraction ds (by simp [hne])).2 x hx
  have hzero : ∀ rest, d :: ds = 0 :: rest → rest = [] :=
    fun rest heq => absurd (List.cons.inj heq).1 hd
  have hdigits := toDigits_spelled hrun hzero
  have hdecimal := decimal_scientific negative d ds (some (down, es))
  have hes' : IsRun es := hw.exponent _ rfl
  have hespelled : Nat.toDigits 10 (spelled es) = es.map Nat.digitChar := by
    refine toDigits_spelled hes' (fun rest heq => absurd ?_ hes)
    rw [heq]
    rfl
  refine ⟨_, .inl ?_, rfl, ?_⟩
  · rw [hdecimal]
    exact spelled_mod_ten hrun hlast
  · rw [hdecimal, Binary64.Decimal.text_eq hdigits]
    have hplace : power10 (some (down, es)) - (ds.length : Int) + (d :: ds).length - 1 =
        power10 (some (down, es)) := by
      rw [List.length_cons]
      push_cast
      ring
    obtain ⟨hnat, hsign, hbeyond⟩ := power10_beyond hpower
    have hstring : (toString (spelled es)).toList = es.map Nat.digitChar := by
      rw [← hespelled]
      exact Nat.toList_repr
    rw [hplace, if_neg hbeyond, Number.scientific, hsign, hnat, hstring]
    cases ds <;> simp [chars]

end

/-- A token in printed form is what is printed of some decimal. -/
theorem IsPrinted.exists_printOf (h : t.IsPrinted) (hw : t.IsWellFormed) : ∃ d, t.PrintOf d := by
  cases h with
  | whole hlength => exact exists_printOf_whole hlength hw
  | mixed hws hlength hlast => exact exists_printOf_mixed hws hlength hlast hw
  | small hzeros hd hlast => exact exists_printOf_small hzeros hd hlast hw
  | scientific hd hlast hes hpower => exact exists_printOf_scientific hd hlast hes hpower hw

/-! ## From decimals to tokens -/

/-- A token in printed form with that sign, whose number is the decimal. -/
structure TokenOf (t : Numeral) (negative : Bool) (d : Binary64.Decimal) : Prop where
  printed : t.IsPrinted
  wellFormed : t.IsWellFormed
  sign_eq : t.negative = negative
  toRat_eq : t.toRat = d.toRat

section

variable (negative : Bool) {n : Nat} {more : List Nat} (hn : n ≠ 0)
  (hlast : (n :: more).getLast? ≠ some 0) (hlt : ∀ d ∈ n :: more, d < 10)
include hn hlt

/-- The point stands behind all digits. -/
theorem exists_tokenOf_whole {zeros : Nat} (hpower : zeros + more.length ≤ 15) :
    ∃ t, TokenOf t negative ⟨spelled (n :: more), zeros⟩ := by
  refine ⟨⟨negative, n :: more ++ List.replicate zeros 0, some [0], none⟩, .whole ?_,
    ⟨⟨by simp, ?_⟩, ?_, ?_, by simp⟩, rfl, ?_⟩
  · rw [List.length_append, List.length_cons, List.length_replicate]
    omega
  · intro x hx
    rcases List.mem_append.mp hx with hx | hx
    · exact hlt x hx
    · rw [(List.mem_replicate.mp hx).2]
      decide
  · exact fun rest heq => absurd (List.cons.inj heq).1 hn
  · rintro fs ⟨⟩
    exact ⟨by simp, by simp⟩
  · rw [toRat_whole, spelled_append_run, spelled_replicate_zero, List.length_replicate,
      Binary64.Decimal.toRat]
    push_cast
    simp

include hlast

/-- The point stands in front of all digits. -/
theorem exists_tokenOf_small {places : Nat} (hplaces : more.length < places)
    (hpower : places ≤ more.length + 5) :
    ∃ t, TokenOf t negative ⟨spelled (n :: more), -(places : Int)⟩ := by
  refine ⟨⟨negative, [0], some (List.replicate (places - (more.length + 1)) 0 ++ n :: more), none⟩,
    .small (by omega) hn hlast, ⟨⟨by simp, by simp⟩, by simp, ?_, by simp⟩, rfl, ?_⟩
  · rintro fs ⟨⟩
    refine ⟨by simp, fun x hx => ?_⟩
    rcases List.mem_append.mp hx with hx | hx
    · rw [(List.mem_replicate.mp hx).2]
      decide
    · exact hlt x hx
  · rw [toRat, decimal_small, show places - (more.length + 1) + (more.length + 1) = places by omega]

/-- The point stands between two digits. -/
theorem exists_tokenOf_mixed {places : Nat} (hpos : 0 < places) (hplaces : places ≤ more.length)
    (hpower : more.length ≤ places + 15) :
    ∃ t, TokenOf t negative ⟨spelled (n :: more), -(places : Int)⟩ := by
  have hdrop : (more.drop (more.length - places)).length = places := by
    rw [List.length_drop]
    omega
  have hfraction : IsRun (more.drop (more.length - places)) :=
    ⟨List.ne_nil_of_length_pos (by omega),
      fun x hx => hlt x (List.mem_cons_of_mem _ (List.mem_of_mem_drop hx))⟩
  have hwhole : IsRun (n :: more.take (more.length - places)) :=
    ⟨by simp, List.forall_mem_cons.mpr ⟨hlt n (by simp),
      fun x hx => hlt x (List.mem_cons_of_mem _ (List.mem_of_mem_take hx))⟩⟩
  have hdecimal : decimal ⟨negative, n :: more.take (more.length - places),
      some (more.drop (more.length - places)), none⟩ =
        ⟨spelled (n :: more), -(places : Int)⟩ := by
    simp [decimal, power10, -List.length_drop, hdrop]
  refine ⟨⟨negative, n :: more.take (more.length - places),
    some (more.drop (more.length - places)), none⟩, .mixed ?_ ?_ ?_, ⟨hwhole, ?_, ?_, by simp⟩,
    rfl, ?_⟩
  · simp [hn]
  · rw [List.length_cons, List.length_take]
    omega
  · have hmore : more ≠ [] := List.ne_nil_of_length_pos (by omega)
    rw [List.getLast?_drop, if_neg (by omega)]
    rwa [List.getLast?_cons_of_ne_nil hmore] at hlast
  · exact fun rest heq => absurd (List.cons.inj heq).1 hn
  · rintro fs ⟨⟩
    exact hfraction
  · rw [toRat, hdecimal]

/-- The point stands behind the first digit. -/
theorem exists_tokenOf_scientific {exponent : Int}
    (hpower : ¬ (-5 ≤ exponent + more.length ∧ exponent + more.length ≤ 15)) :
    ∃ t, TokenOf t negative ⟨spelled (n :: more), exponent⟩ := by
  obtain ⟨es, -, helt, hespelled, hene, hezero⟩ := exists_digits (exponent + more.length).natAbs
  have hexponent : power10 (some (decide (exponent + more.length < 0), es)) =
      exponent + more.length := by
    rw [power10, hespelled]
    rcases Int.lt_or_le (exponent + more.length) 0 with h | h
    · rw [decide_eq_true h, if_pos rfl]
      omega
    · rw [decide_eq_false (by omega), if_neg (by simp)]
      omega
  refine ⟨⟨negative, [n], if more = [] then none else some more,
    some (decide (exponent + more.length < 0), es)⟩, .scientific hn hlast ?_ ?_,
    ⟨⟨by simp, by simpa using hlt n (by simp)⟩, ?_, ?_, ?_⟩, rfl, ?_⟩
  · intro hhead
    obtain ⟨rest, rfl⟩ := List.head?_eq_some_iff.mp hhead
    rw [hezero rest rfl, spelled_singleton] at hespelled
    omega
  · rw [hespelled]
    rcases Int.lt_or_le (exponent + more.length) 0 with h | h
    · rw [decide_eq_true h, if_pos rfl]
      omega
    · rw [decide_eq_false (by omega), if_neg (by simp)]
      omega
  · exact fun rest heq => absurd (List.cons.inj heq).1 hn
  · intro fs hfs
    split at hfs
    · cases hfs
    · next hne =>
      cases hfs
      exact ⟨hne, fun x hx => hlt x (List.mem_cons_of_mem _ hx)⟩
  · rintro e ⟨⟩
    exact ⟨hene, helt⟩
  · rw [toRat, decimal_scientific, hexponent, show exponent + (more.length : Int) - more.length =
      exponent by ring]

end

/-- Each decimal has a token in printed form. -/
theorem exists_tokenOf (negative : Bool) {d : Binary64.Decimal} (hd : d.IsCanonical) :
    ∃ t, TokenOf t negative d := by
  rcases hd with htrimmed | rfl
  · obtain ⟨ns, -, hlt, hspelled, hne, hzero⟩ := exists_digits d.digits
    obtain ⟨n, more, rfl⟩ := List.exists_cons_of_ne_nil hne
    have hn : n ≠ 0 := by
      rintro rfl
      rw [hzero more rfl, spelled_singleton] at hspelled
      exact htrimmed.digits_pos.ne hspelled
    have hlast : (n :: more).getLast? ≠ some 0 := by
      intro heq
      obtain ⟨ys, hys⟩ := List.getLast?_eq_some_iff.mp heq
      rw [Binary64.Decimal.IsTrimmed, ← hspelled, hys, spelled_append] at htrimmed
      omega
    obtain ⟨digits, exponent⟩ := d
    obtain rfl : spelled (n :: more) = digits := hspelled
    by_cases hpower : -5 ≤ exponent + more.length ∧ exponent + more.length ≤ 15
    · rcases Int.lt_or_le exponent 0 with hneg | hnat
      · obtain ⟨places, rfl⟩ : ∃ places : Nat, exponent = -(places : Int) :=
          ⟨exponent.natAbs, by omega⟩
        rcases Nat.lt_or_ge more.length places with hsmall | hmixed
        · exact exists_tokenOf_small negative hn hlast hlt hsmall (by omega)
        · exact exists_tokenOf_mixed negative hn hlast hlt (by omega) hmixed (by omega)
      · obtain ⟨zeros, rfl⟩ := Int.eq_ofNat_of_zero_le hnat
        exact exists_tokenOf_whole negative hn hlt (by omega)
    · exact exists_tokenOf_scientific negative hn hlast hlt hpower
  · refine ⟨⟨negative, [0], some [0], none⟩, .whole (by decide), ?_, rfl, ?_⟩
    · exact ⟨⟨by simp, by simp⟩, by simp, by simp [IsRun], by simp⟩
    · simp [toRat_whole, spelled, Binary64.Decimal.toRat]

end Numeral

theorem Number.text_decimal (negative : Bool) (b : Binary64) :
    (Number.decimal negative b).text =
      String.ofList ((if negative then ['-'] else []) ++ b.shortest.text) := by
  cases negative <;> rfl

end LuaStubs.Json
