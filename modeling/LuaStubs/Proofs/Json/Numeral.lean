import LuaStubs.Proofs.Results
import LuaStubs.Proofs.Json.Spelling

/-! A number is scanned exactly when it is spelled, and the digits of an integer of at most 64 bits
spell it. -/
namespace LuaStubs.Json.Numeral

/-! ## Digits -/

theorem digit?_digitChar : ∀ d < 10, digit? (Nat.digitChar d) = some d := by decide

/-- A text that does not begin with a digit. -/
def EndsDigits (tail : List Char) : Prop := ∀ c ∈ tail.head?, digit? c = none

theorem digits_of_endsDigits {tail : List Char} (h : EndsDigits tail) : digits tail = ([], tail) := by
  cases tail with
  | nil => rfl
  | cons c cs => simp only [digits, h c rfl]

theorem digits_append (ds : List Nat) (hds : ∀ d ∈ ds, d < 10) {tail : List Char}
    (h : EndsDigits tail) : digits (ds.map Nat.digitChar ++ tail) = (ds, tail) := by
  induction ds with
  | nil => exact digits_of_endsDigits h
  | cons d ds ih =>
    have hd := digit?_digitChar d (hds d List.mem_cons_self)
    have hrest := ih (fun e he => hds e (List.mem_cons_of_mem _ he))
    simp only [List.map_cons, List.cons_append, digits, hd, hrest]

/-! ## Tokens -/

/-- A text that does not carry a number on. -/
def EndsNumber (tail : List Char) : Prop :=
  ∀ c ∈ tail.head?, digit? c = none ∧ c ≠ '.' ∧ c ≠ 'e' ∧ c ≠ 'E'

theorem EndsNumber.endsDigits {tail : List Char} (h : EndsNumber tail) : EndsDigits tail :=
  fun c hc => (h c hc).1

theorem scanWhole_run {ds : List Nat} (hrun : IsRun ds) (hzero : ∀ rest, ds = 0 :: rest → rest = [])
    {tail : List Char} (htail : EndsDigits tail) (p : Place) :
    scanWhole ⟨ds.map Nat.digitChar ++ tail, p⟩ = .ok (ds, ⟨tail, across p ds.length⟩) := by
  unfold scanWhole
  rw [digits_append _ hrun.2 htail]
  match ds, hrun.1, hzero with
  | [0], _, _ => rfl
  | 0 :: d :: rest, _, hzero => cases hzero (d :: rest) rfl
  | (d + 1) :: rest, _, _ => rfl

/-- A text that does not go on with a fraction. -/
def EndsFraction (tail : List Char) : Prop := ∀ c ∈ tail.head?, digit? c = none ∧ c ≠ '.'

theorem SpellsFraction.scan {cs : List Char} {fraction : Option (List Nat)}
    (h : SpellsFraction cs fraction) {tail : List Char} (htail : EndsFraction tail) (p : Place) :
    ∃ q, scanFraction ⟨cs ++ tail, p⟩ = .ok (fraction, ⟨tail, q⟩) := by
  cases fraction with
  | none =>
    obtain rfl : cs = [] := h
    refine ⟨p, ?_⟩
    cases tail with
    | nil => rfl
    | cons c rest =>
      have hdot := (htail c rfl).2
      unfold scanFraction
      split
      · next heq =>
        cases heq
        exact absurd rfl hdot
      · rfl
  | some ds =>
    obtain ⟨hrun, rfl⟩ := h
    have hdigits := digits_append _ hrun.2 (fun c hc => (htail c hc).1)
    obtain ⟨d, rest, rfl⟩ := List.exists_cons_of_ne_nil hrun.1
    refine ⟨across (across p 1) (d :: rest).length, ?_⟩
    unfold scanFraction
    simp only [List.cons_append, hdigits]

/-- The digits of an exponent, behind its sign. -/
def scanRun (negative : Bool) (c : Cursor) : Except Fault (Option (Bool × List Nat) × Cursor) :=
  match digits c.rest with
  | ([], _) => .error (broken c)
  | (ds, rest) => .ok (some (negative, ds), ⟨rest, across c.place ds.length⟩)

theorem scanExponent_sign {e : Char} (he : e ∈ ['e', 'E']) {negative : Bool} {sign : List Char}
    (hsign : sign ∈ signs negative) {rest : List Char}
    (hrest : ∀ c ∈ rest.head?, c ≠ '-' ∧ c ≠ '+') (p : Place) :
    ∃ q, scanExponent ⟨e :: (sign ++ rest), p⟩ = scanRun negative ⟨rest, q⟩ := by
  cases negative with
  | true =>
    obtain rfl : sign = ['-'] := by simpa [signs] using hsign
    rcases List.mem_pair.mp he with rfl | rfl <;> exact ⟨across p 2, rfl⟩
  | false =>
    rcases List.mem_pair.mp hsign with rfl | rfl
    · refine ⟨across p 1, ?_⟩
      cases rest with
      | nil => rcases List.mem_pair.mp he with rfl | rfl <;> rfl
      | cons c rest =>
        obtain ⟨hminus, hplus⟩ := hrest c rfl
        rcases List.mem_pair.mp he with rfl | rfl <;>
          (simp [scanExponent, hminus, hplus]; rfl)
    · rcases List.mem_pair.mp he with rfl | rfl <;> exact ⟨across p 2, rfl⟩

theorem scanExponent_cases (c : Cursor) :
    scanExponent c = .ok (none, c) ∨
    ∃ e ∈ ['e', 'E'], ∃ negative, ∃ sign ∈ signs negative, ∃ rest q,
      c.rest = e :: (sign ++ rest) ∧ scanExponent c = scanRun negative ⟨rest, q⟩ := by
  have hplus : ['+'] ∈ signs false := by decide
  have hminus : ['-'] ∈ signs true := by decide
  have hnone : [] ∈ signs false := by decide
  fun_cases scanExponent c with
  | case1 _ rest hrest => exact .inr ⟨'e', by simp, true, ['-'], hminus, rest, _, hrest, rfl⟩
  | case2 _ rest hrest => exact .inr ⟨'E', by simp, true, ['-'], hminus, rest, _, hrest, rfl⟩
  | case3 _ rest hrest => exact .inr ⟨'e', by simp, false, ['+'], hplus, rest, _, hrest, rfl⟩
  | case4 _ rest hrest => exact .inr ⟨'E', by simp, false, ['+'], hplus, rest, _, hrest, rfl⟩
  | case5 _ rest _ _ hrest => exact .inr ⟨'e', by simp, false, [], hnone, rest, _, hrest, rfl⟩
  | case6 _ rest _ _ hrest => exact .inr ⟨'E', by simp, false, [], hnone, rest, _, hrest, rfl⟩
  | case7 => exact .inl rfl

theorem SpellsExponent.scan {cs : List Char} {exponent : Option (Bool × List Nat)}
    (h : SpellsExponent cs exponent) {tail : List Char} (htail : EndsNumber tail) (p : Place) :
    ∃ q, scanExponent ⟨cs ++ tail, p⟩ = .ok (exponent, ⟨tail, q⟩) := by
  cases exponent with
  | none =>
    obtain rfl : cs = [] := h
    refine ⟨p, ?_⟩
    cases tail with
    | nil => rfl
    | cons c rest =>
      obtain ⟨-, -, he, hE⟩ := htail c rfl
      simp [scanExponent, he, hE]
  | some signed =>
    obtain ⟨negative, ds⟩ := signed
    obtain ⟨hrun, e, he, sign, hsign, rfl⟩ := h
    have hdigits := digits_append _ hrun.2 htail.endsDigits
    obtain ⟨d, rest, rfl⟩ := List.exists_cons_of_ne_nil hrun.1
    have hd := digit?_digitChar d (hrun.2 d List.mem_cons_self)
    have hhead : ∀ c ∈ ((d :: rest).map Nat.digitChar ++ tail).head?, c ≠ '-' ∧ c ≠ '+' := by
      intro c hc
      obtain rfl : Nat.digitChar d = c := by simpa using hc
      constructor <;> intro heq <;> rw [heq] at hd <;> cases hd
    obtain ⟨q, hq⟩ := scanExponent_sign he hsign hhead p
    refine ⟨across q (d :: rest).length, ?_⟩
    rw [List.cons_append, List.append_assoc, hq, scanRun, hdigits]

theorem SpellsExponent.endsFraction {cs : List Char} {exponent : Option (Bool × List Nat)}
    (h : SpellsExponent cs exponent) {tail : List Char} (htail : EndsNumber tail) :
    EndsFraction (cs ++ tail) := by
  cases exponent with
  | none =>
    obtain rfl : cs = [] := h
    exact fun c hc => ⟨(htail c hc).1, (htail c hc).2.1⟩
  | some signed =>
    obtain ⟨negative, ds⟩ := signed
    obtain ⟨-, e, he, sign, -, rfl⟩ := h
    intro c hc
    obtain rfl : e = c := by simpa using hc
    rcases List.mem_pair.mp he with rfl | rfl <;> decide

theorem SpellsFraction.endsDigits {cs : List Char} {fraction : Option (List Nat)}
    (h : SpellsFraction cs fraction) {tail : List Char} (htail : EndsFraction tail) :
    EndsDigits (cs ++ tail) := by
  cases fraction with
  | none =>
    obtain rfl : cs = [] := h
    exact fun c hc => (htail c hc).1
  | some ds =>
    obtain ⟨-, rfl⟩ := h
    intro c hc
    obtain rfl : '.' = c := by simpa using hc
    decide

/-- The parts of a number behind its sign. -/
def scanParts (negative : Bool) (c : Cursor) : Except Fault (Numeral × Cursor) := do
  let (whole, c) ← scanWhole c
  let (fraction, c) ← scanFraction c
  let (exponent, c) ← scanExponent c
  return (⟨negative, whole, fraction, exponent⟩, c)

theorem scan_eq (c : Cursor) :
    scan c =
      match c.rest with
      | '-' :: rest => scanParts true ⟨rest, across c.place 1⟩
      | _ => scanParts false c := by
  obtain ⟨rest, p⟩ := c
  cases rest with
  | nil => rfl
  | cons x xs =>
    by_cases hx : x = '-'
    · rw [hx]
      rfl
    · simp [scan, scanParts, hx]

/-- What is spelled is scanned, up to a text that does not carry it on. -/
theorem Spells.scan {cs : List Char} {t : Numeral} (h : Spells cs t) {tail : List Char}
    (htail : EndsNumber tail) (p : Place) :
    ∃ q, scan ⟨cs ++ tail, p⟩ = .ok (t, ⟨tail, q⟩) := by
  obtain ⟨negative, whole, fraction, exponent⟩ := t
  obtain ⟨hrun, hzero, fs, es, hfraction, hexponent, rfl⟩ := h
  simp only at hrun hzero hfraction hexponent
  have hends := hfraction.endsDigits (hexponent.endsFraction htail)
  have hparts (p : Place) :
      ∃ q, scanParts negative ⟨whole.map Nat.digitChar ++ (fs ++ (es ++ tail)), p⟩ =
        .ok (⟨negative, whole, fraction, exponent⟩, ⟨tail, q⟩) := by
    obtain ⟨q, hq⟩ := hfraction.scan (hexponent.endsFraction htail) (across p whole.length)
    obtain ⟨r, hr⟩ := hexponent.scan htail q
    refine ⟨r, ?_⟩
    unfold scanParts
    rw [scanWhole_run hrun hzero hends]
    show (scanFraction _ >>= _) = _
    rw [hq]
    show (scanExponent _ >>= _) = _
    rw [hr]
    rfl
  rw [scan_eq]
  cases negative with
  | true =>
    obtain ⟨q, hq⟩ := hparts (across p 1)
    exact ⟨q, by simpa using hq⟩
  | false =>
    obtain ⟨q, hq⟩ := hparts p
    obtain ⟨d, rest, rfl⟩ := List.exists_cons_of_ne_nil hrun.1
    have hd := digit?_digitChar d (hrun.2 d List.mem_cons_self)
    refine ⟨q, ?_⟩
    simp only [Bool.false_eq_true, if_false, List.nil_append, List.append_assoc]
    split
    · next heq =>
      rw [List.map_cons, List.cons_append, List.cons.injEq] at heq
      rw [heq.1] at hd
      cases hd
    · exact hq

/-! ## Scanning -/

theorem eq_digitChar {c : Char} {d : Nat} (h : digit? c = some d) : c = Nat.digitChar d ∧ d < 10 := by
  unfold digit? at h
  split at h
  · next hc =>
    obtain rfl := Option.some.inj h
    refine ⟨?_, by omega⟩
    apply Char.toNat_inj.mp
    rw [Nat.toNat_digitChar_of_lt_ten (by omega)]
    omega
  · cases h

theorem digits_eq {cs rest : List Char} {ds : List Nat} (h : digits cs = (ds, rest)) :
    cs = ds.map Nat.digitChar ++ rest ∧ ∀ d ∈ ds, d < 10 := by
  induction cs generalizing ds with
  | nil =>
    cases h
    simp
  | cons c cs ih =>
    rw [digits] at h
    cases hc : digit? c with
    | none =>
      simp only [hc] at h
      cases h
      simp
    | some d =>
      simp only [hc] at h
      cases h
      obtain ⟨hd, hlt⟩ := eq_digitChar hc
      obtain ⟨hcs, hds⟩ := ih (Prod.eta _).symm
      refine ⟨?_, List.forall_mem_cons.mpr ⟨hlt, hds⟩⟩
      rw [List.map_cons, List.cons_append, ← hd, ← hcs]

theorem run_of_scanWhole {c c' : Cursor} {ds : List Nat} (h : scanWhole c = .ok (ds, c')) :
    IsRun ds ∧ (∀ rest, ds = 0 :: rest → rest = []) ∧
      c.rest = ds.map Nat.digitChar ++ c'.rest := by
  unfold scanWhole at h
  split at h
  · cases h
  · cases h
  · next ds' rest hnil hzero hdigits =>
    cases h
    obtain ⟨hrest, hlt⟩ := digits_eq hdigits
    refine ⟨⟨?_, hlt⟩, ?_, hrest⟩
    · rintro rfl
      exact hnil rfl
    · rintro (_ | ⟨d, more⟩) rfl
      · rfl
      · exact absurd rfl (hzero d more)

theorem spells_of_scanFraction {c c' : Cursor} {fraction : Option (List Nat)}
    (h : scanFraction c = .ok (fraction, c')) :
    ∃ cs, c.rest = cs ++ c'.rest ∧ SpellsFraction cs fraction := by
  unfold scanFraction at h
  split at h
  · next rest hrest =>
    split at h
    · cases h
    · next ds more hne hdigits =>
      cases h
      obtain ⟨hds, hlt⟩ := digits_eq hdigits
      exact ⟨'.' :: ds.map Nat.digitChar, by rw [hrest, hds]; rfl, ⟨hne, hlt⟩, rfl⟩
  · cases h
    exact ⟨[], rfl, rfl⟩

theorem spells_of_scanExponent {c c' : Cursor} {exponent : Option (Bool × List Nat)}
    (h : scanExponent c = .ok (exponent, c')) :
    ∃ cs, c.rest = cs ++ c'.rest ∧ SpellsExponent cs exponent := by
  rcases scanExponent_cases c with hnone | ⟨e, he, negative, sign, hsign, rest, q, hrest, hscan⟩
  · rw [hnone] at h
    cases h
    exact ⟨[], rfl, rfl⟩
  · rw [hscan, scanRun] at h
    split at h
    · cases h
    · next ds more hne hdigits =>
      cases h
      obtain ⟨hds, hlt⟩ := digits_eq hdigits
      refine ⟨e :: (sign ++ ds.map Nat.digitChar), ?_, ⟨hne, hlt⟩, e, he, sign, hsign, rfl⟩
      rw [hrest, show rest = _ from hds]
      simp

/-- Only what is spelled is scanned. -/
theorem spells_of_scan {c c' : Cursor} {t : Numeral} (h : scan c = .ok (t, c')) :
    ∃ cs, c.rest = cs ++ c'.rest ∧ Spells cs t := by
  have hparts {negative : Bool} {c : Cursor} (h : scanParts negative c = .ok (t, c')) :
      ∃ cs, (if negative then ['-'] else []) ++ c.rest = cs ++ c'.rest ∧ Spells cs t := by
    obtain ⟨⟨whole, d⟩, hwhole, h⟩ := bind_eq_ok.mp h
    obtain ⟨⟨fraction, d'⟩, hfraction, h⟩ := bind_eq_ok.mp h
    obtain ⟨⟨exponent, d''⟩, hexponent, h⟩ := bind_eq_ok.mp h
    cases h
    obtain ⟨hrun, hzero, hrest⟩ := run_of_scanWhole hwhole
    obtain ⟨fs, hfs, hfraction⟩ := spells_of_scanFraction hfraction
    obtain ⟨es, hes, hexponent⟩ := spells_of_scanExponent hexponent
    refine ⟨_, ?_, hrun, hzero, fs, es, hfraction, hexponent, rfl⟩
    rw [hrest, hfs, hes]
    simp
  rw [scan_eq] at h
  split at h
  · next rest hrest =>
    obtain ⟨cs, hcs, hspells⟩ := hparts h
    exact ⟨cs, by rw [hrest]; simpa using hcs, hspells⟩
  · obtain ⟨cs, hcs, hspells⟩ := hparts h
    exact ⟨cs, by simpa using hcs, hspells⟩

/-! ## Integers -/

/-- The number that digits spell. -/
def spelled (ds : List Nat) : Nat := ds.foldl (fun n d => n * 10 + d) 0

theorem spelled_append (ds : List Nat) (d : Nat) : spelled (ds ++ [d]) = spelled ds * 10 + d := by
  simp [spelled]

/-- A number is written with its digits, and with no zero in front of others. -/
theorem exists_digits (n : Nat) :
    ∃ ds, Nat.toDigits 10 n = ds.map Nat.digitChar ∧ (∀ d ∈ ds, d < 10) ∧ spelled ds = n ∧
      ds ≠ [] ∧ ∀ rest, ds = 0 :: rest → rest = [] := by
  induction n using Nat.strongRecOn with
  | ind n ih =>
    by_cases h : n < 10
    · refine ⟨[n], by rw [Nat.toDigits_of_lt_base h]; rfl, by simpa using h, by simp [spelled],
        by simp, ?_⟩
      intro rest hrest
      cases hrest
      rfl
    · obtain ⟨ds, hds, hlt, hspelled, hne, hzero⟩ := ih (n / 10) (by omega)
      refine ⟨ds ++ [n % 10], ?_, ?_, ?_, by simp, ?_⟩
      · rw [Nat.toDigits_of_base_le (by omega) (by omega), hds]
        simp
      · intro d hd
        rcases List.mem_append.mp hd with hd | hd
        · exact hlt d hd
        · rw [List.mem_singleton.mp hd]
          exact Nat.mod_lt _ (by omega)
      · rw [spelled_append, hspelled]
        omega
      · intro rest hrest
        obtain ⟨d, more, rfl⟩ := List.exists_cons_of_ne_nil hne
        rw [List.cons_append, List.cons.injEq] at hrest
        obtain ⟨rfl, rfl⟩ := hrest
        rw [hzero more rfl] at hspelled
        simp [spelled] at hspelled
        omega

/-- Digits are taken while the number stays below `2 ^ 64`. -/
theorem gather_eq (n : Nat) (ds : List Nat)
    (h : ds.foldl (fun n d => n * 10 + d) n < Nat.pow 2 64) :
    gather n ds = (ds.foldl (fun n d => n * 10 + d) n, []) := by
  induction ds generalizing n with
  | nil => rfl
  | cons d ds ih =>
    have hle (m : Nat) (ds : List Nat) : m ≤ ds.foldl (fun n d => n * 10 + d) m := by
      induction ds generalizing m with
      | nil => exact Nat.le_refl m
      | cons e es ih' =>
        have hm := ih' (m * 10 + e)
        rw [List.foldl_cons]
        omega
    rw [List.foldl_cons] at h ⊢
    have hfits : n * 10 + d < Nat.pow 2 64 := Nat.lt_of_le_of_lt (hle _ ds) h
    rw [gather, if_pos hfits]
    exact ih _ h

/-- The integers that are kept as such. -/
def Fits (n : Int) : Prop := -9223372036854775808 ≤ n ∧ n < 18446744073709551616

theorem toList_natCast (n : Nat) : (toString (n : Int)).toList = Nat.toDigits 10 n := by
  rw [Int.toString_eq_repr, Int.repr_eq_if, if_pos (Int.natCast_nonneg n), Int.toNat_natCast,
    Nat.toList_repr]

theorem toList_neg {n : Nat} (h : 0 < n) :
    (toString (-(n : Int))).toList = '-' :: Nat.toDigits 10 n := by
  have hneg : ¬ 0 ≤ -(n : Int) := by omega
  rw [Int.toString_eq_repr, Int.repr_eq_if, if_neg hneg, Int.neg_neg, Int.toNat_natCast,
    String.toList_append, Nat.toList_repr]
  rfl

theorem gather_spelled {ds : List Nat} (h : spelled ds < 18446744073709551616) :
    gather 0 ds = (spelled ds, []) := gather_eq 0 ds h

theorem value_nat {ds : List Nat} (h : spelled ds < 18446744073709551616) :
    value ⟨false, ds, none, none⟩ = .ok (.integer (spelled ds)) := by
  simp [value, significand, gather_spelled h]

theorem value_neg {ds : List Nat} (hpos : 0 < spelled ds)
    (h : spelled ds ≤ 9223372036854775808) :
    value ⟨true, ds, none, none⟩ = .ok (.integer (-(spelled ds : Int))) := by
  have hgather := gather_spelled (Nat.lt_of_le_of_lt h (by decide))
  have hrange : spelled ds ≤ Nat.pow 2 63 := h
  simp [value, significand, hgather, hpos, hrange]

/-- An integer of at most 64 bits is spelled by its digits. -/
theorem spells_toString {n : Int} (hn : Fits n) :
    ∃ t, Spells (toString n).toList t ∧ t.value = .ok (.integer n) := by
  obtain ⟨hlow, hhigh⟩ := hn
  rcases Int.lt_or_le n 0 with hneg | hnat
  · obtain ⟨m, rfl⟩ : ∃ m : Nat, n = -(m : Int) := ⟨n.natAbs, by omega⟩
    obtain ⟨ds, hds, hlt, hspelled, hne, hzero⟩ := exists_digits m
    refine ⟨⟨true, ds, none, none⟩, ⟨⟨hne, hlt⟩, hzero, [], [], rfl, rfl, ?_⟩, ?_⟩
    · rw [toList_neg (n := m) (by omega), hds]
      simp
    · rw [value_neg (by omega) (by omega), hspelled]
  · obtain ⟨m, rfl⟩ : ∃ m : Nat, n = m := ⟨n.toNat, by omega⟩
    obtain ⟨ds, hds, hlt, hspelled, hne, hzero⟩ := exists_digits m
    refine ⟨⟨false, ds, none, none⟩, ⟨⟨hne, hlt⟩, hzero, [], [], rfl, rfl, ?_⟩, ?_⟩
    · rw [toList_natCast, hds]
      simp
    · rw [value_nat (by omega), hspelled]

end LuaStubs.Json.Numeral
