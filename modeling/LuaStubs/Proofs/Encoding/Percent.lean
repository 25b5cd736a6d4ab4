import LuaStubs.Encoding.Percent
import LuaStubs.Proofs.Text.Utf8

/-! Percent encoding is undone by decoding, and its output is plain. -/
namespace LuaStubs.Encoding.Percent

open LuaStubs.Text

/-! ## Escapes -/

theorem digit?_digit : ∀ n < 16, digit? (digit n) = some n := by decide

/-- The character of an escape: a percent sign or a digit. -/
def IsEscapeChar (c : Char) : Prop := c = '%' ∨ ∃ n < 16, c = digit n

theorem isEscapeChar_of_mem {c d : Char} (h : d ∈ escape c) : IsEscapeChar d := by
  obtain ⟨b, -, hb⟩ := List.mem_flatMap.mp h
  have hsize : b.toNat < 256 := b.toNat_lt
  simp only [escapeByte, List.mem_cons, List.not_mem_nil, or_false] at hb
  rcases hb with rfl | rfl | rfl
  · exact .inl rfl
  · exact .inr ⟨_, by omega, rfl⟩
  · exact .inr ⟨_, by omega, rfl⟩

theorem bytes_escapeByte (b : UInt8) (rest : List Char) :
    bytes (escapeByte b ++ rest) = b :: bytes rest := by
  have hsize : b.toNat < 256 := b.toNat_lt
  have hhigh := digit?_digit (b.toNat / 16) (by omega)
  have hlow := digit?_digit (b.toNat % 16) (by omega)
  have hvalue : b.toNat / 16 * 16 + b.toNat % 16 = b.toNat := by omega
  simp only [escapeByte, List.cons_append, List.nil_append, bytes, hhigh, hlow, hvalue,
    UInt8.ofNat_toNat]

theorem bytes_escape (c : Char) (rest : List Char) :
    bytes (escape c ++ rest) = Utf8.encodeChar c ++ bytes rest := by
  unfold escape
  induction Utf8.encodeChar c with
  | nil => rfl
  | cons b bs ih =>
    rw [List.flatMap_cons, List.append_assoc, bytes_escapeByte, ih, List.cons_append]

theorem bytes_cons_of_ne {c : Char} (h : c ≠ '%') (rest : List Char) :
    bytes (c :: rest) = Utf8.encodeChar c ++ bytes rest := by
  rw [bytes]
  intro _ _ _ heq
  exact absurd heq h

/-! ## Texts -/

section

variable {plain : Char → Bool} (hplain : plain '%' = false)
include hplain

theorem bytes_encodeWith (cs : List Char) : bytes (encodeWith plain cs) = Utf8.encode cs := by
  unfold encodeWith
  induction cs with
  | nil => rfl
  | cons c cs ih =>
    rw [List.flatMap_cons, Utf8.encode_cons]
    by_cases hc : plain c = true
    · have hne : c ≠ '%' := by
        rintro rfl
        rw [hplain] at hc
        cases hc
      rw [if_pos hc, List.singleton_append, bytes_cons_of_ne hne, ih]
    · rw [if_neg hc, bytes_escape, ih]

theorem decode_encodeWith (cs : List Char) : decode (encodeWith plain cs) = some cs := by
  rw [decode, bytes_encodeWith hplain, Utf8.decode_encode]
  rfl

end

theorem decode_segment (cs : List Char) : decode (segment cs) = some cs :=
  decode_encodeWith (by decide) cs

theorem ne_of_isEscapeChar {c d : Char} (h : IsEscapeChar c) (hpercent : d ≠ '%')
    (hdigit : ∀ n < 16, d ≠ digit n) : c ≠ d := by
  rintro rfl
  rcases h with h | ⟨n, hn, h⟩
  · exact hpercent h
  · exact hdigit n hn h

/-- Up to its spaces the form encoding is an encoding with plain characters. -/
theorem map_form (cs : List Char) :
    (form cs).map (fun c => if c = '+' then ' ' else c) =
      encodeWith (fun c => c = ' ' || isFormPlain c) cs := by
  have hescape (c : Char) : (escape c).map (fun c => if c = '+' then ' ' else c) = escape c := by
    refine (List.map_congr_left (fun d hd => ?_)).trans (List.map_id (escape c))
    exact if_neg (ne_of_isEscapeChar (isEscapeChar_of_mem hd) (by decide) (by decide))
  rw [form, List.map_flatMap, encodeWith]
  congr 1
  funext c
  by_cases hspace : c = ' '
  · simp [hspace]
  · by_cases hc : isFormPlain c = true
    · have hplus : c ≠ '+' := by
        rintro rfl
        revert hc
        decide
      simp [hspace, hc, hplus]
    · simp [hspace, hc, hescape]

theorem decodeForm_form (cs : List Char) : decodeForm (form cs) = some cs := by
  rw [decodeForm, map_form, decode_encodeWith (by decide)]

/-! ## Texts without escapes -/

/-- No percent sign begins an escape. -/
def IsUnescaped (cs : List Char) : Prop :=
  ∀ front a b rest, cs = front ++ '%' :: a :: b :: rest → digit? a = none ∨ digit? b = none

theorem IsUnescaped.part {cs ds : List Char} (h : IsUnescaped cs) (hpart : ds <:+: cs) :
    IsUnescaped ds := by
  obtain ⟨before, behind, rfl⟩ := hpart
  rintro front a b rest rfl
  exact h (before ++ front) a b (rest ++ behind) (by simp)

theorem isUnescaped_cons {c : Char} {cs : List Char} :
    IsUnescaped (c :: cs) ↔
      (c = '%' → ∀ a b rest, cs = a :: b :: rest → digit? a = none ∨ digit? b = none) ∧
        IsUnescaped cs := by
  constructor
  · intro h
    refine ⟨?_, h.part ⟨[c], [], by simp⟩⟩
    rintro rfl a b rest rfl
    exact h [] a b rest rfl
  · rintro ⟨hfirst, hrest⟩ front a b rest heq
    cases front with
    | nil =>
      obtain ⟨rfl, rfl⟩ := List.cons.inj heq
      exact hfirst rfl a b rest rfl
    | cons d front =>
      obtain ⟨-, rfl⟩ := List.cons.inj heq
      exact hrest front a b rest rfl

theorem isUnescaped_of_not_mem {cs : List Char} (h : '%' ∉ cs) : IsUnescaped cs := by
  rintro front a b rest rfl
  exact absurd (by simp) h

theorem isUnescaped_append {cs ds : List Char} (h : '%' ∉ cs) (hrest : IsUnescaped ds) :
    IsUnescaped (cs ++ ds) := by
  induction cs with
  | nil => exact hrest
  | cons c cs ih =>
    rw [List.mem_cons, not_or] at h
    exact isUnescaped_cons.mpr ⟨fun hc => absurd hc.symm h.1, ih h.2⟩

theorem bytes_percent {cs : List Char}
    (h : ∀ a b rest, cs = a :: b :: rest → digit? a = none ∨ digit? b = none) :
    bytes ('%' :: cs) = Utf8.encodeChar '%' ++ bytes cs := by
  match cs with
  | [] => rfl
  | [a] => rfl
  | a :: b :: rest =>
    rw [bytes]
    rcases h a b rest rfl with ha | hb
    · simp only [ha]
    · simp only [hb]
      cases digit? a <;> rfl

/-- An encoded text begins with an escape or with the first character of the text. -/
theorem encodeWith_eq_cons {plain : Char → Bool} {cs ds : List Char} {d : Char}
    (h : encodeWith plain cs = d :: ds) :
    d = '%' ∨ ∃ rest, cs = d :: rest ∧ ds = encodeWith plain rest := by
  unfold encodeWith at h
  cases cs with
  | nil => cases h
  | cons c cs =>
    rw [List.flatMap_cons] at h
    by_cases hc : plain c = true
    · rw [if_pos hc, List.singleton_append] at h
      obtain ⟨rfl, rfl⟩ := List.cons.inj h
      exact .inr ⟨cs, rfl, rfl⟩
    · rw [if_neg hc, escape] at h
      obtain ⟨b, bs, hbytes⟩ := List.exists_cons_of_ne_nil (Utf8.encodeChar_ne_nil c)
      rw [hbytes] at h
      exact .inl (List.cons.inj h).1.symm

/-- Percent signs that begin no escape need none themselves. -/
theorem bytes_encodeWith_of_isUnescaped (plain : Char → Bool) {cs : List Char}
    (h : IsUnescaped cs) : bytes (encodeWith plain cs) = Utf8.encode cs := by
  induction cs with
  | nil => rfl
  | cons c cs ih =>
    obtain ⟨hfirst, hrest⟩ := isUnescaped_cons.mp h
    have hcons : encodeWith plain (c :: cs) =
        (if plain c then [c] else escape c) ++ encodeWith plain cs := List.flatMap_cons ..
    rw [hcons, Utf8.encode_cons]
    by_cases hc : plain c = true
    · rw [if_pos hc, List.singleton_append]
      by_cases hpercent : c = '%'
      · subst hpercent
        rw [bytes_percent, ih hrest]
        intro a b rest heq
        have hmark : digit? '%' = none := by decide
        rcases encodeWith_eq_cons heq with rfl | ⟨as, rfl, heq'⟩
        · exact .inl hmark
        · rcases encodeWith_eq_cons heq'.symm with rfl | ⟨bs, rfl, -⟩
          · exact .inr hmark
          · exact hfirst rfl a b bs rfl
      · rw [bytes_cons_of_ne hpercent, ih hrest]
    · rw [if_neg hc, bytes_escape, ih hrest]

theorem decode_encodeWith_of_isUnescaped (plain : Char → Bool) {cs : List Char}
    (h : IsUnescaped cs) : decode (encodeWith plain cs) = some cs := by
  rw [decode, bytes_encodeWith_of_isUnescaped plain h, Utf8.decode_encode]
  rfl

theorem encodeWith_append (plain : Char → Bool) (cs ds : List Char) :
    encodeWith plain (cs ++ ds) = encodeWith plain cs ++ encodeWith plain ds := List.flatMap_append

/-- Plain marks between pieces stay where they are. -/
theorem encodeWith_intercalate {plain : Char → Bool} {mark : Char} (hmark : plain mark = true)
    (pieces : List (List Char)) :
    encodeWith plain ([mark].intercalate pieces) =
      [mark].intercalate (pieces.map (encodeWith plain)) := by
  have hsingle : encodeWith plain [mark] = [mark] := by simp [encodeWith, hmark]
  induction pieces with
  | nil => rfl
  | cons piece pieces ih =>
    cases pieces with
    | nil => simp
    | cons next pieces =>
      rw [List.intercalate_cons_cons, encodeWith_append, encodeWith_append, hsingle, ih]
      simp only [List.map_cons, List.intercalate_cons_cons]

/-! ## Characters -/

/-- What an encoded segment is made of. -/
def IsSegmentChar (c : Char) : Prop := isUnreserved c = true ∨ c = '%'

theorem isSegmentChar_of_isEscapeChar {c : Char} (h : IsEscapeChar c) : IsSegmentChar c := by
  have hdigit : ∀ n < 16, isUnreserved (digit n) = true := by decide
  rcases h with rfl | ⟨n, hn, rfl⟩
  · exact .inr rfl
  · exact .inl (hdigit n hn)

theorem isSegmentChar_of_mem {cs : List Char} {c : Char} (h : c ∈ segment cs) :
    IsSegmentChar c := by
  obtain ⟨d, -, hd⟩ := List.mem_flatMap.mp h
  by_cases hplain : isUnreserved d = true
  · rw [if_pos hplain, List.mem_singleton] at hd
    exact .inl (hd ▸ hplain)
  · rw [if_neg hplain] at hd
    exact isSegmentChar_of_isEscapeChar (isEscapeChar_of_mem hd)

theorem encodeWith_of_plain {plain : Char → Bool} {cs : List Char}
    (h : ∀ c ∈ cs, plain c = true) : encodeWith plain cs = cs := by
  unfold encodeWith
  induction cs with
  | nil => rfl
  | cons c cs ih =>
    obtain ⟨hc, hcs⟩ := List.forall_mem_cons.mp h
    rw [List.flatMap_cons, if_pos hc, ih hcs]
    rfl

theorem isAlphanum_lt {c : Char} (h : c.isAlphanum = true) : c.toNat < 128 := by
  have hlast : c.val ≤ 'Z'.val ∨ c.val ≤ 'z'.val ∨ c.val ≤ '9'.val := by
    rcases (Bool.or_eq_true _ _).mp h with halpha | hdigit
    · rcases (Bool.or_eq_true _ _).mp halpha with hupper | hlower
      · exact .inl (of_decide_eq_true hupper).2
      · exact .inr (.inl (of_decide_eq_true ((Bool.and_eq_true _ _).mp hlower).2))
    · exact .inr (.inr (of_decide_eq_true ((Bool.and_eq_true _ _).mp hdigit).2))
  rcases hlast with h | h | h
  all_goals exact Nat.lt_of_le_of_lt (UInt32.le_iff_toNat_le.mp h) (by decide)

theorem isUnreserved_lt {c : Char} (h : isUnreserved c = true) : c.toNat < 128 := by
  simp only [isUnreserved, Bool.or_eq_true, decide_eq_true_eq] at h
  rcases h with (((h | rfl) | rfl) | rfl) | rfl
  · exact isAlphanum_lt h
  all_goals decide

/-- A fact about the characters of segments is a fact about those of ASCII. -/
theorem IsSegmentChar.forall {P : Char → Prop}
    (hP : ∀ n < 128, isUnreserved (Char.ofNat n) = true → P (Char.ofNat n)) (hpercent : P '%')
    {c : Char} (h : IsSegmentChar c) : P c := by
  rcases h with h | rfl
  · have hc := hP c.toNat (isUnreserved_lt h)
    rw [Char.ofNat_toNat] at hc
    exact hc h
  · exact hpercent

end LuaStubs.Encoding.Percent
