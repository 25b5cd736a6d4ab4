import LuaStubs.Text.Affix
import Mathlib.Data.List.TakeWhile

/-! Cutting texts at marks, and putting the pieces together again. -/
namespace LuaStubs.Text

variable {p : Char → Bool}

/-- Whether all characters of a text are of a kind can be computed. -/
theorem forall_mem_of_all {q : Char → Prop} [DecidablePred q] {cs : List Char}
    (h : cs.all (fun c => decide (q c)) = true) : ∀ c ∈ cs, q c := by
  simpa using h

/-- What two texts have in common in front decides nothing. -/
theorem begins_append (s head t : String) : begins (s ++ head) (s ++ t) = begins head t := by
  rw [begins, begins, String.toList_append, String.toList_append]
  induction s.toList with
  | nil => rfl
  | cons c cs ih => simpa [List.isPrefixOf] using ih

/-! ## Pieces -/

theorem split_cons_of_mark {c : Char} (h : p c = true) (cs : List Char) :
    split p (c :: cs) = [] :: split p cs := by
  rw [split, if_pos h]

theorem split_cons_of_not_mark {c : Char} (h : p c = false) (cs : List Char) :
    ∃ piece pieces, split p cs = piece :: pieces ∧ split p (c :: cs) = (c :: piece) :: pieces := by
  obtain ⟨piece, pieces, hcs⟩ := List.exists_cons_of_ne_nil (split_ne_nil p cs)
  exact ⟨piece, pieces, hcs, by simp [split, h, hcs]⟩

theorem split_of_no_mark {cs : List Char} (h : ∀ c ∈ cs, p c = false) : split p cs = [cs] := by
  induction cs with
  | nil => rfl
  | cons c cs ih =>
    obtain ⟨hc, hcs⟩ := List.forall_mem_cons.mp h
    simp [split, hc, ih hcs]

theorem not_mark_of_mem_split {cs piece : List Char} (h : piece ∈ split p cs) :
    ∀ c ∈ piece, p c = false := by
  induction cs generalizing piece with
  | nil =>
    obtain rfl : piece = [] := by simpa [split] using h
    simp
  | cons c cs ih =>
    by_cases hc : p c = true
    · rw [split_cons_of_mark hc] at h
      rcases List.mem_cons.mp h with rfl | h
      · simp
      · exact ih h
    · have hc : p c = false := by simpa using hc
      obtain ⟨first, pieces, hcs, hsplit⟩ := split_cons_of_not_mark hc cs
      rw [hcs] at ih
      rw [hsplit] at h
      rcases List.mem_cons.mp h with rfl | h
      · exact List.forall_mem_cons.mpr ⟨hc, ih List.mem_cons_self⟩
      · exact ih (List.mem_cons_of_mem _ h)

theorem mem_of_mem_split {cs piece : List Char} {c : Char} (h : piece ∈ split p cs)
    (hc : c ∈ piece) : c ∈ cs := by
  induction cs generalizing piece with
  | nil =>
    obtain rfl : piece = [] := by simpa [split] using h
    cases hc
  | cons x cs ih =>
    by_cases hx : p x = true
    · rw [split_cons_of_mark hx] at h
      rcases List.mem_cons.mp h with rfl | h
      · cases hc
      · exact List.mem_cons_of_mem _ (ih h hc)
    · obtain ⟨first, pieces, hcs, hsplit⟩ := split_cons_of_not_mark (by simpa using hx) cs
      rw [hcs] at ih
      rw [hsplit] at h
      rcases List.mem_cons.mp h with rfl | h
      · rcases List.mem_cons.mp hc with rfl | hc
        · exact List.mem_cons_self
        · exact List.mem_cons_of_mem _ (ih List.mem_cons_self hc)
      · exact List.mem_cons_of_mem _ (ih (List.mem_cons_of_mem _ h) hc)

/-- There is one piece more than there are marks. -/
theorem length_split (cs : List Char) : (split p cs).length = cs.countP p + 1 := by
  induction cs with
  | nil => rfl
  | cons c cs ih =>
    by_cases hc : p c = true
    · rw [split_cons_of_mark hc, List.length_cons, ih, List.countP_cons_of_pos hc]
    · obtain ⟨piece, pieces, hcs, hsplit⟩ := split_cons_of_not_mark (by simpa using hc) cs
      rw [hsplit, List.countP_cons_of_neg hc, ← ih, hcs]
      rfl

/-- The pieces on both sides of a mark. -/
theorem split_append {c : Char} (h : p c = true) (cs ds : List Char) :
    split p (cs ++ c :: ds) = split p cs ++ split p ds := by
  induction cs with
  | nil => simp [split, h]
  | cons x cs ih =>
    by_cases hx : p x = true
    · rw [List.cons_append, split_cons_of_mark hx, split_cons_of_mark hx, ih, List.cons_append]
    · have hx : p x = false := by simpa using hx
      obtain ⟨piece, pieces, hcs, hsplit⟩ := split_cons_of_not_mark hx cs
      rw [List.cons_append, hsplit, split, if_neg (by simp [hx]), ih, hcs]
      rfl

/-- Pieces without marks are found again between the marks. -/
theorem split_intercalate {mark : Char} (hmark : p mark = true) {pieces : List (List Char)}
    (hne : pieces ≠ []) (h : ∀ piece ∈ pieces, ∀ c ∈ piece, p c = false) :
    split p ([mark].intercalate pieces) = pieces := by
  induction pieces with
  | nil => exact absurd rfl hne
  | cons piece rest ih =>
    obtain ⟨hpiece, hrest⟩ := List.forall_mem_cons.mp h
    by_cases hnil : rest = []
    · rw [hnil, List.intercalate_singleton]
      exact split_of_no_mark hpiece
    · rw [List.intercalate_cons_of_ne_nil hnil, List.append_assoc, List.singleton_append,
        split_append hmark, split_of_no_mark hpiece, ih hnil hrest]
      rfl

/-- A text is its pieces with the marks between them. -/
theorem intercalate_split {mark : Char} (h : ∀ c, p c = true ↔ c = mark) (cs : List Char) :
    [mark].intercalate (split p cs) = cs := by
  induction cs with
  | nil => rfl
  | cons c cs ih =>
    by_cases hc : p c = true
    · rw [split_cons_of_mark hc, List.intercalate_cons_of_ne_nil (split_ne_nil p cs), ih,
        (h c).mp hc]
      rfl
    · have hc : p c = false := by simpa using hc
      obtain ⟨piece, pieces, hcs, hsplit⟩ := split_cons_of_not_mark hc cs
      rw [hsplit, List.intercalate_cons_cons_left, ← hcs, ih]

theorem mem_of_mem_intercalate {mark c : Char} {pieces : List (List Char)}
    (h : c ∈ [mark].intercalate pieces) : c = mark ∨ ∃ piece ∈ pieces, c ∈ piece := by
  induction pieces with
  | nil => cases h
  | cons piece rest ih =>
    by_cases hnil : rest = []
    · rw [hnil, List.intercalate_singleton] at h
      exact .inr ⟨piece, List.mem_cons_self, h⟩
    · rw [List.intercalate_cons_of_ne_nil hnil, List.mem_append, List.mem_append] at h
      rcases h with (h | h) | h
      · exact .inr ⟨piece, List.mem_cons_self, h⟩
      · exact .inl (List.mem_singleton.mp h)
      · rcases ih h with h | ⟨next, hnext, h⟩
        · exact .inl h
        · exact .inr ⟨next, List.mem_cons_of_mem _ hnext, h⟩

/-- Each piece is a part of the whole. -/
theorem part_of_mem {mark : Char} {pieces : List (List Char)} {piece : List Char}
    (h : piece ∈ pieces) : piece <:+: [mark].intercalate pieces := by
  induction pieces with
  | nil => cases h
  | cons first rest ih =>
    by_cases hnil : rest = []
    · rw [hnil, List.mem_singleton] at h
      have hwhole : [mark].intercalate (first :: rest) = piece := by
        rw [h, hnil, List.intercalate_singleton]
      exact ⟨[], [], by rw [hwhole, List.nil_append, List.append_nil]⟩
    · rw [List.intercalate_cons_of_ne_nil hnil, List.append_assoc]
      rcases List.mem_cons.mp h with rfl | h
      · exact (List.prefix_append piece _).isInfix
      · have hrest : [mark].intercalate rest <:+ first ++ ([mark] ++ [mark].intercalate rest) :=
          (List.suffix_append _ _).trans (List.suffix_append _ _)
        exact (ih h).trans hrest.isInfix

theorem split_congr {q : Char → Bool} {cs : List Char} (h : ∀ c ∈ cs, p c = q c) :
    split p cs = split q cs := by
  induction cs with
  | nil => rfl
  | cons c cs ih =>
    obtain ⟨hc, hcs⟩ := List.forall_mem_cons.mp h
    rw [split, split, hc, ih hcs]

/-- Each piece behind a mark. -/
theorem flatMap_cons_eq {mark : Char} {pieces : List (List Char)} (hne : pieces ≠ []) :
    pieces.flatMap (fun piece => mark :: piece) = mark :: [mark].intercalate pieces := by
  induction pieces with
  | nil => exact absurd rfl hne
  | cons piece rest ih =>
    by_cases hnil : rest = []
    · rw [hnil, List.intercalate_singleton, List.flatMap_cons, List.flatMap_nil, List.append_nil]
    · rw [List.flatMap_cons, ih hnil, List.intercalate_cons_of_ne_nil hnil]
      simp

/-- Up to their first marks two texts are the same if they are the same throughout. -/
theorem append_cons_inj {mark : Char} {cs cs' ds ds' : List Char} (h : mark ∉ cs) (h' : mark ∉ cs') :
    cs ++ mark :: ds = cs' ++ mark :: ds' ↔ cs = cs' ∧ ds = ds' := by
  refine ⟨fun heq => ?_, fun ⟨hcs, hds⟩ => by rw [hcs, hds]⟩
  induction cs generalizing cs' with
  | nil =>
    cases cs' with
    | nil => exact ⟨rfl, (List.cons.inj heq).2⟩
    | cons c cs' => exact absurd (List.cons.inj heq).1 (fun hc => h' (hc ▸ List.mem_cons_self))
  | cons c cs ih =>
    cases cs' with
    | nil => exact absurd (List.cons.inj heq).1.symm (fun hc => h (hc ▸ List.mem_cons_self))
    | cons c' cs' =>
      rw [List.mem_cons, not_or] at h h'
      obtain ⟨rfl, hrest⟩ := List.cons.inj heq
      obtain ⟨rfl, rfl⟩ := ih h.2 h'.2 hrest
      exact ⟨rfl, rfl⟩

/-! ## Ends -/

theorem dropWhile_append_cons {c : Char} (h : p c = false) (cs ds : List Char) :
    (cs ++ c :: ds).dropWhile p = cs.dropWhile p ++ c :: ds := by
  rw [List.dropWhile_append]
  split
  · next hnil => simp [List.isEmpty_iff.mp hnil, h]
  · rfl

theorem takeWhile_append_cons {c : Char} (h : p c = false) (cs ds : List Char) :
    (cs ++ c :: ds).takeWhile p = cs.takeWhile p := by
  induction cs with
  | nil => simp [h]
  | cons x cs ih => by_cases hx : p x = true <;> simp [hx, ih]

/-- Nothing is cut off before a character that stays. -/
theorem mem_of_mem_dropEnd {cs : List Char} {c : Char} (h : c ∈ dropEnd p cs) : c ∈ cs :=
  List.mem_reverse.mp ((List.dropWhile_sublist _).mem (List.mem_reverse.mp h))

theorem dropEnd_append_cons {c : Char} (h : p c = false) (cs ds : List Char) :
    dropEnd p (cs ++ c :: ds) = cs ++ c :: dropEnd p ds := by
  have hreverse : (cs ++ c :: ds).reverse = ds.reverse ++ c :: cs.reverse := by simp
  rw [dropEnd, hreverse, dropWhile_append_cons h, List.reverse_append, List.reverse_cons,
    List.reverse_reverse, List.append_assoc]
  rfl

theorem dropEnd_of_getLast? {cs : List Char} (h : ∀ c, cs.getLast? = some c → p c = false) :
    dropEnd p cs = cs := by
  rcases List.eq_nil_or_concat cs with rfl | ⟨front, last, rfl⟩
  · rfl
  · have hlast : p last = false := h last (by simp)
    simp [dropEnd, hlast]

/-- An end in which a character is missing stands behind it. -/
theorem suffix_append_cons {c : Char} {tail : List Char} (h : c ∉ tail) (cs ds : List Char) :
    tail <:+ cs ++ c :: ds ↔ tail <:+ ds := by
  have hds : ds <:+ cs ++ c :: ds := ⟨cs ++ [c], by simp⟩
  constructor
  · intro htail
    rcases List.suffix_or_suffix_of_suffix htail hds with hshort | ⟨front, rfl⟩
    · exact hshort
    · rcases List.eq_nil_or_concat front with rfl | ⟨front, d, rfl⟩
      · exact List.suffix_refl ds
      · obtain ⟨more, hmore⟩ := htail
        have hend : more ++ front ++ [d] = cs ++ [c] := by
          have hwhole : more ++ front ++ [d] ++ ds = cs ++ [c] ++ ds := by simpa using hmore
          exact List.append_cancel_right hwhole
        obtain ⟨-, heq⟩ := List.append_inj' hend rfl
        exact absurd (by simp [List.singleton_inj.mp heq]) h
  · exact fun htail => htail.trans hds

end LuaStubs.Text
