import LuaStubs.Proofs.Json.Text
import LuaStubs.Proofs.Json.Numeral

/-! The two printers of JSON differ in their gaps only: both write the tokens of a value in the same
order, and what they write spells the value. -/
namespace LuaStubs.Json

/-- A property of values holds if it passes from the parts of arrays and objects to the whole. -/
theorem induction {motive : Json → Prop} (null : motive .null) (bool : ∀ b, motive (.bool b))
    (number : ∀ n, motive (.number n)) (string : ∀ s, motive (.string s))
    (array : ∀ items, (∀ j ∈ items, motive j) → motive (.array items))
    (object : ∀ members, (∀ m ∈ members, motive m.2) → motive (.object members)) (j : Json) :
    motive j :=
  @Json.rec motive (fun items => ∀ j ∈ items, motive j) (fun members => ∀ m ∈ members, motive m.2)
    (fun m => motive m.2) null bool number string array object (by simp)
    (fun _ _ hj hitems => List.forall_mem_cons.mpr ⟨hj, hitems⟩) (by simp)
    (fun _ _ hm hmembers => List.forall_mem_cons.mpr ⟨hm, hmembers⟩) (fun _ _ hj => hj) j

/-- What stands before each entry at some depth, and behind each colon. -/
structure Layout where
  gap : Nat → List Char
  space : List Char

namespace Layout

def compact : Layout := ⟨fun _ => [], []⟩

def pretty : Layout := ⟨newline, [' ']⟩

mutual

def chars (l : Layout) (depth : Nat) : Json → List Char
  | .array [] => ['[', ']']
  | .array items => '[' :: l.gap (depth + 1) ++ itemChars l (depth + 1) items ++ l.gap depth ++ [']']
  | .object [] => ['\x7b', '\x7d']
  | .object members =>
    '\x7b' :: l.gap (depth + 1) ++ memberChars l (depth + 1) members ++ l.gap depth ++ ['\x7d']
  | .null => scalarText .null
  | .bool b => scalarText (.bool b)
  | .number n => scalarText (.number n)
  | .string s => scalarText (.string s)

def itemChars (l : Layout) (depth : Nat) : List Json → List Char
  | [] => []
  | [j] => chars l depth j
  | j :: rest => chars l depth j ++ ',' :: l.gap depth ++ itemChars l depth rest

def memberChars (l : Layout) (depth : Nat) : List (String × Json) → List Char
  | [] => []
  | [(k, j)] => quoted k ++ ':' :: l.space ++ chars l depth j
  | (k, j) :: rest =>
    quoted k ++ ':' :: l.space ++ chars l depth j ++ ',' :: l.gap depth ++ memberChars l depth rest

end

theorem chars_array (l : Layout) (depth : Nat) {items : List Json} (h : items ≠ []) :
    chars l depth (.array items) =
      '[' :: (l.gap (depth + 1) ++ (itemChars l (depth + 1) items ++ (l.gap depth ++ [']']))) := by
  rw [chars]
  · simp
  · exact h

theorem chars_object (l : Layout) (depth : Nat) {members : List (String × Json)}
    (h : members ≠ []) :
    chars l depth (.object members) =
      '\x7b' :: (l.gap (depth + 1) ++ (memberChars l (depth + 1) members ++
        (l.gap depth ++ ['\x7d']))) := by
  rw [chars]
  · simp
  · exact h

theorem itemChars_cons (l : Layout) (depth : Nat) (j : Json) {rest : List Json} (h : rest ≠ []) :
    itemChars l depth (j :: rest) =
      chars l depth j ++ ',' :: l.gap depth ++ itemChars l depth rest := by
  cases rest with
  | nil => exact absurd rfl h
  | cons j' rest => rw [itemChars]; simp

theorem memberChars_cons (l : Layout) (depth : Nat) (k : String) (j : Json)
    {rest : List (String × Json)} (h : rest ≠ []) :
    memberChars l depth ((k, j) :: rest) =
      quoted k ++ ':' :: l.space ++ chars l depth j ++
        ',' :: l.gap depth ++ memberChars l depth rest := by
  cases rest with
  | nil => exact absurd rfl h
  | cons m rest => rw [memberChars]; simp

/-! ## The printers -/

theorem compactItems_eq (depth : Nat) (items : List Json)
    (h : ∀ j ∈ items, j.compactChars = chars compact depth j) :
    compactItems items = itemChars compact depth items := by
  induction items with
  | nil => rfl
  | cons j rest ih =>
    have hj := h j List.mem_cons_self
    cases rest with
    | nil => rw [compactItems, itemChars, hj]
    | cons j' rest =>
      have hrest := ih (fun i hi => h i (List.mem_cons_of_mem _ hi))
      rw [compactItems, itemChars_cons _ _ _ (by simp), hj, hrest]
      · simp [compact]
      · simp

theorem compactMembers_eq (depth : Nat) (members : List (String × Json))
    (h : ∀ m ∈ members, m.2.compactChars = chars compact depth m.2) :
    compactMembers members = memberChars compact depth members := by
  induction members with
  | nil => rfl
  | cons m rest ih =>
    obtain ⟨k, j⟩ := m
    have hj : j.compactChars = chars compact depth j := h (k, j) List.mem_cons_self
    cases rest with
    | nil =>
      rw [compactMembers, memberChars, hj]
      simp [compact]
    | cons m rest =>
      have hrest := ih (fun i hi => h i (List.mem_cons_of_mem _ hi))
      rw [compactMembers, memberChars_cons _ _ _ _ (by simp), hj, hrest]
      · simp [compact]
      · simp

theorem compactChars_eq (depth : Nat) (j : Json) : j.compactChars = chars compact depth j := by
  induction j using Json.induction generalizing depth with
  | null => rfl
  | bool b => rfl
  | number n => rfl
  | string s => rfl
  | array items ih =>
    cases items with
    | nil => rfl
    | cons j rest =>
      have hitems := compactItems_eq (depth + 1) (j :: rest) (fun i hi => ih i hi (depth + 1))
      rw [compactChars, hitems, chars]
      · simp [compact]
      · simp
  | object members ih =>
    cases members with
    | nil => rfl
    | cons m rest =>
      have hmembers := compactMembers_eq (depth + 1) (m :: rest) (fun i hi => ih i hi (depth + 1))
      rw [compactChars, hmembers, chars]
      · simp [compact]
      · simp

theorem prettyItems_eq (depth : Nat) (items : List Json) (hne : items ≠ [])
    (h : ∀ j ∈ items, prettyChars depth j = chars pretty depth j) :
    prettyItems depth items = newline depth ++ itemChars pretty depth items := by
  induction items with
  | nil => exact absurd rfl hne
  | cons j rest ih =>
    have hj := h j List.mem_cons_self
    cases rest with
    | nil => rw [prettyItems, itemChars, hj]
    | cons j' rest =>
      have hrest := ih (by simp) (fun i hi => h i (List.mem_cons_of_mem _ hi))
      rw [prettyItems, itemChars_cons _ _ _ (by simp), hj, hrest]
      · simp [pretty]
      · simp

theorem prettyMembers_eq (depth : Nat) (members : List (String × Json)) (hne : members ≠ [])
    (h : ∀ m ∈ members, prettyChars depth m.2 = chars pretty depth m.2) :
    prettyMembers depth members = newline depth ++ memberChars pretty depth members := by
  induction members with
  | nil => exact absurd rfl hne
  | cons m rest ih =>
    obtain ⟨k, j⟩ := m
    have hj : prettyChars depth j = chars pretty depth j := h (k, j) List.mem_cons_self
    cases rest with
    | nil =>
      rw [prettyMembers, memberChars, hj]
      simp [pretty]
    | cons m rest =>
      have hrest := ih (by simp) (fun i hi => h i (List.mem_cons_of_mem _ hi))
      rw [prettyMembers, memberChars_cons _ _ _ _ (by simp), hj, hrest]
      · simp [pretty]
      · simp

theorem prettyChars_eq (depth : Nat) (j : Json) : prettyChars depth j = chars pretty depth j := by
  induction j using Json.induction generalizing depth with
  | null => rfl
  | bool b => rfl
  | number n => rfl
  | string s => rfl
  | array items ih =>
    cases items with
    | nil => rfl
    | cons j rest =>
      have hitems := prettyItems_eq (depth + 1) (j :: rest) (by simp)
        (fun i hi => ih i hi (depth + 1))
      rw [prettyChars, hitems, chars]
      · simp [pretty]
      · simp
      · simp
  | object members ih =>
    cases members with
    | nil => rfl
    | cons m rest =>
      have hmembers := prettyMembers_eq (depth + 1) (m :: rest) (by simp)
        (fun i hi => ih i hi (depth + 1))
      rw [prettyChars, hmembers, chars]
      · simp [pretty]
      · simp
      · simp

end Layout

/-! ## Spelling -/

/-- Nested at most so deep, with numbers that are integers of at most 64 bits. -/
inductive Legible : Nat → Json → Prop
  | null (n : Nat) : Legible n .null
  | bool (n : Nat) (b : Bool) : Legible n (.bool b)
  | integer (n : Nat) {i : Int} (hi : Numeral.Fits i) : Legible n (.number (.integer i))
  | string (n : Nat) (s : String) : Legible n (.string s)
  | array {n : Nat} {items : List Json} (h : ∀ j ∈ items, Legible n j) : Legible (n + 1) (.array items)
  | object {n : Nat} {members : List (String × Json)} (h : ∀ m ∈ members, Legible n m.2) :
    Legible (n + 1) (.object members)

namespace Layout

/-- A layout whose gaps are blank. -/
structure Plain (l : Layout) : Prop where
  gap : ∀ depth, Blank (l.gap depth)
  space : Blank l.space

theorem plain_compact : compact.Plain := by
  constructor
  · intro depth c hc
    cases hc
  · intro c hc
    cases hc

theorem plain_pretty : pretty.Plain := by
  constructor
  · intro depth c hc
    rcases List.mem_cons.mp hc with rfl | hc
    · decide
    · rw [List.eq_of_mem_replicate hc]
      decide
  · intro c hc
    rw [List.mem_singleton.mp hc]
    decide

variable {l : Layout} (hl : l.Plain) {n : Nat}
include hl

theorem Plain.exists_padded (depth : Nat) {blanks : List Char} (hblank : Blank blanks)
    {items : List Json} (hne : items ≠ []) (h : ∀ j ∈ items, Spells n (l.chars depth j) j) :
    ∃ ps : List Padded, (∀ p ∈ ps, p.IsPadded) ∧ (∀ p ∈ ps, Spells n p.body p.value) ∧
      ps.map Padded.value = items ∧ [','].intercalate (ps.map Padded.chars) =
        l.gap depth ++ (l.itemChars depth items ++ blanks) := by
  induction items with
  | nil => exact absurd rfl hne
  | cons j rest ih =>
    have hj := h j List.mem_cons_self
    have hgap := hl.gap depth
    by_cases hrest : rest = []
    · subst hrest
      refine ⟨[⟨l.gap depth, l.chars depth j, blanks, j⟩], ?_, ?_, rfl, ?_⟩
      · simp [Padded.IsPadded, hgap, hblank]
      · simpa using hj
      · simp [Padded.chars, itemChars]
    · obtain ⟨ps, hpad, hspells, rfl, hchars⟩ :=
        ih hrest (fun i hi => h i (List.mem_cons_of_mem _ hi))
      have hps : ps.map Padded.chars ≠ [] := by simpa using hrest
      refine ⟨⟨l.gap depth, l.chars depth j, [], j⟩ :: ps, ?_, ?_, rfl, ?_⟩
      · exact List.forall_mem_cons.mpr ⟨⟨hgap, blank_nil⟩, hpad⟩
      · exact List.forall_mem_cons.mpr ⟨hj, hspells⟩
      · rw [List.map_cons, List.intercalate_cons_of_ne_nil hps, hchars, itemChars_cons _ _ _ hrest]
        simp [Padded.chars]

theorem Plain.exists_labelled (depth : Nat) {blanks : List Char} (hblank : Blank blanks)
    {members : List (String × Json)} (hne : members ≠ [])
    (h : ∀ m ∈ members, Spells n (l.chars depth m.2) m.2) :
    ∃ ls : List Labelled, (∀ m ∈ ls, m.IsLabelled) ∧
      (∀ m ∈ ls, Spells n m.item.body m.item.value) ∧
      ls.map Labelled.member = members ∧ [','].intercalate (ls.map Labelled.chars) =
        l.gap depth ++ (l.memberChars depth members ++ blanks) := by
  induction members with
  | nil => exact absurd rfl hne
  | cons m rest ih =>
    obtain ⟨k, j⟩ := m
    have hj : Spells n (l.chars depth j) j := h (k, j) List.mem_cons_self
    have hgap := hl.gap depth
    have hname := Text.spells_escape k.toList
    by_cases hrest : rest = []
    · subst hrest
      refine ⟨[⟨l.gap depth, k.toList.flatMap escape, k, [],
        ⟨l.space, l.chars depth j, blanks, j⟩⟩], ?_, ?_, rfl, ?_⟩
      · exact List.forall_mem_singleton.mpr ⟨hgap, blank_nil, hname, hl.space, hblank⟩
      · simpa using hj
      · simp [Labelled.chars, Labelled.body, Padded.chars, memberChars, quoted]
    · obtain ⟨ls, hlabel, hspells, rfl, hchars⟩ :=
        ih hrest (fun i hi => h i (List.mem_cons_of_mem _ hi))
      have hls : ls.map Labelled.chars ≠ [] := by simpa using hrest
      refine ⟨⟨l.gap depth, k.toList.flatMap escape, k, [],
        ⟨l.space, l.chars depth j, [], j⟩⟩ :: ls, ?_, ?_, rfl, ?_⟩
      · exact List.forall_mem_cons.mpr ⟨⟨hgap, blank_nil, hname, hl.space, blank_nil⟩, hlabel⟩
      · exact List.forall_mem_cons.mpr ⟨hj, hspells⟩
      · rw [List.map_cons, List.intercalate_cons_of_ne_nil hls, hchars,
          memberChars_cons _ _ _ _ hrest]
        simp [Labelled.chars, Labelled.body, Padded.chars, quoted]

/-- What is legible is spelled by every layout with blank gaps. -/
theorem Plain.spells {j : Json} (h : Legible n j) (depth : Nat) : Spells n (l.chars depth j) j := by
  induction h generalizing depth with
  | null n => exact .null n
  | bool n b =>
    cases b with
    | true => exact .yes n
    | false => exact .no n
  | @integer n i hi =>
    obtain ⟨t, ht, hv⟩ := Numeral.spells_toString hi
    exact .number n ht hv
  | string n s => exact .string n (Text.spells_escape s.toList)
  | @array n items _ ih =>
    by_cases hne : items = []
    · subst hne
      exact .noItems n blank_nil
    · obtain ⟨ps, hpad, hspells, hitems, hchars⟩ :=
        hl.exists_padded (depth + 1) (hl.gap depth) hne (fun j hj => ih j hj (depth + 1))
      have hps : ps ≠ [] := by
        rintro rfl
        exact hne hitems.symm
      have h := Spells.items hps hpad hspells
      rw [hitems, hchars] at h
      rw [chars_array _ _ hne]
      simpa using h
  | @object n members _ ih =>
    by_cases hne : members = []
    · subst hne
      exact .noMembers n blank_nil
    · obtain ⟨ls, hlabel, hspells, hmembers, hchars⟩ :=
        hl.exists_labelled (depth + 1) (hl.gap depth) hne (fun m hm => ih m hm (depth + 1))
      have hls : ls ≠ [] := by
        rintro rfl
        exact hne hmembers.symm
      have h := Spells.members hls hlabel hspells
      rw [hmembers, hchars] at h
      rw [chars_object _ _ hne]
      simpa using h

end Layout

/-! ## Without blanks -/

/-- A member with no blank in it. -/
def Labelled.plain (name : String) (body : List Char) (j : Json) : Labelled :=
  ⟨[], name.toList.flatMap escape, name, [], ⟨[], body, [], j⟩⟩

theorem Labelled.isLabelled_plain (name : String) (body : List Char) (j : Json) :
    (plain name body j).IsLabelled :=
  ⟨blank_nil, blank_nil, Text.spells_escape name.toList, blank_nil, blank_nil⟩

end LuaStubs.Json
