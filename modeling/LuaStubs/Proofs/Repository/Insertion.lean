import LuaStubs.Proofs.Repository.Collection

/-! What a table of classes keeps of the insertions it has been through, and what they answer. -/
namespace LuaStubs

namespace Docs

/-- One more insertion into a table, and its answer behind the earlier ones. -/
def insertNext (s : Docs × List Bool) (c : Class) : Docs × List Bool :=
  let (d, replaced) := s.1.insertClass c
  (d, s.2 ++ [replaced])

/-- The table after these insertions into an empty one, and their answers. -/
def insertAll (history : List Class) : Docs × List Bool := history.foldl insertNext (.empty, [])

theorem insertNext_eq (s : Docs × List Bool) (c : Class) :
    insertNext s c = ({ s.1 with classes := Keyed.put Class.name c s.1.classes },
      s.2 ++ [Keyed.contains Class.name c.name s.1.classes]) := by
  rw [insertNext, insertClass_eq]

theorem insertAll_concat (history : List Class) (c : Class) :
    insertAll (history ++ [c]) = insertNext (insertAll history) c := by
  rw [insertAll, List.foldl_append]
  rfl

/-! ## The invariant -/

/-- The names are those that were inserted, in the order of first mention and without repetition; each
leads to the last class of that name.  An insertion answers whether there was one of its name before,
and each either adds a class or answers so. -/
structure Records (history : List Class) (s : Docs × List Bool) : Prop where
  names : s.1.classes.map Class.name = (history.map Class.name).eraseDups
  distinct : (s.1.classes.map Class.name).Nodup
  latest : ∀ name, s.1.class? name = (history.filter (fun c => c.name = name)).getLast?
  answers : ∀ i : Nat, s.2[i]? =
    history[i]?.map (fun c => decide (c.name ∈ (history.take i).map Class.name))
  count : history.length = s.1.classes.length + s.2.count true

namespace Records

variable {history : List Class} {s : Docs × List Bool}

theorem empty : Records [] (.empty, []) :=
  ⟨rfl, List.nodup_nil, fun _ => rfl, fun _ => rfl, rfl⟩

theorem contains (h : Records history s) (name : String) :
    Keyed.contains Class.name name s.1.classes = decide (name ∈ history.map Class.name) := by
  rw [Bool.eq_iff_iff, Keyed.contains_iff, h.names, List.mem_eraseDups, decide_eq_true_iff]

theorem length_answers (h : Records history s) : s.2.length = history.length := by
  have hfront := h.answers history.length
  have hback := h.answers s.2.length
  rw [List.getElem?_eq_none (Nat.le_refl history.length)] at hfront
  rw [List.getElem?_eq_none (Nat.le_refl s.2.length), eq_comm, Option.map_eq_none_iff] at hback
  exact Nat.le_antisymm (List.getElem?_eq_none_iff.mp hfront) (List.getElem?_eq_none_iff.mp hback)

theorem names_next (h : Records history s) (c : Class) :
    (insertNext s c).1.classes.map Class.name = ((history ++ [c]).map Class.name).eraseDups := by
  rw [insertNext_eq, Keyed.map_put, h.names, List.map_append, List.map_singleton,
    Keyed.eraseDups_concat]
  simp only [List.mem_eraseDups]

theorem latest_next (h : Records history s) (c : Class) (name : String) :
    (insertNext s c).1.class? name =
      ((history ++ [c]).filter (fun x => x.name = name)).getLast? := by
  rw [insertNext_eq, List.filter_append]
  by_cases hname : c.name = name
  · rw [List.filter_cons_of_pos (by simpa using hname), List.filter_nil, List.getLast?_concat,
      ← hname]
    exact Keyed.get?_put_self Class.name c s.1.classes
  · rw [List.filter_cons_of_neg (by simpa using hname), List.filter_nil, List.append_nil, ← h.latest]
    exact Keyed.get?_put_of_ne Class.name c s.1.classes (Ne.symm hname)

theorem answers_next (h : Records history s) (c : Class) (i : Nat) :
    (insertNext s c).2[i]? = (history ++ [c])[i]?.map
      (fun x => decide (x.name ∈ ((history ++ [c]).take i).map Class.name)) := by
  rw [insertNext_eq, List.getElem?_append, List.getElem?_append, h.length_answers]
  rcases Nat.lt_trichotomy i history.length with hi | rfl | hi
  · rw [if_pos hi, if_pos hi, h.answers, List.take_append_of_le_length (Nat.le_of_lt hi)]
  · simp [h.contains]
  · obtain ⟨k, hk⟩ : ∃ k, i - history.length = k + 1 := ⟨i - history.length - 1, by omega⟩
    rw [if_neg (by omega), if_neg (by omega), hk]
    rfl

theorem count_next (h : Records history s) (c : Class) :
    (history ++ [c]).length =
      (insertNext s c).1.classes.length + (insertNext s c).2.count true := by
  have hcount := h.count
  rw [insertNext_eq, Keyed.length_put, List.length_append, List.count_append]
  cases Keyed.contains Class.name c.name s.1.classes <;> simp <;> omega

/-- What an insertion leaves of the invariant is all of it. -/
theorem next (h : Records history s) (c : Class) :
    Records (history ++ [c]) (insertNext s c) where
  names := h.names_next c
  distinct := by
    rw [insertNext_eq]
    exact Keyed.nodup_map_put Class.name c h.distinct
  latest := h.latest_next c
  answers := h.answers_next c
  count := h.count_next c

/-- A name leads nowhere only if no class of that name was inserted. -/
theorem class?_eq_none (h : Records history s) (name : String) :
    s.1.class? name = none ↔ name ∉ history.map Class.name := by
  rw [h.latest, List.getLast?_eq_none_iff, List.filter_eq_nil_iff]
  simp

end Records

theorem records_insertAll (history : List Class) : Records history (insertAll history) := by
  induction history using List.reverseRecOn with
  | nil => exact .empty
  | append_singleton history c ih =>
    rw [insertAll_concat]
    exact ih.next c

end Docs

namespace Repository

open Docs (insertNext insertNext_eq insertAll insertAll_concat insertClass_eq insert_eq Records
  records_insertAll)

/-! ## Reports -/

/-- Says that a class has taken the place of another. -/
def saysReplaced (e : Log.Event) : Bool :=
  e.level = .warn && e.message = "duplicate class name, later descriptor wins"

theorem countP_add_enums (d : Docs) (path : String) (table : List Enum) :
    (add d path (.enums table)).1.countP saysReplaced = 0 := by
  rw [add]
  split <;> rfl

theorem countP_add_class (d : Docs) (path : String) (c : Class) :
    (add d path (.class c)).1.countP saysReplaced = [(d.insertClass c).2].count true := by
  rw [add_class]
  cases (d.insertClass c).2 <;> rfl

/-- Putting descriptors together is inserting their classes, and each that replaces one is reported. -/
theorem assemble_eq_foldl {d : Docs} {s : Docs × List Bool} (h : d.classes = s.1.classes)
    (ds : List (String × Descriptor)) :
    (assemble d ds).2.classes =
        (((ds.map Prod.snd).filterMap Descriptor.class?).foldl insertNext s).1.classes ∧
      s.2.count true + (assemble d ds).1.countP saysReplaced =
        (((ds.map Prod.snd).filterMap Descriptor.class?).foldl insertNext s).2.count true := by
  induction ds generalizing d s with
  | nil => exact ⟨h, rfl⟩
  | cons x rest ih =>
    obtain ⟨path, descriptor⟩ := x
    rw [assemble_cons, List.countP_append]
    cases descriptor with
    | enums table =>
      rw [countP_add_enums, Nat.zero_add]
      exact ih h
    | «class» c =>
      have hnext : (add d path (.class c)).2.classes = (insertNext s c).1.classes := by
        rw [add_class, insert_eq, insertNext_eq, h]
      have hanswer : (insertNext s c).2 = s.2 ++ [(d.insertClass c).2] := by
        rw [insertNext_eq, insertClass_eq, h]
      obtain ⟨hclasses, hcount⟩ := ih hnext
      refine ⟨hclasses, ?_⟩
      rw [countP_add_class, ← Nat.add_assoc, ← List.count_append, ← hanswer]
      exact hcount

/-- After any insertions the table records them, it has a class for the inserted names and no others,
and one more insertion leaves every class of another name as it is and where it is.  Descriptors are
put together by such insertions, and each class that is replaced is reported once. -/
theorem insertAll_invariant (history : List Class) :
    Records history (insertAll history) ∧
    (∀ name, (insertAll history).1.class? name = none ↔ name ∉ history.map Class.name) ∧
    (∀ (c x : Class) (i : Nat), x.name ≠ c.name →
      ((insertAll (history ++ [c])).1.classes[i]? = some x ↔
        (insertAll history).1.classes[i]? = some x)) ∧
    ∀ ds : List (String × Descriptor), (ds.map Prod.snd).filterMap Descriptor.class? = history →
      (assemble .empty ds).2.classes = (insertAll history).1.classes ∧
        (assemble .empty ds).1.countP saysReplaced = (insertAll history).2.count true := by
  have hrecords := records_insertAll history
  refine ⟨hrecords, hrecords.class?_eq_none, fun c x i hne => ?_, ?_⟩
  · rw [insertAll_concat, insertNext_eq]
    exact Keyed.getElem?_put_of_ne Class.name hne (insertAll history).1.classes i
  · rintro ds rfl
    obtain ⟨hclasses, hcount⟩ := assemble_eq_foldl (s := (.empty, [])) (d := .empty) rfl ds
    refine ⟨hclasses, ?_⟩
    rwa [List.count_nil, Nat.zero_add] at hcount

/-- A class without anything but a name. -/
def named (name : String) (isStatic : Bool) : Class :=
  ⟨name, .both, none, none, none, none, none, none, isStatic, ⟨none, none⟩⟩

/-- The first name comes again, from a folder of static classes. -/
def sampleHistory : List Class := [named "A" false, named "B" false, named "A" true]

def sampleDescriptors : List (String × Descriptor) :=
  [("Classes/A.json", .class (named "A" false)), ("Classes/B.json", .class (named "B" false)),
    ("Enums.json", .enums []), ("StaticClasses/A.json", .class (named "A" true))]

theorem insertAll_invariant_sample :
    ((insertAll sampleHistory).1.class? "A" = some (named "A" true) ∧
      (insertAll sampleHistory).2[2]? = some true) ∧
    ((named "B" false).name ≠ (named "A" false).name ∧
      (insertAll (sampleHistory ++ [named "A" false])).1.classes[1]? = some (named "B" false)) ∧
    (sampleDescriptors.map Prod.snd).filterMap Descriptor.class? = sampleHistory ∧
      (assemble .empty sampleDescriptors).1.countP saysReplaced =
        (insertAll sampleHistory).2.count true := by
  obtain ⟨hrecords, -, hframe, hreports⟩ := insertAll_invariant sampleHistory
  have hne : (named "B" false).name ≠ (named "A" false).name := by decide
  have hsecond : (insertAll sampleHistory).1.classes[1]? = some (named "B" false) := by decide
  exact ⟨⟨hrecords.latest "A", hrecords.answers 2⟩,
    ⟨hne, (hframe _ _ 1 hne).mpr hsecond⟩, rfl, (hreports sampleDescriptors rfl).2⟩

end Repository

end LuaStubs
