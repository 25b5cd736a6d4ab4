import LuaStubs.Export
import LuaStubs.Proofs.Lua.Document

/-! Rendering fails on nothing but a parent that is missing, and it names the first one. -/
namespace LuaStubs

open Lua (classText document enumText)

/-! ## Missing parents -/

namespace Docs

variable {d : Docs}

/-- The first of the names that is no class's. -/
def FirstMissing (d : Docs) (names : List String) (name : String) : Prop :=
  ∃ found rest, names = found ++ name :: rest ∧ d.Resolves found ∧ name ∉ d.classes.map Class.name

theorem not_firstMissing_nil {name : String} : ¬ d.FirstMissing [] name := by
  rintro ⟨found, rest, h, -⟩
  simp at h

theorem firstMissing_cons {first name : String} {names : List String} :
    d.FirstMissing (first :: names) name ↔
      (first ∉ d.classes.map Class.name ∧ name = first) ∨
        (first ∈ d.classes.map Class.name ∧ d.FirstMissing names name) := by
  constructor
  · rintro ⟨found, rest, h, hfound, hname⟩
    cases found with
    | nil =>
      obtain ⟨rfl, -⟩ := List.cons.inj h
      exact .inl ⟨hname, rfl⟩
    | cons x found =>
      obtain ⟨rfl, rfl⟩ := List.cons.inj h
      obtain ⟨hfirst, hfound⟩ := List.forall_mem_cons.mp hfound
      exact .inr ⟨hfirst, found, rest, rfl, hfound, hname⟩
  · rintro (⟨hfirst, rfl⟩ | ⟨hfirst, found, rest, rfl, hfound, hname⟩)
    · exact ⟨[], names, rfl, by simp [Resolves], hfirst⟩
    · exact ⟨first :: found, rest, rfl, List.forall_mem_cons.mpr ⟨hfirst, hfound⟩, hname⟩

theorem class?_eq_none_iff {name : String} :
    d.class? name = none ↔ name ∉ d.classes.map Class.name := by
  rw [← exists_class?_iff]
  cases d.class? name <;> simp

theorem inheritedEvents_eq_error {owner : String} {parents : List String} {e : UnknownParent} :
    d.inheritedEvents owner parents = .error e ↔
      e.owner = owner ∧ d.FirstMissing parents e.parent := by
  induction parents with
  | nil => simp [inheritedEvents, not_firstMissing_nil]
  | cons parent rest ih =>
    rw [inheritedEvents, firstMissing_cons]
    cases hparent : d.class? parent with
    | none =>
      have hmissing := class?_eq_none_iff.mp hparent
      constructor
      · intro h
        cases h
        exact ⟨rfl, .inl ⟨hmissing, rfl⟩⟩
      · rintro ⟨rfl, ⟨-, rfl⟩ | ⟨hfound, -⟩⟩
        · rfl
        · exact absurd hfound hmissing
    | some c =>
      have hfound : parent ∈ d.classes.map Class.name := exists_class?_iff.mp ⟨c, hparent⟩
      constructor
      · intro h
        rcases bind_eq_error.mp h with hrest | ⟨events, -, h⟩
        · obtain ⟨howner, hmissing⟩ := ih.mp hrest
          exact ⟨howner, .inr ⟨hfound, hmissing⟩⟩
        · cases h
      · rintro ⟨howner, ⟨hmissing, -⟩ | ⟨-, hmissing⟩⟩
        · exact absurd hfound hmissing
        · exact bind_eq_error.mpr (.inl (ih.mpr ⟨howner, hmissing⟩))

theorem classText_eq_error {c : Class} {e : UnknownParent} :
    classText d c = .error e ↔ e.owner = c.name ∧ d.FirstMissing c.parents e.parent := by
  rw [classText, Lua.classBlock, map_eq_error, map_eq_error, eventsOf, map_eq_error,
    inheritedEvents_eq_error]

/-- The first class with a parent that is missing, and the first such parent of it. -/
def Lacks (d : Docs) (e : UnknownParent) : Prop :=
  ∃ before c behind, d.classes = before ++ c :: behind ∧ (∀ x ∈ before, d.Resolves x.parents) ∧
    e.owner = c.name ∧ d.FirstMissing c.parents e.parent

end Docs

/-! ## Files -/

namespace Lua

variable {d : Docs}

/-- A file can be rendered as soon as each class has a block. -/
theorem exists_document_iff :
    (∃ text, document d = .ok text) ↔ ∀ c ∈ d.classes, d.Resolves c.parents := by
  have hclasses : (∃ text, document d = .ok text) ↔
      ∃ blocks, d.classes.mapM (classText d) = .ok blocks := by
    rw [document]
    cases d.classes.mapM (classText d) <;> simp [bind, Except.bind, pure, Except.pure]
  rw [hclasses, exists_mapM_eq_ok]
  exact forall₂_congr (fun _ _ => Docs.exists_classText_iff)

theorem document_eq_error {e : UnknownParent} : document d = .error e ↔ d.Lacks e := by
  have hclasses : document d = .error e ↔ d.classes.mapM (classText d) = .error e := by
    rw [document]
    cases d.classes.mapM (classText d) <;> simp [bind, Except.bind, pure, Except.pure]
  rw [hclasses, mapM_eq_error]
  simp only [Docs.exists_classText_iff, Docs.classText_eq_error]
  rfl

/-- Enums are looked at for their own blocks only. -/
theorem classText_without_enums (d : Docs) (c : Class) :
    classText { d with enums := [] } c = classText d c := by
  have hsame : ∀ name, Docs.class? { d with enums := [] } name = d.class? name := fun _ => rfl
  exact Docs.classText_congr hsame c

/-- The blocks of the enums stand behind a file without them. -/
theorem document_eq_map (d : Docs) :
    document d = (document { d with enums := [] }).map
      (fun front => front ++ String.join (d.enums.map enumText)) := by
  have hclasses : d.classes.mapM (classText { d with enums := [] }) =
      d.classes.mapM (classText d) := by
    rw [funext (classText_without_enums d)]
  rw [document, document, hclasses]
  cases d.classes.mapM (classText d) with
  | error e => rfl
  | ok blocks =>
    refine congrArg Except.ok ?_
    simp

/-- Rendering as Lua succeeds exactly if every parent is a class, wherever it stands.  It fails for the
first class with a parent that is missing, and says so of the first such parent.  A file is the meta
line, the blocks of the classes and those of the enums; without its enums it is the front of it.
Rendering as JSON never fails. -/
theorem render_iff_resolves (d : Docs) :
    ((∃ text, Format.lua.render d = .ok text) ↔ ∀ c ∈ d.classes, d.Resolves c.parents) ∧
    (∀ e, Format.lua.render d = .error e ↔ d.Lacks e) ∧
    (∀ text, Format.lua.render d = .ok text ↔ ∃ blocks,
      List.Forall₂ (fun c block => classText d c = .ok block) d.classes blocks ∧
        text = "---@meta" ++ String.join blocks ++ String.join (d.enums.map enumText)) ∧
    Format.lua.render d = (Format.lua.render { d with enums := [] }).map
      (fun front => front ++ String.join (d.enums.map enumText)) ∧
    ∃ text, Format.json.render d = .ok text := by
  refine ⟨exists_document_iff, fun _ => document_eq_error, fun text => ?_, document_eq_map d,
    d.jsonText, rfl⟩
  refine document_eq_ok.trans (exists_congr (fun blocks => ?_))
  exact ⟨fun h => ⟨h.each, h.whole⟩, fun h => ⟨h.1, h.2⟩⟩

end Lua

end LuaStubs
