import LuaStubs.Lua.Document
import LuaStubs.Proofs.Keyed
import LuaStubs.Proofs.Results
import Mathlib.Data.List.Perm.Basic

/-! A rendered file is made of one block for each class and each enum, and the block of a class depends
on no other classes than its parents. -/
namespace LuaStubs

open Lua (classText)

/-! ## Parents -/

namespace Docs

variable {d d' : Docs}

/-- Of a parent only its own events matter: what is changed in them is changed in what a child inherits. -/
theorem inheritedEvents_map (f : Event → Event) {parents : List String}
    (h : ∀ name ∈ parents, (d.class? name).map Class.ownEvents =
      (d'.class? name).map (fun c => c.ownEvents.map f)) (owner : String) :
    d.inheritedEvents owner parents = (d'.inheritedEvents owner parents).map (List.map f) := by
  induction parents with
  | nil => rfl
  | cons parent rest ih =>
    obtain ⟨hparent, hrest⟩ := List.forall_mem_cons.mp h
    rw [inheritedEvents, inheritedEvents, ih hrest]
    cases hc' : d'.class? parent with
    | none =>
      rw [hc', Option.map_none, Option.map_eq_none_iff] at hparent
      rw [hparent]
      rfl
    | some c' =>
      rw [hc', Option.map_some, Option.map_eq_some_iff] at hparent
      obtain ⟨c, hc, hown⟩ := hparent
      rw [hc]
      cases d'.inheritedEvents owner rest with
      | error e => rfl
      | ok events =>
        refine congrArg Except.ok ?_
        rw [hown, List.map_append]

/-- Parents are looked up by name, and asked for nothing but their own events. -/
theorem inheritedEvents_congr {parents : List String}
    (h : ∀ name ∈ parents, (d.class? name).map Class.ownEvents =
      (d'.class? name).map Class.ownEvents) (owner : String) :
    d.inheritedEvents owner parents = d'.inheritedEvents owner parents := by
  have hmap : d.inheritedEvents owner parents =
      (d'.inheritedEvents owner parents).map (List.map id) :=
    inheritedEvents_map id (by simpa using h) owner
  rw [hmap]
  cases d'.inheritedEvents owner parents <;> simp [Except.map]

theorem classText_congr_of_parents {c : Class}
    (h : ∀ name ∈ c.parents, (d.class? name).map Class.ownEvents =
      (d'.class? name).map Class.ownEvents) : classText d c = classText d' c := by
  have hevents : d.eventsOf c = d'.eventsOf c := by
    rw [eventsOf, eventsOf, inheritedEvents_congr h]
  rw [classText, classText, Lua.classBlock, Lua.classBlock, hevents]

theorem classText_congr (h : ∀ name, d.class? name = d'.class? name) (c : Class) :
    classText d c = classText d' c :=
  classText_congr_of_parents (fun name _ => by rw [h name])

theorem class?_map (g : Class → Class) (hg : ∀ c, (g c).name = c.name) (d : Docs) (name : String) :
    Docs.class? { d with classes := d.classes.map g } name = (d.class? name).map g := by
  have hkey : (fun c => decide (c.name = name)) ∘ g = fun c => decide (c.name = name) :=
    funext (fun c => by simp [hg])
  rw [class?, class?, Keyed.get?, Keyed.get?, List.find?_map, hkey]

/-- A change of classes that leaves them their names and parents changes what can be subscribed to as it
changes their own events. -/
theorem eventsOf_map (f : Event → Event) (hf : ∀ e, (f e).name = e.name) (g : Class → Class)
    (hname : ∀ c, (g c).name = c.name) (hparents : ∀ c, (g c).parents = c.parents)
    (hown : ∀ c, (g c).ownEvents = c.ownEvents.map f) (d : Docs) (c : Class) :
    Docs.eventsOf { d with classes := d.classes.map g } (g c) = (d.eventsOf c).map (List.map f) := by
  have hinherited : Docs.inheritedEvents { d with classes := d.classes.map g } c.name c.parents =
      (d.inheritedEvents c.name c.parents).map (List.map f) := by
    refine inheritedEvents_map f (fun name _ => ?_) c.name
    rw [class?_map g hname, Option.map_map]
    exact congrArg (fun own => (d.class? name).map own) (funext hown)
  rw [eventsOf, eventsOf, hname, hparents, hown, hinherited]
  cases d.inheritedEvents c.name c.parents with
  | error e => rfl
  | ok inherited =>
    refine congrArg Except.ok ?_
    dsimp only
    rw [← List.map_append]
    exact Keyed.putAll_map Event.name hf [] _

theorem exists_class?_iff {name : String} :
    (∃ c, d.class? name = some c) ↔ name ∈ d.classes.map Class.name := by
  rw [← Option.isSome_iff_exists, class?, Keyed.get?, List.find?_isSome, List.mem_map]
  simp

/-- The names are those of classes. -/
def Resolves (d : Docs) (names : List String) : Prop :=
  ∀ name ∈ names, name ∈ d.classes.map Class.name

instance (d : Docs) (names : List String) : Decidable (d.Resolves names) :=
  inferInstanceAs (Decidable (∀ name ∈ names, name ∈ d.classes.map Class.name))

theorem exists_inheritedEvents_iff (owner : String) {parents : List String} :
    (∃ events, d.inheritedEvents owner parents = .ok events) ↔ d.Resolves parents := by
  induction parents with
  | nil => simp [inheritedEvents, Resolves]
  | cons parent rest ih =>
    rw [Resolves, List.forall_mem_cons, ← exists_class?_iff]
    refine Iff.trans ?_ (and_congr_right fun _ => ih)
    rw [inheritedEvents]
    cases hparent : d.class? parent with
    | none => simp
    | some c =>
      constructor
      · rintro ⟨events, h⟩
        obtain ⟨inherited, h, -⟩ := bind_eq_ok.mp h
        exact ⟨⟨c, rfl⟩, inherited, h⟩
      · rintro ⟨-, inherited, h⟩
        exact ⟨c.ownEvents ++ inherited, by simp only [h]; rfl⟩

theorem exists_eventsOf_iff {c : Class} :
    (∃ events, d.eventsOf c = .ok events) ↔ d.Resolves c.parents := by
  rw [← exists_inheritedEvents_iff c.name, eventsOf]
  cases d.inheritedEvents c.name c.parents <;> simp [Except.map]

/-- A class has a block exactly when its parents are classes. -/
theorem exists_classText_iff {c : Class} :
    (∃ text, classText d c = .ok text) ↔ d.Resolves c.parents := by
  rw [← exists_eventsOf_iff, classText, Lua.classBlock]
  cases d.eventsOf c <;> simp [Except.map]

end Docs

/-! ## Files -/

namespace Lua

/-- The blocks of a rendered file: one for each class, in their order, between the line that marks it
as no code to be run and the blocks of the enums. -/
structure Renders (d : Docs) (text : String) (blocks : List String) : Prop where
  each : List.Forall₂ (fun c block => classText d c = .ok block) d.classes blocks
  whole : text = "---@meta" ++ String.join blocks ++ String.join (d.enums.map enumText)

theorem document_eq_ok {d : Docs} {text : String} :
    document d = .ok text ↔ ∃ blocks, Renders d text blocks := by
  rw [document, bind_eq_ok]
  constructor
  · rintro ⟨blocks, hblocks, htext⟩
    cases htext
    exact ⟨blocks, mapM_eq_ok.mp hblocks, rfl⟩
  · rintro ⟨blocks, hblocks, rfl⟩
    exact ⟨blocks, mapM_eq_ok.mpr hblocks, rfl⟩

/-- Classes in another order have the same blocks in that order. -/
theorem Renders.perm {d d' : Docs} {text : String} {blocks : List String}
    (h : Renders d text blocks) (hclasses : d'.classes.Perm d.classes)
    (htexts : ∀ c, classText d' c = classText d c) :
    ∃ text' blocks', Renders d' text' blocks' ∧ blocks'.Perm blocks := by
  obtain ⟨blocks', hblocks', hperm⟩ := List.perm_comp_forall₂ hclasses h.each
  refine ⟨_, blocks', ⟨hblocks'.imp (fun c block hc => ?_), rfl⟩, hperm⟩
  rw [htexts]
  exact hc

/-- The blocks of a file are known. -/
theorem Renders.unique {d : Docs} {text text' : String} {blocks blocks' : List String}
    (h : Renders d text blocks) (h' : Renders d text' blocks') : blocks = blocks' := by
  have hblocks := mapM_eq_ok.mpr h.each
  rw [mapM_eq_ok.mpr h'.each] at hblocks
  exact (Except.ok.inj hblocks).symm

/-! ## One more class -/

variable {d : Docs} {c : Class}

theorem class?_insert_of_ne {name : String} (h : name ≠ c.name) :
    (d.insert c).class? name = d.class? name := by
  rw [Docs.insert_eq]
  exact Keyed.get?_put_of_ne Class.name c d.classes h

theorem classText_insert {x : Class} (h : c.name ∉ x.parents) :
    classText (d.insert c) x = classText d x :=
  Docs.classText_congr_of_parents
    (fun _ hname => by rw [class?_insert_of_ne (fun heq => h (heq ▸ hname))])

/-- A class with a block has no parents but classes of the documentation. -/
theorem Renders.not_mem_parents {text : String} {blocks : List String} (h : Renders d text blocks)
    (hnew : c.name ∉ d.classes.map Class.name) : ∀ x ∈ d.classes, c.name ∉ x.parents := by
  intro x hx hparent
  obtain ⟨block, -, hblock⟩ := exists_of_forall₂ h.each x hx
  exact hnew (Docs.exists_classText_iff.mp ⟨block, hblock⟩ c.name hparent)

/-- The block of a new class comes behind those of the others. -/
theorem Renders.document_insert {text : String} {blocks : List String} (h : Renders d text blocks)
    (hnew : c.name ∉ d.classes.map Class.name) :
    document (d.insert c) = (classText (d.insert c) c).map (fun block =>
      header ++ String.join blocks ++ block ++ String.join (d.enums.map enumText)) := by
  have hold : d.classes.mapM (classText (d.insert c)) = .ok blocks := by
    refine mapM_eq_ok.mpr (List.forall₂_iff_zip.mpr ⟨h.each.length_eq, fun {x block} hx => ?_⟩)
    rw [classText_insert (h.not_mem_parents hnew x (List.of_mem_zip hx).1)]
    exact (List.forall₂_iff_zip.mp h.each).2 hx
  have hclasses : (d.insert c).classes = d.classes ++ [c] := by
    rw [Docs.insert_eq]
    exact Keyed.put_of_not_mem Class.name c hnew
  have henums : (d.insert c).enums = d.enums := by rw [Docs.insert_eq]
  rw [document, hclasses, List.mapM_append, hold, henums, List.mapM_cons, List.mapM_nil]
  cases classText (d.insert c) c with
  | error e => rfl
  | ok block =>
    refine congrArg Except.ok ?_
    simp [String.append_assoc]

/-- A class that is inserted changes no blocks but its own and those of its direct children.  A new
class changes no other block of a file, and has its own behind those of the other classes and before
those of the enums; the file can be rendered as soon as its parents are there, itself included. -/
theorem insert_affects (d : Docs) (c : Class) :
    (∀ x : Class, c.name ∉ x.parents → classText (d.insert c) x = classText d x) ∧
    ∀ text, document d = .ok text → c.name ∉ d.classes.map Class.name →
      (∀ x ∈ d.classes, classText (d.insert c) x = classText d x) ∧
      ((∃ text', document (d.insert c) = .ok text') ↔ (d.insert c).Resolves c.parents) ∧
      ∃ blocks, Renders d text blocks ∧ ∀ text', document (d.insert c) = .ok text' →
        ∃ block, classText (d.insert c) c = .ok block ∧
          text' = header ++ String.join blocks ++ block ++ String.join (d.enums.map enumText) := by
  refine ⟨fun x hx => classText_insert hx, fun text htext hnew => ?_⟩
  obtain ⟨blocks, hrenders⟩ := document_eq_ok.mp htext
  have hinsert := hrenders.document_insert hnew
  refine ⟨fun x hx => classText_insert (hrenders.not_mem_parents hnew x hx), ?_, blocks, hrenders,
    fun text' htext' => ?_⟩
  · rw [← Docs.exists_classText_iff, hinsert]
    cases classText (d.insert c) c <;> simp [Except.map]
  · rw [hinsert] at htext'
    obtain ⟨block, hblock, rfl⟩ := map_eq_ok.mp htext'
    exact ⟨block, hblock, rfl⟩

/-- A class and an enum, and a child of that class. -/
def sampleDocs : Docs :=
  ⟨[⟨"Parent", .both, none, none, none, none, some [⟨"Join", [], ⟨none, none⟩⟩], none, false,
    ⟨none, none⟩⟩], [⟨"Key", [⟨"A", .number (.integer 1)⟩]⟩]⟩

def sampleClass : Class :=
  ⟨"Child", .client, some ["Parent"], none, none, none, none, none, false, ⟨some "new", none⟩⟩

theorem insert_affects_sample :
    (∃ text, document sampleDocs = .ok text) ∧
      sampleClass.name ∉ sampleDocs.classes.map Class.name ∧
      (sampleDocs.insert sampleClass).Resolves sampleClass.parents ∧
      ∃ text', document (sampleDocs.insert sampleClass) = .ok text' := by
  have htext : ∃ text, document sampleDocs = .ok text := ⟨_, rfl⟩
  have hnew : sampleClass.name ∉ sampleDocs.classes.map Class.name := by decide
  have hparents : (sampleDocs.insert sampleClass).Resolves sampleClass.parents := by decide
  obtain ⟨text, hrender⟩ := htext
  obtain ⟨-, hinsert⟩ := insert_affects sampleDocs sampleClass
  obtain ⟨-, hsucceeds, -⟩ := hinsert text hrender hnew
  exact ⟨⟨text, hrender⟩, hnew, hparents, hsucceeds.mpr hparents⟩

end Lua

end LuaStubs
