import LuaStubs.Proofs.Lua.Resolution

/-! The events that can be subscribed to on a class are those that its parents and it itself declare,
merged: a name keeps the place where it first occurs and the meaning that it was given last. -/
namespace LuaStubs.Docs

variable {d : Docs}

/-- The events declared under a name. -/
def eventsUnder (d : Docs) (name : String) : List Event :=
  ((d.class? name).map Class.ownEvents).getD []

/-- What the parents of a class declare, in their order, and behind that what it declares itself. -/
def declaredEvents (d : Docs) (c : Class) : List Event :=
  c.parents.flatMap d.eventsUnder ++ c.ownEvents

theorem inheritedEvents_of_resolves (owner : String) {parents : List String}
    (h : d.Resolves parents) :
    d.inheritedEvents owner parents = .ok (parents.flatMap d.eventsUnder) := by
  induction parents with
  | nil => rfl
  | cons parent rest ih =>
    obtain ⟨hparent, hrest⟩ := List.forall_mem_cons.mp h
    obtain ⟨c, hc⟩ := exists_class?_iff.mpr hparent
    have hunder : d.eventsUnder parent = c.ownEvents := by
      rw [eventsUnder, hc]
      rfl
    rw [inheritedEvents, hc, ih hrest, List.flatMap_cons, hunder]
    rfl

theorem eventsOf_of_resolves {c : Class} (h : d.Resolves c.parents) :
    d.eventsOf c = .ok (Keyed.putAll Event.name [] (d.declaredEvents c)) := by
  rw [eventsOf, inheritedEvents_of_resolves c.name h]
  rfl

theorem exists_firstMissing {names : List String} (h : ¬ d.Resolves names) :
    ∃ name, d.FirstMissing names name := by
  induction names with
  | nil => exact absurd (by simp [Resolves]) h
  | cons first rest ih =>
    simp only [firstMissing_cons]
    by_cases hfirst : first ∈ d.classes.map Class.name
    · have hrest : ¬ d.Resolves rest := fun hrest => h (List.forall_mem_cons.mpr ⟨hfirst, hrest⟩)
      obtain ⟨name, hname⟩ := ih hrest
      exact ⟨name, .inr ⟨hfirst, hname⟩⟩
    · exact ⟨first, .inl ⟨hfirst, rfl⟩⟩

theorem eventsOf_of_firstMissing {c : Class} {parent : String}
    (h : d.FirstMissing c.parents parent) : d.eventsOf c = .error ⟨c.name, parent⟩ := by
  rw [eventsOf, map_eq_error, inheritedEvents_eq_error]
  exact ⟨rfl, h⟩

theorem mem_eventsUnder {e : Event} {name : String} :
    e ∈ d.eventsUnder name ↔ ∃ c, d.class? name = some c ∧ e ∈ c.ownEvents := by
  rw [eventsUnder]
  cases d.class? name <;> simp

section Merge

variable {c : Class} {events : List Event}
  (h : Keyed.Merges Event.name (d.declaredEvents c) events)
include h

/-- What a class declares itself wins over what it inherits. -/
theorem get?_of_own {name : String} (hname : name ∈ c.ownEvents.map Event.name) :
    Keyed.get? Event.name name events = (c.ownEvents.filter (fun e => e.name = name)).getLast? := by
  rw [declaredEvents, ← List.append_nil c.ownEvents] at h
  exact h.get?_append hname (by simp)

/-- A parent wins over the parents in front of it. -/
theorem get?_of_parent {before behind : List String} {parent name : String}
    (hparents : c.parents = before ++ parent :: behind)
    (hname : name ∈ (d.eventsUnder parent).map Event.name)
    (hbehind : name ∉ (behind.flatMap d.eventsUnder ++ c.ownEvents).map Event.name) :
    Keyed.get? Event.name name events =
      ((d.eventsUnder parent).filter (fun e => e.name = name)).getLast? := by
  rw [declaredEvents, hparents, List.flatMap_append, List.flatMap_cons, List.append_assoc,
    List.append_assoc] at h
  exact h.get?_append hname hbehind

/-- Only parents of the class itself are asked. -/
theorem declared_of_mem {e : Event} (he : e ∈ events) :
    e ∈ c.ownEvents ∨ ∃ parent ∈ c.parents, ∃ p, d.class? parent = some p ∧ e ∈ p.ownEvents := by
  have hmem := (List.mem_filter.mp (List.mem_of_getLast? (h.latest e he))).1
  rcases List.mem_append.mp hmem with hmem | hmem
  · obtain ⟨parent, hparent, hunder⟩ := List.mem_flatMap.mp hmem
    exact .inr ⟨parent, hparent, mem_eventsUnder.mp hunder⟩
  · exact .inl hmem

end Merge

/-- A parent that is missing is an error that names the first one.  Where no parent is missing, the
events are the merge of what the parents declare, in their order, and what the class declares behind
them: its own events win, of its parents the last one does, and parents of parents add nothing. -/
theorem eventsOf_merges (d : Docs) (c : Class) :
    (¬ d.Resolves c.parents →
      ∃ parent, d.FirstMissing c.parents parent ∧ d.eventsOf c = .error ⟨c.name, parent⟩) ∧
    (d.Resolves c.parents → ∃ events, d.eventsOf c = .ok events ∧
      Keyed.Merges Event.name (d.declaredEvents c) events ∧
      (∀ name ∈ c.ownEvents.map Event.name, Keyed.get? Event.name name events =
        (c.ownEvents.filter (fun e => e.name = name)).getLast?) ∧
      (∀ before parent behind name, c.parents = before ++ parent :: behind →
        name ∈ (d.eventsUnder parent).map Event.name →
        name ∉ (behind.flatMap d.eventsUnder ++ c.ownEvents).map Event.name →
        Keyed.get? Event.name name events =
          ((d.eventsUnder parent).filter (fun e => e.name = name)).getLast?) ∧
      ∀ e ∈ events, e ∈ c.ownEvents ∨
        ∃ parent ∈ c.parents, ∃ p, d.class? parent = some p ∧ e ∈ p.ownEvents) := by
  constructor
  · intro hmissing
    obtain ⟨parent, hfirst⟩ := exists_firstMissing hmissing
    exact ⟨parent, hfirst, eventsOf_of_firstMissing hfirst⟩
  · intro hresolves
    have hmerges := Keyed.merges_putAll Event.name (d.declaredEvents c)
    exact ⟨_, eventsOf_of_resolves hresolves, hmerges, fun _ hname => get?_of_own hmerges hname,
      fun _ _ _ _ hparents hname hbehind => get?_of_parent hmerges hparents hname hbehind,
      fun _ he => declared_of_mem hmerges he⟩

/-- An event without arguments, and a class with such events. -/
def signal (name text : String) : Event := ⟨name, [], ⟨some text, none⟩⟩

def emitter (name : String) (parents : List String) (events : List Event) : Class :=
  ⟨name, .both, some parents, none, none, none, some events, none, false, ⟨none, none⟩⟩

/-- The first parent is named again behind the second one, which declares an event twice; the child is a
parent of itself. -/
def sampleChild : Class :=
  emitter "Child" ["First", "Second", "First", "Child"]
    [signal "Hit" "own", signal "Die" "one", signal "Die" "two"]

def sampleOrphan : Class := emitter "Orphan" ["First", "Ghost", "Shade"] []

def sampleEmitters : Docs :=
  ⟨[emitter "First" ["Second"] [signal "Spawn" "first", signal "Hit" "first"],
    emitter "Second" [] [signal "Spawn" "second", signal "Move" "one", signal "Move" "two"],
    sampleChild], []⟩

theorem eventsOf_merges_sample :
    (¬ sampleEmitters.Resolves sampleOrphan.parents ∧
      sampleEmitters.FirstMissing sampleOrphan.parents "Ghost" ∧
      sampleEmitters.eventsOf sampleOrphan = .error ⟨"Orphan", "Ghost"⟩) ∧
    sampleEmitters.Resolves sampleChild.parents ∧
    ∃ events, sampleEmitters.eventsOf sampleChild = .ok events ∧
      events =
        [signal "Spawn" "first", signal "Hit" "own", signal "Move" "two", signal "Die" "two"] ∧
      Keyed.get? Event.name "Die" events = some (signal "Die" "two") ∧
      Keyed.get? Event.name "Spawn" events = some (signal "Spawn" "first") := by
  have hmissing : ¬ sampleEmitters.Resolves sampleOrphan.parents := by decide
  have hresolves : sampleEmitters.Resolves sampleChild.parents := by decide
  have hghost : sampleEmitters.eventsOf sampleOrphan = .error ⟨"Orphan", "Ghost"⟩ := rfl
  obtain ⟨parent, hfirst, herror⟩ := (eventsOf_merges sampleEmitters sampleOrphan).1 hmissing
  obtain ⟨events, hevents, hmerges, hown, hparent, -⟩ :=
    (eventsOf_merges sampleEmitters sampleChild).2 hresolves
  rw [hghost] at herror
  cases herror
  refine ⟨⟨hmissing, hfirst, hghost⟩, hresolves, events, hevents, ?_, ?_, ?_⟩
  · rw [hmerges.eq_putAll]
    decide
  · rw [hown "Die" (by decide)]
    decide
  · rw [hparent ["First", "Second"] "First" ["Child"] "Spawn" rfl (by decide) (by decide)]
    decide

end LuaStubs.Docs
