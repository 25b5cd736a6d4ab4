import LuaStubs.Descriptor.Basic

/-! The documentation of an API: its classes and enums, each in order of discovery. -/
namespace LuaStubs

structure Enum where
  name : String
  values : List EnumValue
deriving Repr

structure Docs where
  classes : List Class
  enums : List Enum
deriving Repr

namespace Docs

def empty : Docs := ⟨[], []⟩

/-- The class of that name. -/
def class? (d : Docs) (name : String) : Option Class := Keyed.get? Class.name name d.classes

/-- Adds a class, and answers whether there was one of the same name, which gives way to it and leaves
it its place. -/
def insertClass (d : Docs) (c : Class) : Docs × Bool :=
  match Keyed.replace? Class.name c d.classes with
  | some classes => ({ d with classes := classes }, true)
  | none => ({ d with classes := d.classes ++ [c] }, false)

/-- The documentation with a class added. -/
def insert (d : Docs) (c : Class) : Docs := (d.insertClass c).1

theorem insertClass_eq (d : Docs) (c : Class) :
    d.insertClass c = ({ d with classes := Keyed.put Class.name c d.classes },
      Keyed.contains Class.name c.name d.classes) := by
  rw [insertClass, Keyed.put_eq_getD, ← Keyed.isSome_replace?]
  cases Keyed.replace? Class.name c d.classes <;> rfl

theorem insert_eq (d : Docs) (c : Class) :
    d.insert c = { d with classes := Keyed.put Class.name c d.classes } := by
  rw [insert, insertClass_eq]

end Docs

/-- A class names a parent that is no class of the documentation. -/
structure UnknownParent where
  owner : String
  parent : String
deriving DecidableEq, Repr

def UnknownParent.message (e : UnknownParent) : String :=
  "class " ++ e.owner ++ " inherits from unknown class " ++ e.parent

namespace Docs

/-- The events that the named classes declare, in order. -/
def inheritedEvents (d : Docs) (owner : String) : List String → Except UnknownParent (List Event)
  | [] => .ok []
  | parent :: rest => do
    match d.class? parent with
    | none => throw ⟨owner, parent⟩
    | some c =>
      let events ← inheritedEvents d owner rest
      return c.ownEvents ++ events

/-- The events that can be subscribed to on a class: those of its direct parents and its own.  A
name keeps the place of its first declaration and takes the meaning of its last. -/
def eventsOf (d : Docs) (c : Class) : Except UnknownParent (List Event) :=
  (d.inheritedEvents c.name c.parents).map
    (fun inherited => Keyed.putAll Event.name [] (inherited ++ c.ownEvents))

end Docs

end LuaStubs
