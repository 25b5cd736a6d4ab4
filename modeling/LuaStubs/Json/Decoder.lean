import LuaStubs.Json.Tree

/-! Typed reading of trees.  A `Decoder` reads one tree; `Fields` reads the members of an object by
name, each declared once with the decoder of its value. -/
namespace LuaStubs.Json

abbrev Decoder (α : Type) := Tree → Except Problem α

namespace Decoder

def string : Decoder String
  | .string _ _ value => value
  | t => .error (t.mismatch "a string")

def bool : Decoder Bool
  | .bool _ _ b => .ok b
  | t => .error (t.mismatch "a boolean")

/-- `null` or a value. -/
def nullable {α : Type} (d : Decoder α) : Decoder (Option α)
  | .null _ _ => .ok none
  | t => (d t).map some

def list {α : Type} (d : Decoder α) : Decoder (List α)
  | .array start level items stop => do
    Tree.checkLevel start level
    let items ← items.mapM d
    let _ ← Tree.closed stop
    return items
  | t => .error (t.mismatch "a sequence")

/-- Any value. -/
def json : Decoder Json := Tree.full

/-- An object with any members, in order. -/
def map : Decoder (List (String × Json))
  | .object start level members stop => do
    Tree.checkLevel start level
    let members ← Tree.fullMembers members
    let _ ← Tree.closed stop
    return members
  | t => .error (t.mismatch "a map")

/-- Reads a text with nothing behind the value. -/
def run {α : Type} (d : Decoder α) (text : String) : Except Problem α := do
  let document := Document.ofText text
  let v ← d document.root
  match document.extra with
  | none => return v
  | some spot => throw ⟨.trailingText, spot⟩

end Decoder

/-- The members of an object: those that were asked for, the values of the others, and the spot
behind the closing bracket. -/
structure Record where
  known : List (String × Tree)
  others : List (String × Json)
  stop : Spot

namespace Record

def tree? (r : Record) (name : String) : Option Tree :=
  (r.known.find? (fun m => m.1 = name)).map Prod.snd

end Record

/-- A member that is asked for.  In a list of values instead of an object, one that `mayLack` can be
missing at the end. -/
structure Slot where
  name : String
  check : Tree → Except Problem Unit
  mayLack : Bool

structure Fields (α : Type) where
  slots : List Slot
  read : Record → Except Problem α

namespace Fields

variable {α β : Type}

def const (a : α) : Fields α := ⟨[], fun _ => .ok a⟩

/-- Both, the first one first. -/
def apply (f : Fields (α → β)) (a : Unit → Fields α) : Fields β where
  slots := f.slots ++ (a ()).slots
  read r := do
    let g ← f.read r
    let x ← (a ()).read r
    return g x

def map (g : α → β) (f : Fields α) : Fields β := ⟨f.slots, fun r => (f.read r).map g⟩

instance : Pure Fields := ⟨const⟩
instance : Functor Fields := ⟨map, fun b f => map (fun _ => b) f⟩
instance : Seq Fields := ⟨apply⟩

def checking (d : Decoder α) (t : Tree) : Except Problem Unit := do
  let _ ← d t

/-- A member that has to be there. -/
def required (name : String) (d : Decoder α) : Fields α where
  slots := [⟨name, checking d, false⟩]
  read r :=
    match r.tree? name with
    | some t => d t
    | none => .error ⟨.missing name, r.stop⟩

/-- A member that takes a value of its own when it is not there. -/
def withDefault (name : String) (d : Decoder α) (default : α) : Fields α where
  slots := [⟨name, checking d, true⟩]
  read r :=
    match r.tree? name with
    | some t => d t
    | none => .ok default

/-- A member that may be `null` or absent. -/
def optional (name : String) (d : Decoder α) : Fields (Option α) :=
  withDefault name (Decoder.nullable d) none

/-- As `optional` in an object, but never lacking in a list. -/
def optionalMember (name : String) (d : Decoder α) : Fields (Option α) where
  slots := [⟨name, checking (Decoder.nullable d), false⟩]
  read := (optional name d).read

def slot? (f : Fields α) (name : String) : Option Slot := f.slots.find? (fun s => s.name = name)

/-- Takes the members in order.  A known name may come once; what `other` makes of the rest is
kept. -/
def collect (f : Fields α) (other : Tree → Except Problem (Option Json)) (known : List (String × Tree))
    (others : List (String × Json)) :
    List (Key × Tree) → Except Problem (List (String × Tree) × List (String × Json))
  | [] => .ok (known, others)
  | (key, t) :: rest => do
    let name ← key.text
    match f.slot? name with
    | some slot =>
      if known.any (fun m => m.1 = name) then throw ⟨.duplicate name, key.after⟩
      else
        slot.check t
        collect f other (known ++ [(name, t)]) others rest
    | none =>
      match ← other t with
      | some j => collect f other known (others ++ [(name, j)]) rest
      | none => collect f other known others rest

/-- Reads an object; `other` reads the members that are not asked for. -/
def ofObject (f : Fields α) (other : Tree → Except Problem (Option Json)) (start : Spot)
    (level : Nat) (members : List (Key × Tree)) (stop : Except Fault Spot) : Except Problem α := do
  Tree.checkLevel start level
  let (known, others) ← collect f other [] [] members
  let stop ← Tree.closed stop
  f.read ⟨known, others, stop⟩

/-- Reads an object only; its other members are read closely and kept. -/
def decoder (f : Fields α) (name : String) : Decoder α
  | .object start level members stop =>
    f.ofObject (fun t => t.full.map some) start level members stop
  | t => .error (t.mismatch ("struct " ++ name))

/-- The values of a list in the order of the slots. -/
def positions (total : Nat) (name : String) (stop : Except Fault Spot) (known : List (String × Tree)) :
    List Slot → List Tree → Except Problem (List (String × Tree) × Spot)
  | [], [] =>
    match stop with
    | .ok stop => .ok (known, stop)
    | .error fault =>
      if fault.full.cause = .listSeparator then .error ⟨.trailingText, fault.full.spot⟩
      else .error fault.full
  | [], t :: _ => .error ⟨.trailingText, .both t.start.stream⟩
  | slot :: slots, t :: items => do
    slot.check t
    positions total name stop (known ++ [(slot.name, t)]) slots items
  | slot :: slots, [] => do
    let spot ← Tree.closed stop
    if slot.mayLack then positions total name stop known slots []
    else
      let elements := if total = 1 then " with 1 element" else s!" with {total} elements"
      throw ⟨.length known.length ("struct " ++ name ++ elements), spot⟩

/-- Reads an object, skimming its other members, or a list of the values in order. -/
def looseDecoder (f : Fields α) (name : String) : Decoder α
  | .object start level members stop =>
    f.ofObject (fun t => t.skim.map (fun _ => none)) start level members stop
  | .array start level items stop => do
    Tree.checkLevel start level
    let (known, stop) ← positions f.slots.length name stop [] f.slots items
    f.read ⟨known, [], stop⟩
  | t => .error (t.mismatch ("struct " ++ name))

end Fields

end LuaStubs.Json
