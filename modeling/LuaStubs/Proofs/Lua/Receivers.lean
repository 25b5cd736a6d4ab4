import LuaStubs.Export
import LuaStubs.Proofs.Lua.Naming

/-! What an event declares as the type of a leading `self` is in no rendered file: on every class `self`
is of that class. -/
namespace LuaStubs

/-! ## Without the types of receivers -/

/-- An event without the type that it declares for a leading `self`. -/
def Event.unowned (e : Event) : Event :=
  match e.arguments with
  | [] => e
  | p :: ps => if p.name = "self" then { e with arguments := { p with type := "" } :: ps } else e

def Class.unowned (c : Class) : Class := { c with events := c.events.map (List.map Event.unowned) }

def Docs.unowned (d : Docs) : Docs := { d with classes := d.classes.map Class.unowned }

theorem Event.unowned_cases (e : Event) :
    e.unowned = e ∨ ∃ p ps, e.arguments = p :: ps ∧ p.name = "self" ∧
      e.unowned = { e with arguments := { p with type := "" } :: ps } := by
  unfold unowned
  split
  · exact .inl rfl
  · next p ps harguments =>
    by_cases hp : p.name = "self"
    · rw [if_pos hp]
      exact .inr ⟨p, ps, harguments, hp, rfl⟩
    · rw [if_neg hp]
      exact .inl rfl

theorem Event.name_unowned (e : Event) : e.unowned.name = e.name := by
  rcases e.unowned_cases with h | ⟨p, ps, -, -, h⟩ <;> rw [h]

theorem Event.doc_unowned (e : Event) : e.unowned.doc = e.doc := by
  rcases e.unowned_cases with h | ⟨p, ps, -, -, h⟩ <;> rw [h]

theorem Class.ownEvents_unowned (c : Class) :
    c.unowned.ownEvents = c.ownEvents.map Event.unowned := by
  unfold ownEvents unowned
  cases c.events <;> rfl

theorem Docs.eventsOf_unowned (d : Docs) (c : Class) :
    d.unowned.eventsOf c.unowned = (d.eventsOf c).map (List.map Event.unowned) :=
  eventsOf_map Event.unowned Event.name_unowned Class.unowned (fun _ => rfl) (fun _ => rfl)
    Class.ownEvents_unowned d c

namespace Lua

/-! ## Files -/

theorem callbackList_unowned (owner : String) (e : Event) :
    callbackList owner e.unowned.arguments = callbackList owner e.arguments := by
  rcases e.unowned_cases with h | ⟨p, ps, harguments, hp, h⟩
  · rw [h]
  · rw [h, harguments]
    simp only [callbackList, hp, if_true]

theorem subscribeTag_unowned (c : Class) (e : Event) :
    subscribeTag c.unowned e.unowned = subscribeTag c e := by
  unfold subscribeTag
  rw [callbackList_unowned, e.name_unowned, e.doc_unowned]
  rfl

theorem unsubscribeTag_unowned (c : Class) (e : Event) :
    unsubscribeTag c.unowned e.unowned = unsubscribeTag c e := by
  unfold unsubscribeTag
  rw [callbackList_unowned, e.name_unowned, e.doc_unowned]
  rfl

theorem subscriptionBlock_unowned (c : Class) (events : List Event) :
    subscriptionBlock c.unowned (events.map Event.unowned) = subscriptionBlock c events := by
  have hon : (events.map Event.unowned).map (subscribeTag c.unowned) = events.map (subscribeTag c) := by
    rw [List.map_map]
    exact List.map_congr_left (fun e _ => subscribeTag_unowned c e)
  have hoff : (events.map Event.unowned).map (unsubscribeTag c.unowned) =
      events.map (unsubscribeTag c) := by
    rw [List.map_map]
    exact List.map_congr_left (fun e _ => unsubscribeTag_unowned c e)
  unfold subscriptionBlock
  rw [List.isEmpty_map, hon, hoff]
  rfl

/-- A block is the same without the types of receivers. -/
theorem classText_unowned (d : Docs) (c : Class) :
    classText d.unowned c.unowned = classText d c := by
  rw [classText, classText, classBlock, classBlock, Docs.eventsOf_unowned]
  cases d.eventsOf c with
  | error e => rfl
  | ok events =>
    refine congrArg (fun b => Except.ok (Block.text b)) ?_
    unfold classLines
    rw [subscriptionBlock_unowned]
    rfl

theorem document_unowned (d : Docs) : document d.unowned = document d := by
  have hclasses : d.unowned.classes.mapM (classText d.unowned) = d.classes.mapM (classText d) := by
    rw [Docs.unowned, List.mapM_map]
    exact congrArg (fun f => d.classes.mapM f) (funext (classText_unowned d))
  rw [document, document, hclasses]
  rfl

/-- Two files of what differs in the declared types of leading `self` arguments only are the same, or
they fail in the same way.  On every class, what comes first in a callback is of that class if it is
`self`; all other arguments have the types that they declare, one called `self` further back included. -/
theorem receivers_hidden :
    (∀ d d' : Docs, d.unowned = d'.unowned → Format.lua.render d = Format.lua.render d') ∧
    ∀ (d : Docs) (c : Class) (events : List Event), d.eventsOf c = .ok events →
      classText d c = .ok (Naming.printed.blockText c events) ∧
      ∀ e ∈ events, ∀ p ps, e.arguments = p :: ps →
        Naming.printed.callbackText c.name e =
          commas ((p.name ++ ": " ++ if p.name = "self" then c.name else p.type) ::
            ps.map (fun q => q.name ++ ": " ++ q.type)) := by
  constructor
  · intro d d' hsame
    show document d = document d'
    rw [← document_unowned d, hsame, document_unowned]
  · intro d c events hevents
    refine ⟨by rw [Naming.classText_eq, hevents]; rfl, fun e _ p ps harguments => ?_⟩
    rw [← Naming.callbackList_eq, harguments]
    rfl

def greeting (type : String) : Event :=
  ⟨"Greet", [⟨"self", type, none, ⟨none, none⟩⟩, ⟨"x", "T", none, ⟨none, none⟩⟩,
    ⟨"self", "U", none, ⟨none, none⟩⟩], ⟨none, none⟩⟩

def greeted : Class :=
  ⟨"B", .client, some ["A"], none, none, none, none, none, false, ⟨none, none⟩⟩

/-- A class with an event whose receiver is declared to be of this type, and a child of it. -/
def greeters (type : String) : Docs :=
  ⟨[⟨"A", .both, none, none, none, none, some [greeting type], none, false, ⟨none, none⟩⟩, greeted],
    []⟩

theorem receivers_hidden_sample :
    ((greeters "A").unowned = (greeters "anything").unowned ∧
      Format.lua.render (greeters "A") = Format.lua.render (greeters "anything")) ∧
    (greeters "A").eventsOf greeted = .ok [greeting "A"] ∧
    classText (greeters "A") greeted = .ok (Naming.printed.blockText greeted [greeting "A"]) ∧
    Naming.printed.callbackText "B" (greeting "A") = "self: B, x: T, self: U" := by
  have hsame : (greeters "A").unowned = (greeters "anything").unowned := rfl
  have hevents : (greeters "A").eventsOf greeted = .ok [greeting "A"] := rfl
  obtain ⟨htwo, hone⟩ := receivers_hidden
  obtain ⟨htext, hcallback⟩ := hone (greeters "A") greeted _ hevents
  have harguments := hcallback (greeting "A") List.mem_cons_self _ _ rfl
  exact ⟨⟨hsame, htwo _ _ hsame⟩, hevents, htext, harguments⟩

end Lua

end LuaStubs
