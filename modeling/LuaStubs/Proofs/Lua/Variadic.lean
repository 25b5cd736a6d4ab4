import LuaStubs.Export
import LuaStubs.Proofs.Lua.Naming

/-! Where a function is written out, a variadic parameter is `...`; in constructors and callbacks it has
the name that it was declared with. -/
namespace LuaStubs

/-- The name is not that of a variadic parameter. -/
def Parameter.Plain (p : Parameter) : Prop := ¬ "...".toList <:+ p.name.toList

instance (p : Parameter) : Decidable p.Plain := inferInstanceAs (Decidable (¬ _))

namespace Lua.Naming

/-- All parameters have their names written as in code. -/
def uniform : Naming := ⟨written, written, written⟩

theorem written_of_plain {p : Parameter} (h : p.Plain) : written p = p.name := if_neg h

theorem constructorText_of_plain {c : Class} (h : ∀ p ∈ c.constructor.getD [], p.Plain) :
    printed.constructorText c = uniform.constructorText c := by
  unfold constructorText
  cases hps : c.constructor with
  | none => rfl
  | some ps =>
    have hnames : ps.map (fun p => printed.constructor p ++ ": " ++ p.type) =
        ps.map (fun p => uniform.constructor p ++ ": " ++ p.type) := by
      refine List.map_congr_left (fun p hp => ?_)
      have hname : uniform.constructor p = p.name := written_of_plain (h p (by rwa [hps]))
      rw [hname]
      rfl
    simp only [hnames]

theorem callbackText_of_plain (owner : String) {e : Event} (h : ∀ p ∈ e.arguments, p.Plain) :
    printed.callbackText owner e = uniform.callbackText owner e := by
  unfold callbackText
  refine congrArg commas (List.mapIdx_eq_mapIdx_iff.mpr (fun i hi => ?_))
  have hname : uniform.callback e.arguments[i] = e.arguments[i].name :=
    written_of_plain (h _ (List.getElem_mem hi))
  rw [hname]
  rfl

theorem subscriptionText_of_plain (c : Class) {events : List Event}
    (h : ∀ e ∈ events, ∀ p ∈ e.arguments, p.Plain) :
    printed.subscriptionText c events = uniform.subscriptionText c events := by
  have hon : events.map (printed.subscribeText c) = events.map (uniform.subscribeText c) := by
    refine List.map_congr_left (fun e he => ?_)
    unfold subscribeText
    rw [callbackText_of_plain c.name (h e he)]
  have hoff : events.map (printed.unsubscribeText c) = events.map (uniform.unsubscribeText c) := by
    refine List.map_congr_left (fun e he => ?_)
    unfold unsubscribeText
    rw [callbackText_of_plain c.name (h e he)]
  unfold subscriptionText
  rw [hon, hoff]

theorem blockText_of_plain {c : Class} {events : List Event}
    (hctor : ∀ p ∈ c.constructor.getD [], p.Plain) (hevents : ∀ e ∈ events, ∀ p ∈ e.arguments, p.Plain) :
    printed.blockText c events = uniform.blockText c events := by
  unfold blockText
  rw [constructorText_of_plain hctor, subscriptionText_of_plain c hevents]
  rfl

/-- In a rendered file the parameters of functions are written as in code: `...` for a variadic one, in
its tag as in the declaration, and its own name for any other.  The parameters of constructors and of
callbacks have the names that were declared for them, and so are written in the same way unless one is
variadic. -/
theorem names_written {d : Docs} {text : String} (h : Format.lua.render d = .ok text) :
    ∃ blocks, text = header ++ String.join blocks ++ String.join (d.enums.map enumText) ∧
      List.Forall₂ (fun c block => ∃ events, d.eventsOf c = .ok events ∧
        block = printed.blockText c events ∧
        ((∀ p ∈ c.constructor.getD [], p.Plain) → (∀ e ∈ events, ∀ p ∈ e.arguments, p.Plain) →
          block = uniform.blockText c events)) d.classes blocks := by
  obtain ⟨blocks, heach, htext⟩ := document_eq_ok.mp h
  refine ⟨blocks, htext, heach.imp (fun c block hblock => ?_)⟩
  rw [classText_eq] at hblock
  obtain ⟨events, hevents, rfl⟩ := map_eq_ok.mp hblock
  exact ⟨events, hevents, rfl, blockText_of_plain⟩

def ready : Event := ⟨"Ready", [⟨"self", "Remote", none, ⟨none, none⟩⟩], ⟨none, none⟩⟩

/-- A class with a variadic function. -/
def remote : Class :=
  ⟨"Remote", .both, none, some [⟨"name", "string", none, ⟨none, none⟩⟩],
    some [⟨"Call", .both, some [⟨"event", "string", none, ⟨none, none⟩⟩,
      ⟨"args...", "any", none, ⟨none, none⟩⟩], none, ⟨none, none⟩⟩], none, some [ready], none, false,
    ⟨none, none⟩⟩

theorem names_written_sample :
    (∀ p ∈ remote.constructor.getD [], p.Plain) ∧ (∀ e ∈ [ready], ∀ p ∈ e.arguments, p.Plain) ∧
    ∃ text, Format.lua.render ⟨[remote], []⟩ = .ok text ∧
      text = header ++ uniform.blockText remote [ready] := by
  have hctor : ∀ p ∈ remote.constructor.getD [], p.Plain := by decide
  have hready : ∀ e ∈ [ready], ∀ p ∈ e.arguments, p.Plain := by decide
  have hrender : ∃ text, Format.lua.render ⟨[remote], []⟩ = .ok text := ⟨_, rfl⟩
  have hremote : Docs.eventsOf ⟨[remote], []⟩ remote = .ok [ready] := rfl
  obtain ⟨text, htext⟩ := hrender
  obtain ⟨blocks, hwhole, heach⟩ := names_written htext
  cases heach with
  | cons hblock hnone =>
    cases hnone
    obtain ⟨events, hevents, -, hplain⟩ := hblock
    rw [hremote] at hevents
    cases hevents
    refine ⟨hctor, hready, text, htext, ?_⟩
    rw [hwhole, hplain hctor hready]
    simp

/-! ## Variadic constructors and callbacks -/

def shout : Event := ⟨"Shout", [⟨"words...", "string", none, ⟨none, none⟩⟩], ⟨none, none⟩⟩

/-- A class with a variadic constructor and an event whose callbacks are variadic. -/
def crowd : Class :=
  ⟨"Crowd", .both, none, some [⟨"people...", "Person", none, ⟨none, none⟩⟩], none, none, some [shout],
    none, true, ⟨none, none⟩⟩

/-- The names of variadic parameters are written out in an overload. -/
theorem names_not_written :
    Format.lua.render ⟨[crowd], []⟩ ≠ .ok (header ++ uniform.blockText crowd [shout]) ∧
    classBlock ⟨[crowd], []⟩ crowd = .ok (classLines crowd [shout]) ∧
    constructorTag crowd = [.tag "overload" "fun(people...: Person): Crowd"] ∧
    subscribeTag crowd shout = .tag "overload" ("fun(event_name: \"Shout\", callback: " ++
      "fun(words...: string)): fun(words...: string) ") ∧
    unsubscribeTag crowd shout = .tag "overload" ("fun(event_name: \"Shout\", callback: " ++
      "fun(words...: string)) ") := by
  refine ⟨by decide +kernel, rfl, rfl, rfl, rfl⟩

end Lua.Naming

end LuaStubs
