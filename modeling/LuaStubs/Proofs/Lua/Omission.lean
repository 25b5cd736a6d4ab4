import LuaStubs.Proofs.Lua.Naming

/-! Lists that are present and empty: where one is left out of a class, the block of that class loses a
constructor or the mark in front of its parents, and all else stays as it is. -/
namespace LuaStubs

/-! ## Without empty lists -/

/-- A list that is present and empty is left out. -/
def omitEmpty {α : Type} (o : Option (List α)) : Option (List α) := o.filter (fun xs => !xs.isEmpty)

def Function.trimmed (f : Function) : Function := { f with parameters := omitEmpty f.parameters }

/-- A class without the empty lists of functions, events, properties and parameters. -/
def Class.trimmed (c : Class) : Class :=
  { c with
    staticFunctions := omitEmpty (c.staticFunctions.map (List.map Function.trimmed))
    functions := omitEmpty (c.functions.map (List.map Function.trimmed))
    events := omitEmpty c.events
    properties := omitEmpty c.properties }

theorem getD_omitEmpty {α : Type} (o : Option (List α)) : (omitEmpty o).getD [] = o.getD [] := by
  cases o with
  | none => rfl
  | some xs => cases xs <;> rfl

theorem Class.ownEvents_trimmed (c : Class) : c.trimmed.ownEvents = c.ownEvents := getD_omitEmpty _

namespace Docs

/-- The documentation with another class in one place. -/
def set (d : Docs) (i : Nat) (c : Class) : Docs := { d with classes := d.classes.set i c }

/-- What the children of a class see of it. -/
def outline (c : Class) : String × List Event := (c.name, c.ownEvents)

theorem find?_outline (cs : List Class) (name : String) :
    (Keyed.get? Class.name name cs).map Class.ownEvents =
      ((cs.map outline).find? (fun x => x.1 = name)).map Prod.snd := by
  rw [List.find?_map, Option.map_map]
  rfl

theorem class?_set {d : Docs} {i : Nat} {c c' : Class} (hc : d.classes[i]? = some c)
    (hsame : outline c' = outline c) (name : String) :
    ((d.set i c').class? name).map Class.ownEvents = (d.class? name).map Class.ownEvents := by
  have houtlines : (d.classes.set i c').map outline = d.classes.map outline := by
    obtain ⟨hi, rfl⟩ := List.getElem?_eq_some_iff.mp hc
    have hi' : i < (d.classes.map outline).length := by rwa [List.length_map]
    have hget : outline d.classes[i] = (d.classes.map outline)[i] := (List.getElem_map outline).symm
    rw [List.map_set, hsame, hget, List.set_getElem_self]
  rw [class?, class?, set, find?_outline, find?_outline, houtlines]

end Docs

namespace Lua

/-- All blocks are the same where the second class stands in the place of the first one. -/
def SameBlocks (d : Docs) (c c' : Class) : Prop :=
  ∀ i, d.classes[i]? = some c → ∀ x, classText (d.set i c') x = classText d x

theorem sameBlocks_of_outline (d : Docs) {c c' : Class} (h : Docs.outline c' = Docs.outline c) :
    SameBlocks d c c' :=
  fun _ hc _ => Docs.classText_congr_of_parents (fun name _ => Docs.class?_set hc h name)

theorem functionBlock_trimmed (accessor : String) (f : Function) :
    functionBlock accessor f.trimmed = functionBlock accessor f := by
  have hps : f.trimmed.parameters.getD [] = f.parameters.getD [] := getD_omitEmpty _
  unfold functionBlock
  rw [hps]
  rfl

theorem functionBlocks_trimmed (c : Class) (accessor : String) (fs : Option (List Function)) :
    functionBlocks c.trimmed accessor (omitEmpty (fs.map (List.map Function.trimmed))) =
      functionBlocks c accessor fs := by
  have hfs : (fs.map (List.map Function.trimmed)).getD [] = (fs.getD []).map Function.trimmed := by
    cases fs <;> rfl
  have hkeeps : keeps c.trimmed ∘ Function.trimmed = keeps c := rfl
  unfold functionBlocks
  rw [getD_omitEmpty, hfs, List.filter_map, hkeeps, List.flatMap_map]
  exact List.flatMap_congr (fun f _ => functionBlock_trimmed accessor f)

theorem classLines_trimmed (c : Class) (events : List Event) :
    classLines c.trimmed events = classLines c events := by
  have hfields : fieldTags c.trimmed = fieldTags c := congrArg (List.map fieldTag) (getD_omitEmpty _)
  have hstatics := functionBlocks_trimmed c (c.name ++ ".") c.staticFunctions
  have hfunctions := functionBlocks_trimmed c (c.name ++ ":") c.functions
  unfold classLines
  rw [hfields, ← hstatics, ← hfunctions]
  rfl

theorem classText_trimmed (d : Docs) (c : Class) : classText d c.trimmed = classText d c := by
  have hevents : d.eventsOf c.trimmed = d.eventsOf c := by
    rw [Docs.eventsOf, Docs.eventsOf, c.ownEvents_trimmed]
    rfl
  rw [classText, classText, classBlock, classBlock, hevents]
  cases d.eventsOf c with
  | error e => rfl
  | ok events => exact congrArg (fun b => Except.ok (Block.text b)) (classLines_trimmed c events)

/-! ## Without a constructor or the mark of parents -/

section Pieces

variable (c : Class) (events : List Event)

/-- A constructor has its line in front of the table of the class and does nothing else. -/
theorem blockText_constructor : ∃ front back : String, ∀ constructor,
    Naming.printed.blockText { c with constructor := constructor } events =
      front ++ Naming.printed.constructorText { c with constructor := constructor } ++
        ("\n" ++ c.name ++ " = \x7b\x7d") ++ back := by
  refine ⟨"\n\n---" ++ badge c.authority ++ "\n---\n---" ++ c.doc.line ++ "\n---@class " ++ c.name ++
      parentList c ++ Block.text (fieldTags c),
    String.join ((kept c c.staticFunctions).map (Naming.printed.functionText (c.name ++ "."))) ++
      String.join ((kept c c.functions).map (Naming.printed.functionText (c.name ++ ":"))) ++
      Naming.printed.subscriptionText c events ++ Block.text (fieldTags c), fun constructor => ?_⟩
  simp only [← String.append_assoc]
  rfl

/-- The parents stand behind the name of the class and nowhere else. -/
theorem blockText_inheritance : ∃ front back : String, ∀ inheritance,
    Naming.printed.blockText { c with inheritance := inheritance } events =
      front ++ ("\n---@class " ++ c.name) ++ parentList { c with inheritance := inheritance } ++ back := by
  refine ⟨"\n\n---" ++ badge c.authority ++ "\n---\n---" ++ c.doc.line,
    Block.text (fieldTags c) ++ Naming.printed.constructorText c ++ "\n" ++ c.name ++ " = \x7b\x7d" ++
      String.join ((kept c c.staticFunctions).map (Naming.printed.functionText (c.name ++ "."))) ++
      String.join ((kept c c.functions).map (Naming.printed.functionText (c.name ++ ":"))) ++
      Naming.printed.subscriptionText c events ++ Block.text (fieldTags c), fun inheritance => ?_⟩
  simp only [← String.append_assoc]
  rfl

end Pieces

/-- The second text is the first one without a piece between `head` and `tail`, or both fail in the same
way. -/
def Loses (head piece tail : String) (text text' : Except UnknownParent String) : Prop :=
  (∃ e, text = .error e ∧ text' = .error e) ∨
    ∃ front back, text = .ok (front ++ head ++ piece ++ tail ++ back) ∧
      text' = .ok (front ++ head ++ tail ++ back)

theorem loses_of_blockText {d : Docs} {c c' : Class} {head piece tail : String}
    (hevents : d.eventsOf c' = d.eventsOf c)
    (hblock : ∀ events, ∃ front back,
      Naming.printed.blockText c events = front ++ head ++ piece ++ tail ++ back ∧
        Naming.printed.blockText c' events = front ++ head ++ tail ++ back) :
    Loses head piece tail (classText d c) (classText d c') := by
  rw [Naming.classText_eq, Naming.classText_eq, hevents]
  cases d.eventsOf c with
  | error e => exact .inl ⟨e, rfl, rfl⟩
  | ok events =>
    obtain ⟨front, back, hwith, hwithout⟩ := hblock events
    exact .inr ⟨front, back, congrArg Except.ok hwith, congrArg Except.ok hwithout⟩

theorem loses_constructor (d : Docs) {c : Class} (h : c.constructor = some []) :
    Loses "" ("\n---@overload fun(): " ++ c.name) ("\n" ++ c.name ++ " = \x7b\x7d") (classText d c)
      (classText d { c with constructor := none }) := by
  have hself : { c with constructor := some [] } = c := by rw [← h]
  have hpresent : Naming.printed.constructorText c = "\n---@overload fun(): " ++ c.name := by
    unfold Naming.constructorText
    rw [h]
    rfl
  have habsent : Naming.printed.constructorText { c with constructor := none } = "" := rfl
  refine loses_of_blockText rfl (fun events => ?_)
  obtain ⟨front, back, hblock⟩ := blockText_constructor c events
  have hwith := hblock (some [])
  have hwithout := hblock none
  rw [hself, hpresent] at hwith
  rw [habsent] at hwithout
  exact ⟨front, back, by rw [hwith, String.append_empty], hwithout⟩

theorem loses_inheritance (d : Docs) {c : Class} (h : c.inheritance = some []) :
    Loses ("\n---@class " ++ c.name) " : " "" (classText d c)
      (classText d { c with inheritance := none }) := by
  have hself : { c with inheritance := some [] } = c := by rw [← h]
  have hpresent : parentList c = " : " := by
    unfold parentList
    rw [h]
    rfl
  have habsent : parentList { c with inheritance := none } = "" := rfl
  have hevents : d.eventsOf { c with inheritance := none } = d.eventsOf c := by
    have hparents : c.parents = [] := by rw [Class.parents, h]; rfl
    rw [Docs.eventsOf, Docs.eventsOf, hparents]
    rfl
  refine loses_of_blockText hevents (fun events => ?_)
  obtain ⟨front, back, hblock⟩ := blockText_inheritance c events
  have hwith := hblock (some [])
  have hwithout := hblock none
  rw [hself, hpresent] at hwith
  rw [habsent] at hwithout
  exact ⟨front, back, by rw [hwith, String.append_empty], hwithout⟩

/-- Empty lists of functions, events, properties and parameters can be left out of a class: no block
changes, that of the class itself included.  Without an empty constructor the class loses the line of
that constructor, and without an empty list of parents the mark in front of them; no other block changes
with it. -/
theorem omission_affects (d : Docs) (c : Class) :
    (∀ c', c'.trimmed = c.trimmed → SameBlocks d c c' ∧ classText d c' = classText d c) ∧
    (c.constructor = some [] → SameBlocks d c { c with constructor := none } ∧
      Loses "" ("\n---@overload fun(): " ++ c.name) ("\n" ++ c.name ++ " = \x7b\x7d")
        (classText d c) (classText d { c with constructor := none })) ∧
    (c.inheritance = some [] → SameBlocks d c { c with inheritance := none } ∧
      Loses ("\n---@class " ++ c.name) " : " ""
        (classText d c) (classText d { c with inheritance := none })) := by
  refine ⟨fun c' htrimmed => ⟨?_, ?_⟩, fun hctor => ⟨?_, loses_constructor d hctor⟩,
    fun hparents => ⟨?_, loses_inheritance d hparents⟩⟩
  · have hname : c'.name = c.name := by
      show c'.trimmed.name = c.trimmed.name
      rw [htrimmed]
    have hown : c'.ownEvents = c.ownEvents := by
      rw [← c'.ownEvents_trimmed, htrimmed, c.ownEvents_trimmed]
    exact sameBlocks_of_outline d (Prod.ext hname hown)
  · rw [← classText_trimmed d c', htrimmed, classText_trimmed]
  · exact sameBlocks_of_outline d rfl
  · exact sameBlocks_of_outline d rfl

/-- A class with a function, and with these lists of parameters, of parents and for its constructor; the
others are there and empty or are not there. -/
def hollow (parameters constructor : Option (List Parameter)) (parents : Option (List String))
    (functions : Option (List Function)) (events : Option (List Event)) : Class :=
  ⟨"A", .both, parents, constructor, some [⟨"Play", .both, parameters, none, ⟨none, none⟩⟩],
    functions, events, none, false, ⟨none, none⟩⟩

/-- The class and a child of it. -/
def family (c : Class) : Docs :=
  ⟨[⟨"B", .both, some ["A"], none, none, none, none, none, true, ⟨none, none⟩⟩, c], []⟩

theorem omission_affects_sample :
    let c := hollow (some []) (some []) (some []) (some []) (some [])
    let listless := hollow none (some []) (some []) none none
    let unbuilt := hollow (some []) none (some []) (some []) (some [])
    let orphan := hollow (some []) (some []) none (some []) (some [])
    ((family c).classes[1]? = some c ∧ c.constructor = some [] ∧ c.inheritance = some [] ∧
      listless.trimmed = c.trimmed) ∧
    (∀ x, classText ((family c).set 1 listless) x = classText (family c) x ∧
      classText ((family c).set 1 unbuilt) x = classText (family c) x ∧
      classText ((family c).set 1 orphan) x = classText (family c) x) ∧
    classText (family c) listless = classText (family c) c ∧
    Loses "" "\n---@overload fun(): A" "\nA = \x7b\x7d" (classText (family c) c)
      (classText (family c) unbuilt) ∧
    Loses "\n---@class A" " : " "" (classText (family c) c) (classText (family c) orphan) := by
  intro c listless unbuilt orphan
  have hc : (family c).classes[1]? = some c := rfl
  have htrimmed : listless.trimmed = c.trimmed := rfl
  obtain ⟨hlists, hctor, hparents⟩ := omission_affects (family c) c
  obtain ⟨hothers, hown⟩ := hlists listless htrimmed
  obtain ⟨hwithoutCtor, hline⟩ := hctor rfl
  obtain ⟨hwithoutParents, hmark⟩ := hparents rfl
  exact ⟨⟨hc, rfl, rfl, htrimmed⟩,
    fun x => ⟨hothers 1 hc x, hwithoutCtor 1 hc x, hwithoutParents 1 hc x⟩, hown, hline, hmark⟩

/-- A class without anything but these parents. -/
def parented (parents : Option (List String)) : Class :=
  ⟨"A", .both, parents, none, none, none, none, none, false, ⟨none, none⟩⟩

/-- An empty list of parents leaves its mark behind the name of the class. -/
theorem empty_parents_written :
    let d : Docs := ⟨[parented (some [])], []⟩
    classText (d.set 0 (parented none)) (parented none) ≠ classText d (parented (some [])) ∧
    classBlock d (parented (some [])) = .ok [.blank, .comment (badge .both), .comment "", .comment "",
      .tag "class" "A : ", .code "A = \x7b\x7d"] ∧
    classBlock (d.set 0 (parented none)) (parented none) = .ok [.blank, .comment (badge .both),
      .comment "", .comment "", .tag "class" "A", .code "A = \x7b\x7d"] :=
  ⟨by decide +kernel, rfl, rfl⟩

end Lua

end LuaStubs
