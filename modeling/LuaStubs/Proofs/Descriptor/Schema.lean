import LuaStubs.Proofs.Json.Fields
import LuaStubs.Descriptor.Decode

/-! The values that descriptors are read from. -/
namespace LuaStubs

open Json (Cause Decoder Fields MemberSchema Schema Unrepeated unasked)

namespace Description

def names : List String := ["description", "description_long"]

/-- The two descriptions stand among the members of what they describe. -/
def schema : MemberSchema Description := fun members =>
  if Unrepeated names members then do
    let short ← Schema.optional "description" Schema.string members
    let long ← Schema.optional "description_long" Schema.string members
    return ⟨short, long⟩
  else none

end Description

def Authority.schema : Schema Authority := fun j => (Schema.string j).map Authority.ofName

def Parameter.schema : Schema Parameter :=
  Schema.object ["name", "type", "default"] (fun members => do
    let name ← Schema.required "name" Schema.string members
    let type ← Schema.required "type" Schema.string members
    let default ← Schema.optional "default" Schema.string members
    let doc ← Description.schema members
    return ⟨name, type, default, doc⟩)

def Return.schema : Schema Return :=
  Schema.object ["type"] (fun members => do
    let type ← Schema.required "type" Schema.string members
    let doc ← Description.schema members
    return ⟨type, doc⟩)

def Function.schema : Schema Function :=
  Schema.object ["name", "authority", "parameters", "return"] (fun members => do
    let name ← Schema.required "name" Schema.string members
    let side ← Schema.withDefault "authority" Authority.schema .both members
    let parameters ← Schema.optional "parameters" (Schema.list Parameter.schema) members
    let result ← Schema.optional "return" Return.schema members
    let doc ← Description.schema members
    return ⟨name, side, parameters, result, doc⟩)

def Property.schema : Schema Property :=
  Schema.object ["name", "type"] (fun members => do
    let name ← Schema.required "name" Schema.string members
    let type ← Schema.required "type" Schema.string members
    let doc ← Description.schema members
    return ⟨name, type, doc⟩)

def Event.schema : Schema Event :=
  Schema.object ["name", "arguments"] (fun members => do
    let name ← Schema.required "name" Schema.string members
    let arguments ← Schema.withDefault "arguments" (Schema.list Parameter.schema) [] members
    let doc ← Description.schema members
    return ⟨name, arguments, doc⟩)

def Class.schema : Schema Class :=
  Schema.object ["name", "authority", "inheritance", "constructor", "static_functions", "functions",
    "events", "properties"] (fun members => do
      let name ← Schema.required "name" Schema.string members
      let side ← Schema.withDefault "authority" Authority.schema .both members
      let inheritance ← Schema.optional "inheritance" (Schema.list Schema.string) members
      let constructor ← Schema.optional "constructor" (Schema.list Parameter.schema) members
      let staticFunctions ←
        Schema.optional "static_functions" (Schema.list Function.schema) members
      let functions ← Schema.optional "functions" (Schema.list Function.schema) members
      let events ← Schema.optional "events" (Schema.list Event.schema) members
      let properties ← Schema.optional "properties" (Schema.list Property.schema) members
      let doc ← Description.schema members
      return ⟨name, side, inheritance, constructor, staticFunctions, functions, events,
        properties, false, doc⟩)

/-! ## Descriptions -/

namespace Description

/-- The members of one name. -/
def named (name : String) (members : List (String × Json)) : List (String × Json) :=
  members.filter (fun m => m.1 = name)

/-- The text of a description: seen before, or in the one member of its name, or absent. -/
def Picks (seen : Option (Option String)) (found : List (String × Json)) (s : Option String) :
    Prop :=
  match seen, found with
  | some s', [] => s = s'
  | none, [] => s = none
  | none, [m] => text? m.2 = .ok s
  | _, _ => False

theorem picks_cons {seen : Option (Option String)} {m : String × Json}
    {found : List (String × Json)} {s : Option String} :
    Picks seen (m :: found) s ↔ seen = none ∧ ∃ s', text? m.2 = .ok s' ∧ Picks (some s') found s := by
  cases seen <;> cases found <;> simp [Picks, eq_comm]

theorem named_cons (name : String) (m : String × Json) (members : List (String × Json)) :
    named name (m :: members) = if m.1 = name then m :: named name members else named name members := by
  simp [named, List.filter_cons]

theorem gather_eq_ok {short long : Option (Option String)} {members : List (String × Json)}
    {d : Description} :
    gather short long members = .ok d ↔
      Picks short (named "description" members) d.short ∧
        Picks long (named "description_long" members) d.long := by
  induction members generalizing short long with
  | nil =>
    obtain ⟨s, l⟩ := d
    cases short <;> cases long <;> simp [gather, named, Picks, eq_comm]
  | cons m members ih =>
    obtain ⟨name, j⟩ := m
    rw [named_cons, named_cons, gather]
    by_cases hs : name = "description"
    · subst hs
      simp only [String.reduceEq, if_true, if_false, picks_cons]
      cases short with
      | some s => simp
      | none =>
        constructor
        · intro h
          obtain ⟨s, hs, h⟩ := bind_eq_ok.mp h
          exact ⟨⟨rfl, s, hs, (ih.mp h).1⟩, (ih.mp h).2⟩
        · rintro ⟨⟨-, s, hs, hpick⟩, hlong⟩
          exact bind_eq_ok.mpr ⟨s, hs, ih.mpr ⟨hpick, hlong⟩⟩
    · simp only [hs, if_false]
      by_cases hl : name = "description_long"
      · subst hl
        simp only [if_true, picks_cons]
        cases long with
        | some l => simp
        | none =>
          constructor
          · intro h
            obtain ⟨l, hl, h⟩ := bind_eq_ok.mp h
            exact ⟨(ih.mp h).1, rfl, l, hl, (ih.mp h).2⟩
          · rintro ⟨hshort, -, l, hl, hpick⟩
            exact bind_eq_ok.mpr ⟨l, hl, ih.mpr ⟨hshort, hpick⟩⟩
      · simp only [hl, if_false]
        exact ih

theorem text?_eq_ok {j : Json} {s : Option String} :
    text? j = .ok s ↔ Schema.nullable Schema.string j = some s := by
  cases j <;> simp [text?, Schema.nullable, Schema.string, eq_comm]

/-- What is picked is what a member that may be `null` or absent says. -/
theorem picks_named {name : String} {members : List (String × Json)} {s : Option String} :
    Picks none (named name members) s ↔
      (members.map Prod.fst).count name ≤ 1 ∧
        Schema.optional name Schema.string members = some s := by
  have hcount : (members.map Prod.fst).count name = (named name members).length := by
    rw [named, List.count_eq_countP, List.countP_map, List.countP_eq_length_filter]
    congr 2
  have hvalue : Json.value? name members = (named name members).head?.map Prod.snd := by
    rw [Json.value?, Keyed.get?, named, List.head?_filter]
  rw [hcount, Schema.optional, Schema.withDefault, hvalue]
  cases named name members with
  | nil => simp [Picks, eq_comm]
  | cons m found =>
    cases found with
    | nil => simp [Picks, text?_eq_ok]
    | cons m' rest => simp [Picks]

theorem gather_eq_schema {members : List (String × Json)} {d : Description} :
    gather none none members = .ok d ↔ schema members = some d := by
  rw [gather_eq_ok, picks_named, picks_named]
  by_cases h : Unrepeated names members
  · have hshort := h "description" (by decide)
    have hlong := h "description_long" (by decide)
    rw [schema, if_pos h]
    constructor
    · rintro ⟨⟨-, hs⟩, -, hl⟩
      rw [hs, hl]
      rfl
    · intro hd
      obtain ⟨s, hs, hd⟩ := Option.bind_eq_some_iff.mp hd
      obtain ⟨l, hl, hd⟩ := Option.bind_eq_some_iff.mp hd
      cases hd
      exact ⟨⟨hshort, hs⟩, hlong, hl⟩
  · rw [schema, if_neg h]
    refine ⟨fun ⟨⟨hshort, _⟩, hlong, _⟩ => absurd ?_ h, fun hd => nomatch hd⟩
    intro name hname
    rcases List.mem_cons.mp hname with rfl | hname
    · exact hshort
    · rw [List.mem_singleton.mp hname]
      exact hlong

theorem named_unasked {names : List String} {name : String} (h : name ∉ names)
    (members : List (String × Json)) : named name (unasked names members) = named name members := by
  rw [named, named, unasked, List.filter_filter]
  congr 1
  funext m
  by_cases hm : m.1 = name
  · simp [hm, h]
  · simp [hm]

variable {names : List String} (hshort : "description" ∉ names) (hlong : "description_long" ∉ names)
include hshort hlong

theorem gather_unasked {members : List (String × Json)} {d : Description} :
    gather none none (unasked names members) = .ok d ↔ schema members = some d := by
  rw [gather_eq_ok, named_unasked hshort, named_unasked hlong, ← gather_eq_ok, gather_eq_schema]

theorem reads_fields : fields.Reads true names schema where
  check s hs := by cases hs
  read hr hd := by
    simp only [fields, hr.others rfl]
    exact mapError_eq_ok.mpr ((gather_unasked hshort hlong).mpr hd)

theorem sound_fields : fields.Sound names schema where
  check s hs := by cases hs
  read hr hd := by
    simp only [fields, hr.others rfl] at hd
    exact (gather_unasked hshort hlong).mp (mapError_eq_ok.mp hd)

theorem denotes_fields : fields.Denotes names schema :=
  ⟨reads_fields hshort hlong, sound_fields hshort hlong⟩

end Description

/-! ## Decoders -/

theorem Authority.denotes_decoder : Authority.decoder.Denotes Authority.schema :=
  Decoder.denotes_string.map Authority.ofName

theorem Parameter.denotes_decoder : Parameter.decoder.Denotes Parameter.schema := by
  refine Fields.Denotes.decoder (.congr (.apply (.apply (.apply (.map Parameter.mk
    (Fields.denotes_required ?_ Decoder.denotes_string))
    (Fields.denotes_required ?_ Decoder.denotes_string))
    (Fields.denotes_optional ?_ Decoder.denotes_string))
    (Description.denotes_fields ?_ ?_)) ?_) "Parameter"
  case refine_6 =>
    intro members
    simp only [Option.map_eq_bind, Option.bind_assoc, Function.comp_apply, Option.bind_some]
    rfl
  all_goals decide

theorem Return.denotes_decoder : Return.decoder.Denotes Return.schema := by
  refine Fields.Denotes.decoder (.congr (.apply (.map Return.mk
    (Fields.denotes_required ?_ Decoder.denotes_string))
    (Description.denotes_fields ?_ ?_)) ?_) "Return"
  case refine_4 =>
    intro members
    simp only [Option.map_eq_bind, Option.bind_assoc, Function.comp_apply, Option.bind_some]
    rfl
  all_goals decide

theorem Function.denotes_decoder : Function.decoder.Denotes Function.schema := by
  refine Fields.Denotes.decoder (.congr (.apply (.apply (.apply (.apply (.map Function.mk
    (Fields.denotes_required ?_ Decoder.denotes_string))
    (Fields.denotes_withDefault ?_ Authority.denotes_decoder .both))
    (Fields.denotes_optional ?_ Parameter.denotes_decoder.list))
    (Fields.denotes_optional ?_ Return.denotes_decoder))
    (Description.denotes_fields ?_ ?_)) ?_) "Function"
  case refine_7 =>
    intro members
    simp only [Option.map_eq_bind, Option.bind_assoc, Function.comp_apply, Option.bind_some]
    rfl
  all_goals decide

theorem Property.denotes_decoder : Property.decoder.Denotes Property.schema := by
  refine Fields.Denotes.decoder (.congr (.apply (.apply (.map Property.mk
    (Fields.denotes_required ?_ Decoder.denotes_string))
    (Fields.denotes_required ?_ Decoder.denotes_string))
    (Description.denotes_fields ?_ ?_)) ?_) "Property"
  case refine_5 =>
    intro members
    simp only [Option.map_eq_bind, Option.bind_assoc, Function.comp_apply, Option.bind_some]
    rfl
  all_goals decide

theorem Event.denotes_decoder : Event.decoder.Denotes Event.schema := by
  refine Fields.Denotes.decoder (.congr (.apply (.apply (.map Event.mk
    (Fields.denotes_required ?_ Decoder.denotes_string))
    (Fields.denotes_withDefault ?_ Parameter.denotes_decoder.list []))
    (Description.denotes_fields ?_ ?_)) ?_) "Event"
  case refine_5 =>
    intro members
    simp only [Option.map_eq_bind, Option.bind_assoc, Function.comp_apply, Option.bind_some]
    rfl
  all_goals decide

theorem Class.denotes_decoder : Class.decoder.Denotes Class.schema := by
  refine Fields.Denotes.decoder (.congr (.apply (.apply (.apply (.apply (.apply (.apply (.apply (.apply
    (.apply (.map Class.mk
    (Fields.denotes_required ?_ Decoder.denotes_string))
    (Fields.denotes_withDefault ?_ Authority.denotes_decoder .both))
    (Fields.denotes_optional ?_ Decoder.denotes_string.list))
    (Fields.denotes_optional ?_ Parameter.denotes_decoder.list))
    (Fields.denotes_optional ?_ Function.denotes_decoder.list))
    (Fields.denotes_optional ?_ Function.denotes_decoder.list))
    (Fields.denotes_optional ?_ Event.denotes_decoder.list))
    (Fields.denotes_optional ?_ Property.denotes_decoder.list))
    (Fields.denotes_const false))
    (Description.denotes_fields ?_ ?_)) ?_) "Class"
  case refine_11 =>
    intro members
    simp only [Option.map_eq_bind, Option.bind_assoc, Function.comp_apply, Option.bind_some]
    rfl
  all_goals decide

end LuaStubs
