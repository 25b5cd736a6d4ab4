import LuaStubs.Proofs.Json.Parsing
import LuaStubs.Proofs.Descriptor.Schema

/-! Which texts are descriptors of classes, and what is read from them, in terms of the members of
objects: a member is there or not, and its value is of some kind. -/
namespace LuaStubs.Json

variable {α β γ : Type}

/-! ## Kinds of values -/

def IsString (j : Json) : Prop := ∃ s, j = .string s

def IsListOf (P : Json → Prop) (j : Json) : Prop := ∃ items, j = .array items ∧ ∀ i ∈ items, P i

def IsObjectOf (P : List (String × Json) → Prop) (j : Json) : Prop :=
  ∃ members, j = .object members ∧ P members

/-! What is read off a value of that kind. -/

def stringOff : Json → String
  | .string s => s
  | _ => ""

def listOff (r : Json → α) : Json → List α
  | .array items => items.map r
  | _ => []

def nullableOff (r : Json → α) : Json → Option α
  | .null => none
  | j => some (r j)

def objectOff (r : List (String × Json) → α) : Json → α
  | .object members => r members
  | _ => r []

/-! ## Members -/

/-- The member is there, and its value is of that kind. -/
def Requires (P : Json → Prop) (name : String) (members : List (String × Json)) : Prop :=
  ∃ j, value? name members = some j ∧ P j

/-- The member is absent, or its value is of that kind. -/
def MayLack (P : Json → Prop) (name : String) (members : List (String × Json)) : Prop :=
  ∀ j, value? name members = some j → P j

/-- The member is absent or `null`, or its value is of that kind. -/
def MayBeNull (P : Json → Prop) : String → List (String × Json) → Prop :=
  MayLack (fun j => j = .null ∨ P j)

def readOff (r : Json → α) (name : String) (members : List (String × Json)) : α :=
  r ((value? name members).getD .null)

def readOr (default : α) (r : Json → α) (name : String) (members : List (String × Json)) : α :=
  ((value? name members).map r).getD default

/-! ## Schemas in these terms -/

/-- It is defined where `P` holds, and its value there is the one that is read off. -/
def Tells (g : β → Option α) (P : β → Prop) (r : β → α) : Prop :=
  ∀ b a, g b = some a ↔ P b ∧ a = r b

theorem Tells.congr {g : β → Option α} {P Q : β → Prop} {r : β → α} (h : Tells g P r)
    (hPQ : ∀ b, P b ↔ Q b) : Tells g Q r :=
  fun b a => by rw [← hPQ b, h b a]

theorem tells_pure (a : α) : Tells (fun _ : β => some a) (fun _ => True) (fun _ => a) :=
  fun _ _ => by simp [eq_comm]

theorem Tells.map {g : β → Option α} {P : β → Prop} {r : β → α} (f : α → γ) (h : Tells g P r) :
    Tells (fun b => (g b).map f) P (fun b => f (r b)) := by
  intro b c
  constructor
  · intro hc
    obtain ⟨a, ha, rfl⟩ := Option.map_eq_some_iff.mp hc
    obtain ⟨hP, rfl⟩ := (h b a).mp ha
    exact ⟨hP, rfl⟩
  · rintro ⟨hP, rfl⟩
    simp only [(h b _).mpr ⟨hP, rfl⟩, Option.map_some]

theorem Tells.bind {g : β → Option α} {P : β → Prop} {r : β → α} {k : α → β → Option γ}
    {Q : β → Prop} {s : α → β → γ} (hg : Tells g P r) (hk : ∀ a, Tells (k a) Q (s a)) :
    Tells (fun b => g b >>= fun a => k a b) (fun b => P b ∧ Q b) (fun b => s (r b) b) := by
  intro b c
  constructor
  · intro hc
    obtain ⟨a, ha, hc⟩ := Option.bind_eq_some_iff.mp hc
    obtain ⟨hP, rfl⟩ := (hg b a).mp ha
    obtain ⟨hQ, rfl⟩ := (hk _ b c).mp hc
    exact ⟨⟨hP, hQ⟩, rfl⟩
  · rintro ⟨⟨hP, hQ⟩, rfl⟩
    exact Option.bind_eq_some_iff.mpr ⟨r b, (hg b _).mpr ⟨hP, rfl⟩, (hk _ b _).mpr ⟨hQ, rfl⟩⟩

namespace Schema

theorem tells_string : Tells string IsString stringOff := by
  intro j s
  cases j <;> simp [string, IsString, stringOff, eq_comm]

variable {g : Schema α} {P : Json → Prop} {r : Json → α}

theorem tells_list (h : Tells g P r) : Tells (list g) (IsListOf P) (listOff r) := by
  intro j xs
  cases j with
  | array items =>
    simp only [list, IsListOf, listOff, Json.array.injEq, exists_eq_left']
    rw [mapM_eq_some]
    induction items generalizing xs with
    | nil => simp
    | cons i items ih =>
      cases xs with
      | nil => simp
      | cons x xs =>
        rw [List.forall₂_cons, ih xs, h i x, List.forall_mem_cons, List.map_cons, List.cons.injEq]
        tauto
  | _ => simp [list, IsListOf]

theorem tells_object {names : List String} {g : MemberSchema α}
    {P Q : List (String × Json) → Prop} {r : List (String × Json) → α} (h : Tells g P r)
    (hQ : ∀ members, Unrepeated names members ∧ P members ↔ Q members) :
    Tells (object names g) (IsObjectOf Q) (objectOff r) := by
  intro j a
  cases j with
  | object members =>
    rw [object_eq_some, h members a, ← and_assoc, hQ]
    simp [IsObjectOf, objectOff]
  | _ => simp [object, IsObjectOf]

variable (name : String)

theorem tells_required (h : Tells g P r) :
    Tells (required name g) (Requires P name) (readOff r name) := by
  intro members a
  unfold required Requires readOff
  cases value? name members with
  | none => simp
  | some j => simpa using h j a

theorem tells_withDefault (h : Tells g P r) (default : α) :
    Tells (withDefault name g default) (MayLack P name) (readOr default r name) := by
  intro members a
  unfold withDefault MayLack readOr
  cases value? name members with
  | none => simp [eq_comm]
  | some j => simpa using h j a

theorem tells_nullable (h : Tells g P r) :
    Tells (nullable g) (fun j => j = .null ∨ P j) (nullableOff r) := by
  intro j o
  cases j with
  | null => simp [nullable, nullableOff, eq_comm]
  | _ =>
    simp only [nullable, nullableOff, reduceCtorEq, false_or]
    exact h.map some _ o

theorem tells_optional (h : Tells g P r) :
    Tells (optional name g) (MayBeNull P name) (readOr none (nullableOff r) name) :=
  tells_withDefault name (tells_nullable h) none

end Schema

end LuaStubs.Json

namespace LuaStubs

open Json

/-! ## Descriptors -/

/-- Neither description need be there. -/
structure Description.Allowed (members : List (String × Json)) : Prop where
  short : MayBeNull IsString "description" members
  long : MayBeNull IsString "description_long" members

structure Parameter.Allowed (members : List (String × Json)) : Prop where
  unrepeated : Unrepeated (["name", "type", "default"] ++ Description.names) members
  name : Requires IsString "name" members
  type : Requires IsString "type" members
  default : MayBeNull IsString "default" members
  doc : Description.Allowed members

structure Return.Allowed (members : List (String × Json)) : Prop where
  unrepeated : Unrepeated (["type"] ++ Description.names) members
  type : Requires IsString "type" members
  doc : Description.Allowed members

structure Function.Allowed (members : List (String × Json)) : Prop where
  unrepeated : Unrepeated (["name", "authority", "parameters", "return"] ++ Description.names) members
  name : Requires IsString "name" members
  authority : MayLack IsString "authority" members
  parameters : MayBeNull (IsListOf (IsObjectOf Parameter.Allowed)) "parameters" members
  result : MayBeNull (IsObjectOf Return.Allowed) "return" members
  doc : Description.Allowed members

structure Property.Allowed (members : List (String × Json)) : Prop where
  unrepeated : Unrepeated (["name", "type"] ++ Description.names) members
  name : Requires IsString "name" members
  type : Requires IsString "type" members
  doc : Description.Allowed members

/-- The arguments may be absent, but not `null`. -/
structure Event.Allowed (members : List (String × Json)) : Prop where
  unrepeated : Unrepeated (["name", "arguments"] ++ Description.names) members
  name : Requires IsString "name" members
  arguments : MayLack (IsListOf (IsObjectOf Parameter.Allowed)) "arguments" members
  doc : Description.Allowed members

structure Class.Allowed (members : List (String × Json)) : Prop where
  unrepeated : Unrepeated (["name", "authority", "inheritance", "constructor", "static_functions",
    "functions", "events", "properties"] ++ Description.names) members
  name : Requires IsString "name" members
  authority : MayLack IsString "authority" members
  inheritance : MayBeNull (IsListOf IsString) "inheritance" members
  constructor : MayBeNull (IsListOf (IsObjectOf Parameter.Allowed)) "constructor" members
  staticFunctions : MayBeNull (IsListOf (IsObjectOf Function.Allowed)) "static_functions" members
  functions : MayBeNull (IsListOf (IsObjectOf Function.Allowed)) "functions" members
  events : MayBeNull (IsListOf (IsObjectOf Event.Allowed)) "events" members
  properties : MayBeNull (IsListOf (IsObjectOf Property.Allowed)) "properties" members
  doc : Description.Allowed members

/-! ## What is read from them -/

def textOff (name : String) : List (String × Json) → Option String :=
  readOr none (nullableOff stringOff) name

def Description.off (members : List (String × Json)) : Description where
  short := textOff "description" members
  long := textOff "description_long" members

/-- A side that is not given is both sides. -/
def Authority.off : List (String × Json) → Authority :=
  readOr .both (fun j => Authority.ofName (stringOff j)) "authority"

def Parameter.off (members : List (String × Json)) : Parameter where
  name := readOff stringOff "name" members
  type := readOff stringOff "type" members
  default := textOff "default" members
  doc := Description.off members

def parametersOff (name : String) : List (String × Json) → Option (List Parameter) :=
  readOr none (nullableOff (listOff (objectOff Parameter.off))) name

def Return.off (members : List (String × Json)) : Return where
  type := readOff stringOff "type" members
  doc := Description.off members

def Function.off (members : List (String × Json)) : Function where
  name := readOff stringOff "name" members
  authority := Authority.off members
  parameters := parametersOff "parameters" members
  result := readOr none (nullableOff (objectOff Return.off)) "return" members
  doc := Description.off members

def functionsOff (name : String) : List (String × Json) → Option (List Function) :=
  readOr none (nullableOff (listOff (objectOff Function.off))) name

def Property.off (members : List (String × Json)) : Property where
  name := readOff stringOff "name" members
  type := readOff stringOff "type" members
  doc := Description.off members

def Event.off (members : List (String × Json)) : Event where
  name := readOff stringOff "name" members
  arguments := readOr [] (listOff (objectOff Parameter.off)) "arguments" members
  doc := Description.off members

/-- No descriptor says that its class is static. -/
def Class.off (members : List (String × Json)) : Class where
  name := readOff stringOff "name" members
  authority := Authority.off members
  inheritance := readOr none (nullableOff (listOff stringOff)) "inheritance" members
  constructor := parametersOff "constructor" members
  staticFunctions := functionsOff "static_functions" members
  functions := functionsOff "functions" members
  events := readOr none (nullableOff (listOff (objectOff Event.off))) "events" members
  properties := readOr none (nullableOff (listOff (objectOff Property.off))) "properties" members
  isStatic := false
  doc := Description.off members

/-! ## Schemas of descriptors -/

open Json.Schema

theorem unrepeated_append {names names' : List String} {members : List (String × Json)} :
    Unrepeated (names ++ names') members ↔ Unrepeated names members ∧ Unrepeated names' members :=
  List.forall_mem_append

theorem Description.tells_schema :
    Tells schema (fun members => Unrepeated names members ∧ Allowed members) off := by
  have hparts := (tells_optional "description" tells_string).bind fun short =>
    (tells_optional "description_long" tells_string).bind fun long =>
      tells_pure (⟨short, long⟩ : Description)
  intro members d
  by_cases hn : Unrepeated names members
  · rw [schema, if_pos hn]
    refine (hparts members d).trans ?_
    constructor
    · rintro ⟨⟨short, long, -⟩, rfl⟩
      exact ⟨⟨hn, short, long⟩, rfl⟩
    · rintro ⟨⟨-, h⟩, rfl⟩
      exact ⟨⟨h.short, h.long, trivial⟩, rfl⟩
  · simp [schema, hn]

theorem Authority.tells_schema :
    Tells schema IsString (fun j => Authority.ofName (stringOff j)) :=
  tells_string.map Authority.ofName

theorem Parameter.tells_schema : Tells schema (IsObjectOf Allowed) (objectOff off) := by
  refine tells_object ((tells_required "name" tells_string).bind fun name =>
    (tells_required "type" tells_string).bind fun type =>
    (tells_optional "default" tells_string).bind fun default =>
    Description.tells_schema.bind fun doc =>
    tells_pure (⟨name, type, default, doc⟩ : Parameter)) fun members => ?_
  constructor
  · rintro ⟨hn, name, type, default, ⟨hn', doc⟩, -⟩
    exact ⟨unrepeated_append.mpr ⟨hn, hn'⟩, name, type, default, doc⟩
  · intro h
    obtain ⟨hn, hn'⟩ := unrepeated_append.mp h.unrepeated
    exact ⟨hn, h.name, h.type, h.default, ⟨hn', h.doc⟩, trivial⟩

theorem Return.tells_schema : Tells schema (IsObjectOf Allowed) (objectOff off) := by
  refine tells_object ((tells_required "type" tells_string).bind fun type =>
    Description.tells_schema.bind fun doc => tells_pure (⟨type, doc⟩ : Return)) fun members => ?_
  constructor
  · rintro ⟨hn, type, ⟨hn', doc⟩, -⟩
    exact ⟨unrepeated_append.mpr ⟨hn, hn'⟩, type, doc⟩
  · intro h
    obtain ⟨hn, hn'⟩ := unrepeated_append.mp h.unrepeated
    exact ⟨hn, h.type, ⟨hn', h.doc⟩, trivial⟩

theorem Function.tells_schema : Tells schema (IsObjectOf Allowed) (objectOff off) := by
  refine tells_object ((tells_required "name" tells_string).bind fun name =>
    (tells_withDefault "authority" Authority.tells_schema .both).bind fun side =>
    (tells_optional "parameters" (tells_list Parameter.tells_schema)).bind fun parameters =>
    (tells_optional "return" Return.tells_schema).bind fun result =>
    Description.tells_schema.bind fun doc =>
    tells_pure (⟨name, side, parameters, result, doc⟩ : Function)) fun members => ?_
  constructor
  · rintro ⟨hn, name, authority, parameters, result, ⟨hn', doc⟩, -⟩
    exact ⟨unrepeated_append.mpr ⟨hn, hn'⟩, name, authority, parameters, result, doc⟩
  · intro h
    obtain ⟨hn, hn'⟩ := unrepeated_append.mp h.unrepeated
    exact ⟨hn, h.name, h.authority, h.parameters, h.result, ⟨hn', h.doc⟩, trivial⟩

theorem Property.tells_schema : Tells schema (IsObjectOf Allowed) (objectOff off) := by
  refine tells_object ((tells_required "name" tells_string).bind fun name =>
    (tells_required "type" tells_string).bind fun type =>
    Description.tells_schema.bind fun doc =>
    tells_pure (⟨name, type, doc⟩ : Property)) fun members => ?_
  constructor
  · rintro ⟨hn, name, type, ⟨hn', doc⟩, -⟩
    exact ⟨unrepeated_append.mpr ⟨hn, hn'⟩, name, type, doc⟩
  · intro h
    obtain ⟨hn, hn'⟩ := unrepeated_append.mp h.unrepeated
    exact ⟨hn, h.name, h.type, ⟨hn', h.doc⟩, trivial⟩

theorem Event.tells_schema : Tells schema (IsObjectOf Allowed) (objectOff off) := by
  refine tells_object ((tells_required "name" tells_string).bind fun name =>
    (tells_withDefault "arguments" (tells_list Parameter.tells_schema) []).bind fun arguments =>
    Description.tells_schema.bind fun doc =>
    tells_pure (⟨name, arguments, doc⟩ : Event)) fun members => ?_
  constructor
  · rintro ⟨hn, name, arguments, ⟨hn', doc⟩, -⟩
    exact ⟨unrepeated_append.mpr ⟨hn, hn'⟩, name, arguments, doc⟩
  · intro h
    obtain ⟨hn, hn'⟩ := unrepeated_append.mp h.unrepeated
    exact ⟨hn, h.name, h.arguments, ⟨hn', h.doc⟩, trivial⟩

theorem Class.tells_schema : Tells schema (IsObjectOf Allowed) (objectOff off) := by
  refine tells_object ((tells_required "name" tells_string).bind fun name =>
    (tells_withDefault "authority" Authority.tells_schema .both).bind fun side =>
    (tells_optional "inheritance" (tells_list tells_string)).bind fun inheritance =>
    (tells_optional "constructor" (tells_list Parameter.tells_schema)).bind fun constructor =>
    (tells_optional "static_functions" (tells_list Function.tells_schema)).bind fun statics =>
    (tells_optional "functions" (tells_list Function.tells_schema)).bind fun functions =>
    (tells_optional "events" (tells_list Event.tells_schema)).bind fun events =>
    (tells_optional "properties" (tells_list Property.tells_schema)).bind fun properties =>
    Description.tells_schema.bind fun doc =>
    tells_pure (⟨name, side, inheritance, constructor, statics, functions, events, properties,
      false, doc⟩ : Class)) fun members => ?_
  constructor
  · rintro ⟨hn, name, authority, inheritance, constructor, statics, functions, events, properties,
      ⟨hn', doc⟩, -⟩
    exact ⟨unrepeated_append.mpr ⟨hn, hn'⟩, name, authority, inheritance, constructor, statics,
      functions, events, properties, doc⟩
  · intro h
    obtain ⟨hn, hn'⟩ := unrepeated_append.mp h.unrepeated
    exact ⟨hn, h.name, h.authority, h.inheritance, h.constructor, h.staticFunctions, h.functions,
      h.events, h.properties, ⟨hn', h.doc⟩, trivial⟩

/-! ## Texts of classes -/

/-- A class is read from the texts of those objects that its descriptor may be, and from no other
text; it is the class that is read off their members. -/
theorem Class.decoder_run_eq_ok {text : String} {c : Class} :
    Class.decoder.run text = .ok c ↔
      ∃ members, IsText text (.object members) ∧ Class.Allowed members ∧ c = Class.off members := by
  rw [Decoder.run_eq_ok]
  constructor
  · rintro ⟨hc, hextra⟩
    obtain ⟨j, hfull, hj⟩ := Class.denotes_decoder.sound hc
    obtain ⟨⟨members, rfl, hallowed⟩, rfl⟩ := (Class.tells_schema j c).mp hj
    exact ⟨members, isText_of_ofText hfull hextra, hallowed, rfl⟩
  · rintro ⟨members, htext, hallowed, rfl⟩
    obtain ⟨t, ht, hfull⟩ := Document.ofText_of_isText htext
    have hc := (Class.tells_schema (.object members) _).mpr ⟨⟨members, rfl, hallowed⟩, rfl⟩
    rw [ht]
    exact ⟨Class.denotes_decoder.reads hfull hc, rfl⟩

end LuaStubs
