import LuaStubs.Proofs.Descriptor.Canonical
import LuaStubs.Proofs.Json.Reading
import LuaStubs.Descriptor.Encode

/-! What is written for a descriptor has its schema. -/
namespace LuaStubs

open Json (Legible Schema Unrepeated memberOf listOf value?)

namespace Json

variable {α : Type}

@[simp] theorem value?_nil (name : String) : value? name [] = none := rfl

@[simp] theorem value?_cons (name k : String) (j : Json) (members : List (String × Json)) :
    value? name ((k, j) :: members) = if k = name then some j else value? name members := by
  by_cases h : k = name <;> simp [value?, Keyed.get?, h]

@[simp] theorem value?_append (name : String) (xs ys : List (String × Json)) :
    value? name (xs ++ ys) = (value? name xs).or (value? name ys) := by
  induction xs with
  | nil => rfl
  | cons m xs ih =>
    obtain ⟨k, j⟩ := m
    rw [List.cons_append, value?_cons, value?_cons, ih]
    by_cases h : k = name <;> simp [h]

@[simp] theorem value?_memberOf (name k : String) (f : α → Json) (o : Option α) :
    value? name (memberOf k f o) = if k = name then o.map f else none := by
  cases o <;> simp [memberOf]

theorem sublist_memberOf (k : String) (f : α → Json) (o : Option α) :
    ((memberOf k f o).map Prod.fst).Sublist [k] := by
  cases o <;> simp [memberOf]

theorem Legible.memberOf {n : Nat} {k : String} {f : α → Json} {o : Option α}
    (h : ∀ a ∈ o, Legible n (f a)) : ∀ m ∈ Json.memberOf k f o, Legible n m.2 := by
  cases o with
  | none => simp [Json.memberOf]
  | some a => simpa [Json.memberOf] using h

theorem Legible.listOf {n : Nat} {f : α → Json} {xs : List α} (h : ∀ a ∈ xs, Legible n (f a)) :
    Legible (n + 1) (Json.listOf f xs) :=
  .array (List.forall_mem_map.mpr h)

theorem Schema.list_listOf {g : Schema α} {f : α → Json} {xs : List α}
    (h : ∀ a ∈ xs, g (f a) = some a) : Schema.list g (listOf f xs) = some xs := by
  refine mapM_eq_some.mpr ?_
  induction xs with
  | nil => exact .nil
  | cons a xs ih =>
    exact .cons (h a List.mem_cons_self) (ih (fun b hb => h b (List.mem_cons_of_mem _ hb)))

/-- A member that is left out when there is nothing to write. -/
theorem Schema.optional_of_value? {name : String} {g : Schema α} {f : α → Json} {o : Option α}
    {members : List (String × Json)} (hvalue : value? name members = o.map f)
    (hg : ∀ a ∈ o, g (f a) = some a) (hnull : ∀ a, f a ≠ .null) :
    Schema.optional name g members = some o := by
  rw [Schema.optional, Schema.withDefault, hvalue]
  cases o with
  | none => rfl
  | some a =>
    have ha := hg a rfl
    simp only [Option.map_some]
    cases hj : f a with
    | null => exact absurd hj (hnull a)
    | _ =>
      rw [hj] at ha
      simp [Schema.nullable, ha]

theorem Schema.required_string {name s : String} {members : List (String × Json)}
    (hvalue : value? name members = some (.string s)) :
    Schema.required name Schema.string members = some s := by
  rw [Schema.required, hvalue]
  rfl

theorem Schema.optional_string {name : String} {o : Option String} {members : List (String × Json)}
    (hvalue : value? name members = o.map .string) :
    Schema.optional name Schema.string members = some o :=
  Schema.optional_of_value? hvalue (fun _ _ => rfl) (fun _ => nofun)

theorem Schema.optional_listOf {name : String} {g : Schema α} {f : α → Json} {o : Option (List α)}
    {members : List (String × Json)} (hvalue : value? name members = o.map (listOf f))
    (hg : ∀ xs ∈ o, ∀ a ∈ xs, g (f a) = some a) :
    Schema.optional name (Schema.list g) members = some o :=
  Schema.optional_of_value? hvalue (fun xs hxs => Schema.list_listOf (hg xs hxs)) (fun _ => nofun)

end Json

namespace Description

theorem schema_of_value? {d : Description} {members : List (String × Json)}
    (hnodup : (members.map Prod.fst).Nodup)
    (hshort : value? "description" members = d.short.map .string)
    (hlong : value? "description_long" members = d.long.map .string) :
    schema members = some d := by
  rw [schema, if_pos (Json.unrepeated_of_nodup names hnodup), Json.Schema.optional_string hshort,
    Json.Schema.optional_string hlong]
  rfl

theorem sublist_members (d : Description) : (d.members.map Prod.fst).Sublist names := by
  rw [members, List.map_append]
  exact (Json.sublist_memberOf _ _ _).append (Json.sublist_memberOf _ _ _)

theorem legible_members (n : Nat) (d : Description) : ∀ m ∈ d.members, Legible n m.2 :=
  List.forall_mem_append.mpr
    ⟨Legible.memberOf (fun s _ => .string n s), Legible.memberOf (fun s _ => .string n s)⟩

@[simp] theorem value?_members (d : Description) (name : String) :
    value? name d.members =
      (if "description" = name then d.short.map .string else none).or
        (if "description_long" = name then d.long.map .string else none) := by
  simp [members]

end Description

/-! ## Parameters -/

namespace Parameter

/-- The members that are written. -/
def members (p : Parameter) : List (String × Json) :=
  [("name", .string p.name), ("type", .string p.type)] ++ memberOf "default" .string p.default ++
    p.doc.members

theorem toJson_eq (p : Parameter) : p.toJson = .object p.members := rfl

theorem nodup_members (p : Parameter) : (p.members.map Prod.fst).Nodup := by
  have hsub := ((List.Sublist.refl ["name", "type"]).append
    (Json.sublist_memberOf "default" Json.string p.default)).append p.doc.sublist_members
  rw [members, List.map_append, List.map_append]
  exact hsub.nodup (by decide)

theorem schema_toJson (p : Parameter) : schema p.toJson = some p := by
  have hname : Schema.required "name" Schema.string p.members = some p.name :=
    Schema.required_string (by simp [members])
  have htype : Schema.required "type" Schema.string p.members = some p.type :=
    Schema.required_string (by simp [members])
  have hdefault : Schema.optional "default" Schema.string p.members = some p.default :=
    Schema.optional_string (by simp [members])
  have hdoc : Description.schema p.members = some p.doc :=
    Description.schema_of_value? p.nodup_members (by simp [members]) (by simp [members])
  rw [toJson_eq]
  refine Schema.object_eq_some.mpr ⟨Json.unrepeated_of_nodup _ p.nodup_members, ?_⟩
  rw [hname, htype, hdefault, hdoc]
  rfl

theorem legible_toJson (n : Nat) (p : Parameter) : Legible (n + 1) p.toJson := by
  rw [toJson_eq]
  refine .object ?_
  simp only [members, List.forall_mem_append]
  refine ⟨⟨?_, Legible.memberOf (fun s _ => .string n s)⟩, p.doc.legible_members n⟩
  simp [Legible.string]

end Parameter

/-! ## Parts of a class -/

namespace Return

def members (r : Return) : List (String × Json) := ("type", .string r.type) :: r.doc.members

theorem toJson_eq (r : Return) : r.toJson = .object r.members := rfl

theorem nodup_members (r : Return) : (r.members.map Prod.fst).Nodup := by
  have hsub := r.doc.sublist_members.cons_cons "type"
  exact hsub.nodup (by decide)

theorem schema_toJson (r : Return) : schema r.toJson = some r := by
  have htype : Schema.required "type" Schema.string r.members = some r.type :=
    Schema.required_string (by simp [members])
  have hdoc : Description.schema r.members = some r.doc :=
    Description.schema_of_value? r.nodup_members (by simp [members]) (by simp [members])
  rw [toJson_eq]
  refine Schema.object_eq_some.mpr ⟨Json.unrepeated_of_nodup _ r.nodup_members, ?_⟩
  rw [htype, hdoc]
  rfl

theorem legible_toJson (n : Nat) (r : Return) : Legible (n + 1) r.toJson := by
  rw [toJson_eq]
  exact .object (List.forall_mem_cons.mpr ⟨.string n r.type, r.doc.legible_members n⟩)

end Return

namespace Property

def members (p : Property) : List (String × Json) :=
  [("name", .string p.name), ("type", .string p.type)] ++ p.doc.members

theorem toJson_eq (p : Property) : p.toJson = .object p.members := rfl

theorem nodup_members (p : Property) : (p.members.map Prod.fst).Nodup := by
  have hsub := (List.Sublist.refl ["name", "type"]).append p.doc.sublist_members
  rw [members, List.map_append]
  exact hsub.nodup (by decide)

theorem schema_toJson (p : Property) : schema p.toJson = some p := by
  have hname : Schema.required "name" Schema.string p.members = some p.name :=
    Schema.required_string (by simp [members])
  have htype : Schema.required "type" Schema.string p.members = some p.type :=
    Schema.required_string (by simp [members])
  have hdoc : Description.schema p.members = some p.doc :=
    Description.schema_of_value? p.nodup_members (by simp [members]) (by simp [members])
  rw [toJson_eq]
  refine Schema.object_eq_some.mpr ⟨Json.unrepeated_of_nodup _ p.nodup_members, ?_⟩
  rw [hname, htype, hdoc]
  rfl

theorem legible_toJson (n : Nat) (p : Property) : Legible (n + 1) p.toJson := by
  rw [toJson_eq]
  refine .object (List.forall_mem_append.mpr ⟨?_, p.doc.legible_members n⟩)
  simp [Legible.string]

end Property

namespace Event

def members (e : Event) : List (String × Json) :=
  [("name", .string e.name), ("arguments", listOf Parameter.toJson e.arguments)] ++ e.doc.members

theorem toJson_eq (e : Event) : e.toJson = .object e.members := rfl

theorem nodup_members (e : Event) : (e.members.map Prod.fst).Nodup := by
  have hsub := (List.Sublist.refl ["name", "arguments"]).append e.doc.sublist_members
  rw [members, List.map_append]
  exact hsub.nodup (by decide)

theorem schema_toJson (e : Event) : schema e.toJson = some e := by
  have hname : Schema.required "name" Schema.string e.members = some e.name :=
    Schema.required_string (by simp [members])
  have harguments : Schema.withDefault "arguments" (Schema.list Parameter.schema) [] e.members =
      some e.arguments := by
    simp [Schema.withDefault, members, Schema.list_listOf (fun p _ => Parameter.schema_toJson p)]
  have hdoc : Description.schema e.members = some e.doc :=
    Description.schema_of_value? e.nodup_members (by simp [members]) (by simp [members])
  rw [toJson_eq]
  refine Schema.object_eq_some.mpr ⟨Json.unrepeated_of_nodup _ e.nodup_members, ?_⟩
  rw [hname, harguments, hdoc]
  rfl

theorem legible_toJson (n : Nat) (e : Event) : Legible (n + 3) e.toJson := by
  rw [toJson_eq]
  refine .object (List.forall_mem_append.mpr ⟨?_, e.doc.legible_members (n + 2)⟩)
  have harguments : Legible (n + 2) (listOf Parameter.toJson e.arguments) :=
    Legible.listOf (fun p _ => p.legible_toJson n)
  simp [Legible.string, harguments]

end Event

theorem Authority.schema_toJson {a : Authority} (h : a.IsCanonical) : schema a.toJson = some a :=
  congrArg some h

namespace Function

def members (f : Function) : List (String × Json) :=
  [("name", .string f.name), ("authority", f.authority.toJson)] ++
    memberOf "parameters" (listOf Parameter.toJson) f.parameters ++
    memberOf "return" Return.toJson f.result ++ f.doc.members

theorem toJson_eq (f : Function) : f.toJson = .object f.members := rfl

theorem nodup_members (f : Function) : (f.members.map Prod.fst).Nodup := by
  have hsub := (((List.Sublist.refl ["name", "authority"]).append
    (Json.sublist_memberOf "parameters" (listOf Parameter.toJson) f.parameters)).append
    (Json.sublist_memberOf "return" Return.toJson f.result)).append f.doc.sublist_members
  simp only [members, List.map_append]
  exact hsub.nodup (by decide)

theorem schema_toJson {f : Function} (h : f.authority.IsCanonical) : schema f.toJson = some f := by
  have hname : Schema.required "name" Schema.string f.members = some f.name :=
    Schema.required_string (by simp [members])
  have hside : Schema.withDefault "authority" Authority.schema .both f.members =
      some f.authority := by
    simp [Schema.withDefault, members, Authority.schema_toJson h]
  have hparameters : Schema.optional "parameters" (Schema.list Parameter.schema) f.members =
      some f.parameters :=
    Schema.optional_listOf (by simp [members]) (fun _ _ p _ => p.schema_toJson)
  have hresult : Schema.optional "return" Return.schema f.members = some f.result :=
    Schema.optional_of_value? (by simp [members]) (fun r _ => r.schema_toJson)
      (fun _ h => by cases h)
  have hdoc : Description.schema f.members = some f.doc :=
    Description.schema_of_value? f.nodup_members (by simp [members]) (by simp [members])
  rw [toJson_eq]
  refine Schema.object_eq_some.mpr ⟨Json.unrepeated_of_nodup _ f.nodup_members, ?_⟩
  rw [hname, hside, hparameters, hresult, hdoc]
  rfl

theorem legible_toJson (n : Nat) (f : Function) : Legible (n + 3) f.toJson := by
  rw [toJson_eq]
  refine .object ?_
  simp only [members, List.forall_mem_append]
  refine ⟨⟨⟨?_, Legible.memberOf (fun ps _ => Legible.listOf (fun p _ => p.legible_toJson n))⟩,
    Legible.memberOf (fun r _ => r.legible_toJson (n + 1))⟩, f.doc.legible_members (n + 2)⟩
  simp [Legible.string, Authority.toJson]

end Function

/-! ## Classes -/

namespace Class

def members (c : Class) : List (String × Json) :=
  [("name", .string c.name), ("authority", c.authority.toJson)] ++
    memberOf "inheritance" (listOf .string) c.inheritance ++
    memberOf "constructor" (listOf Parameter.toJson) c.constructor ++
    memberOf "static_functions" (listOf Function.toJson) c.staticFunctions ++
    memberOf "functions" (listOf Function.toJson) c.functions ++
    memberOf "events" (listOf Event.toJson) c.events ++
    memberOf "properties" (listOf Property.toJson) c.properties ++
    [("static_class", .bool c.isStatic)] ++ c.doc.members

theorem toJson_eq (c : Class) : c.toJson = .object c.members := rfl

theorem nodup_members (c : Class) : (c.members.map Prod.fst).Nodup := by
  have hsub := ((((((((List.Sublist.refl ["name", "authority"]).append
    (Json.sublist_memberOf "inheritance" (listOf Json.string) c.inheritance)).append
    (Json.sublist_memberOf "constructor" (listOf Parameter.toJson) c.constructor)).append
    (Json.sublist_memberOf "static_functions" (listOf Function.toJson) c.staticFunctions)).append
    (Json.sublist_memberOf "functions" (listOf Function.toJson) c.functions)).append
    (Json.sublist_memberOf "events" (listOf Event.toJson) c.events)).append
    (Json.sublist_memberOf "properties" (listOf Property.toJson) c.properties)).append
    (List.Sublist.refl ["static_class"])).append c.doc.sublist_members
  simp only [members, List.map_append]
  exact hsub.nodup (by decide)

/-- Whether a class is static is written, but not part of what is read. -/
theorem schema_toJson {c : Class} (h : c.IsCanonical) :
    schema c.toJson = some { c with isStatic := false } := by
  have hname : Schema.required "name" Schema.string c.members = some c.name :=
    Schema.required_string (by simp [members])
  have hside : Schema.withDefault "authority" Authority.schema .both c.members =
      some c.authority := by
    simp [Schema.withDefault, members, Authority.schema_toJson h.authority]
  have hinheritance : Schema.optional "inheritance" (Schema.list Schema.string) c.members =
      some c.inheritance :=
    Schema.optional_listOf (f := .string) (by simp [members]) (fun _ _ _ _ => rfl)
  have hconstructor : Schema.optional "constructor" (Schema.list Parameter.schema) c.members =
      some c.constructor :=
    Schema.optional_listOf (by simp [members]) (fun _ _ p _ => p.schema_toJson)
  have hstatic : Schema.optional "static_functions" (Schema.list Function.schema) c.members =
      some c.staticFunctions :=
    Schema.optional_listOf (by simp [members])
      (fun fs hfs f hf => Function.schema_toJson (h.staticFunctions fs hfs f hf))
  have hfunctions : Schema.optional "functions" (Schema.list Function.schema) c.members =
      some c.functions :=
    Schema.optional_listOf (by simp [members])
      (fun fs hfs f hf => Function.schema_toJson (h.functions fs hfs f hf))
  have hevents : Schema.optional "events" (Schema.list Event.schema) c.members = some c.events :=
    Schema.optional_listOf (by simp [members]) (fun _ _ e _ => e.schema_toJson)
  have hproperties : Schema.optional "properties" (Schema.list Property.schema) c.members =
      some c.properties :=
    Schema.optional_listOf (by simp [members]) (fun _ _ p _ => p.schema_toJson)
  have hdoc : Description.schema c.members = some c.doc :=
    Description.schema_of_value? c.nodup_members (by simp [members]) (by simp [members])
  rw [toJson_eq]
  refine Schema.object_eq_some.mpr ⟨Json.unrepeated_of_nodup _ c.nodup_members, ?_⟩
  rw [hname, hside, hinheritance, hconstructor, hstatic, hfunctions, hevents, hproperties, hdoc]
  rfl

theorem member?_toJson_static (c : Class) :
    c.toJson.member? "static_class" = some (.bool c.isStatic) := by
  rw [toJson_eq]
  show value? "static_class" c.members = _
  simp [members]

theorem legible_toJson (n : Nat) (c : Class) : Legible (n + 5) c.toJson := by
  have hfunctions {o : Option (List Function)} {name : String} :
      ∀ m ∈ memberOf name (listOf Function.toJson) o, Legible (n + 4) m.2 :=
    Legible.memberOf (fun fs _ => Legible.listOf (fun f _ => f.legible_toJson n))
  rw [toJson_eq]
  refine .object ?_
  simp only [members, List.forall_mem_append]
  refine ⟨⟨⟨⟨⟨⟨⟨⟨?_, ?_⟩, ?_⟩, hfunctions⟩, hfunctions⟩, ?_⟩, ?_⟩, ?_⟩,
    c.doc.legible_members (n + 4)⟩
  · simp [Legible.string, Authority.toJson]
  · exact Legible.memberOf (fun names _ => Legible.listOf (fun name _ => .string (n + 3) name))
  · exact Legible.memberOf (fun ps _ => Legible.listOf (fun p _ => p.legible_toJson (n + 2)))
  · exact Legible.memberOf (fun es _ => Legible.listOf (fun e _ => e.legible_toJson n))
  · exact Legible.memberOf (fun ps _ => Legible.listOf (fun p _ => p.legible_toJson (n + 2)))
  · simp [Legible.bool]

end Class

end LuaStubs
