import LuaStubs.Proofs.Descriptor.Schema
import LuaStubs.Proofs.Repository.Collection

/-! What reading leaves in a certain form: a side that has a name of its own is not kept as an unknown
one, and the enums of a table have different names. -/
namespace LuaStubs

open Json (MemberSchema Schema value?)

/-- A side that has a name of its own is not kept as an unknown one. -/
def Authority.IsCanonical (a : Authority) : Prop := ofName a.name = a

instance (a : Authority) : Decidable a.IsCanonical := inferInstanceAs (Decidable (_ = _))

theorem Authority.isCanonical_of_schema {j : Json} {a : Authority} (h : schema j = some a) :
    a.IsCanonical := by
  obtain ⟨name, -, rfl⟩ := Option.map_eq_some_iff.mp h
  rw [IsCanonical, Authority.name_ofName]

namespace Class

/-- A class in which no side is kept as unknown that has a name of its own. -/
structure IsCanonical (c : Class) : Prop where
  authority : c.authority.IsCanonical
  staticFunctions : ∀ fs ∈ c.staticFunctions, ∀ f ∈ fs, f.authority.IsCanonical
  functions : ∀ fs ∈ c.functions, ∀ f ∈ fs, f.authority.IsCanonical

end Class

/-! ## Schemas -/

namespace Json.Schema

variable {α : Type} {name : String} {g : Schema α} {members : List (String × Json)}

theorem exists_of_optional {a : α} (h : optional name g members = some (some a)) :
    ∃ j, g j = some a := by
  unfold optional withDefault at h
  cases hj : value? name members with
  | none => simp [hj] at h
  | some j =>
    simp only [hj] at h
    cases j with
    | null => simp [nullable] at h
    | _ =>
      obtain ⟨a', ha, heq⟩ := Option.map_eq_some_iff.mp h
      exact ⟨_, heq ▸ ha⟩

theorem exists_of_mem_list {j : Json} {xs : List α} (h : list g j = some xs) :
    ∀ x ∈ xs, ∃ i, g i = some x := by
  cases j with
  | array items =>
    have hitems := mapM_eq_some.mp h
    clear h
    induction hitems with
    | nil => simp
    | cons hi _ ih => exact List.forall_mem_cons.mpr ⟨⟨_, hi⟩, ih⟩
  | _ => cases h

theorem exists_of_object {names : List String} {g : MemberSchema α} {j : Json} {a : α}
    (h : object names g j = some a) : ∃ members, j = .object members ∧ g members = some a := by
  cases j with
  | object members => exact ⟨members, rfl, (object_eq_some.mp h).2⟩
  | _ => cases h

end Json.Schema

theorem Authority.isCanonical_of_withDefault {name : String} {members : List (String × Json)}
    {a : Authority} (h : Schema.withDefault name schema .both members = some a) :
    a.IsCanonical := by
  unfold Schema.withDefault at h
  cases hj : value? name members with
  | none =>
    simp only [hj] at h
    cases h
    decide
  | some j =>
    simp only [hj] at h
    exact isCanonical_of_schema h

theorem Function.isCanonical_of_schema {j : Json} {f : Function} (h : schema j = some f) :
    f.authority.IsCanonical := by
  obtain ⟨members, -, h⟩ := Schema.exists_of_object h
  obtain ⟨name, -, h⟩ := Option.bind_eq_some_iff.mp h
  obtain ⟨side, hside, h⟩ := Option.bind_eq_some_iff.mp h
  obtain ⟨parameters, -, h⟩ := Option.bind_eq_some_iff.mp h
  obtain ⟨result, -, h⟩ := Option.bind_eq_some_iff.mp h
  obtain ⟨doc, -, h⟩ := Option.bind_eq_some_iff.mp h
  cases h
  exact Authority.isCanonical_of_withDefault hside

theorem Function.isCanonical_of_optional {name : String} {members : List (String × Json)}
    {o : Option (List Function)}
    (h : Schema.optional name (Schema.list schema) members = some o) :
    ∀ fs ∈ o, ∀ f ∈ fs, f.authority.IsCanonical := by
  rintro fs rfl f hf
  obtain ⟨j, hj⟩ := Schema.exists_of_optional h
  obtain ⟨i, hi⟩ := Schema.exists_of_mem_list hj f hf
  exact isCanonical_of_schema hi

theorem Class.isCanonical_of_schema {j : Json} {c : Class} (h : schema j = some c) :
    c.IsCanonical := by
  obtain ⟨members, -, h⟩ := Schema.exists_of_object h
  obtain ⟨name, -, h⟩ := Option.bind_eq_some_iff.mp h
  obtain ⟨side, hside, h⟩ := Option.bind_eq_some_iff.mp h
  obtain ⟨inheritance, -, h⟩ := Option.bind_eq_some_iff.mp h
  obtain ⟨constructor, -, h⟩ := Option.bind_eq_some_iff.mp h
  obtain ⟨staticFunctions, hstatic, h⟩ := Option.bind_eq_some_iff.mp h
  obtain ⟨functions, hfunctions, h⟩ := Option.bind_eq_some_iff.mp h
  obtain ⟨events, -, h⟩ := Option.bind_eq_some_iff.mp h
  obtain ⟨properties, -, h⟩ := Option.bind_eq_some_iff.mp h
  obtain ⟨doc, -, h⟩ := Option.bind_eq_some_iff.mp h
  cases h
  exact ⟨Authority.isCanonical_of_withDefault hside, Function.isCanonical_of_optional hstatic,
    Function.isCanonical_of_optional hfunctions⟩

/-- Whether it is static does not matter. -/
theorem Class.IsCanonical.withStatic {c : Class} (h : c.IsCanonical) (isStatic : Bool) :
    { c with isStatic := isStatic }.IsCanonical :=
  ⟨h.authority, h.staticFunctions, h.functions⟩

/-! ## Texts -/

theorem Class.isCanonical_of_run {text : String} {c : Class} (h : decoder.run text = .ok c) :
    c.IsCanonical := by
  obtain ⟨hroot, -⟩ := Json.Decoder.run_eq_ok.mp h
  obtain ⟨j, -, hj⟩ := denotes_decoder.sound hroot
  exact isCanonical_of_schema hj

theorem EnumTable.name_of_enumOf {m : String × Json} {e : Enum} (h : enumOf m = .ok e) :
    e.name = m.1 := by
  obtain ⟨values, -, rfl⟩ := map_eq_ok.mp h
  rfl

theorem EnumTable.map_name_of_enumOf {ms : List (String × Json)} {enums : List Enum}
    (h : List.Forall₂ (fun m e => enumOf m = .ok e) ms enums) :
    enums.map Enum.name = ms.map Prod.fst := by
  induction h with
  | nil => rfl
  | cons he _ ih => rw [List.map_cons, List.map_cons, ih, name_of_enumOf he]

theorem EnumTable.nodup_of_read {text : String} {enums : List Enum} (h : read text = .ok enums) :
    (enums.map Enum.name).Nodup := by
  unfold read at h
  cases hm : members text with
  | error problem => simp [hm] at h
  | ok ms =>
    simp only [hm] at h
    have henums := mapM_eq_ok.mp (mapError_eq_ok.mp h)
    obtain ⟨raw, -, rfl⟩ := map_eq_ok.mp hm
    rw [map_name_of_enumOf henums]
    exact Keyed.nodup_map_putAll Prod.fst _ (by simp)

/-! ## Collections -/

structure Docs.IsCanonical (d : Docs) : Prop where
  classes : ∀ c ∈ d.classes, c.IsCanonical
  enums : (d.enums.map Enum.name).Nodup

namespace Repository

def Descriptor.IsCanonical : Descriptor → Prop
  | .enums table => (table.map Enum.name).Nodup
  | .class c => c.IsCanonical

theorem Source.isCanonical_of_declared {s : Source} {path : String} {x : Descriptor}
    (h : s.declared path = .ok (some x)) : x.IsCanonical := by
  unfold declared at h
  cases hfetch : s.fetch path with
  | error e => simp [hfetch] at h
  | ok content =>
    cases content with
    | none => simp [hfetch] at h
    | some text =>
      simp only [hfetch] at h
      by_cases he : path = "Enums.json"
      · simp only [he, if_true] at h
        cases hread : EnumTable.read text with
        | error fault => simp [hread] at h
        | ok table =>
          simp only [hread] at h
          cases h
          exact EnumTable.nodup_of_read hread
      · simp only [he, if_false] at h
        cases hrun : Class.decoder.run text with
        | error problem => simp [hrun] at h
        | ok c =>
          simp only [hrun] at h
          cases h
          exact (Class.isCanonical_of_run hrun).withStatic _

theorem Source.isCanonical_of_mem {s : Source} {paths : List String} :
    ∀ x ∈ s.declarations paths, x.IsCanonical := by
  intro x hx
  obtain ⟨path, -, hpath⟩ := List.mem_filterMap.mp hx
  cases hdeclared : s.declared path with
  | error e => simp [hdeclared, Except.toOption] at hpath
  | ok o =>
    obtain rfl : o = some x := by simpa [hdeclared, Except.toOption] using hpath
    exact isCanonical_of_declared hdeclared

theorem Comprises.isCanonical {declarations : List Descriptor} {d : Docs}
    (h : Comprises declarations d) (hx : ∀ x ∈ declarations, x.IsCanonical) : d.IsCanonical := by
  constructor
  · intro c hc
    have hmem := List.mem_of_getLast? (h.latest c hc)
    obtain ⟨x, hxmem, hxc⟩ := List.mem_filterMap.mp (List.mem_filter.mp hmem).1
    cases x with
    | enums table => cases hxc
    | «class» c' =>
      cases hxc
      exact hx _ hxmem
  · rw [h.enums]
    cases hlast : (declarations.filterMap Descriptor.table?).getLast? with
    | none => simp
    | some table =>
      obtain ⟨x, hxmem, hxt⟩ := List.mem_filterMap.mp (List.mem_of_getLast? hlast)
      cases x with
      | «class» c => cases hxt
      | enums table' =>
        cases hxt
        exact hx _ hxmem

/-- Collected documentation is in canonical form. -/
theorem isCanonical_of_collect {s : Source} {d : Docs} (h : (collect s).result = .ok d) :
    d.IsCanonical := by
  have hyields := collect_yields s
  rw [h] at hyields
  unfold Source.Yields at hyields
  cases hl : s.list with
  | error e => simp [hl] at hyields
  | ok listing =>
    simp only [hl] at hyields
    cases hf : (descriptorPaths listing.entries).findSome? s.failure? with
    | some e => simp [hf] at hyields
    | none =>
      simp only [hf] at hyields
      obtain ⟨d', hd', hcomprises⟩ := hyields
      cases hd'
      exact hcomprises.isCanonical Source.isCanonical_of_mem

end Repository

end LuaStubs
