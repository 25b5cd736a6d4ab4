import LuaStubs.Proofs.Descriptor.RoundTrip
import LuaStubs.Export

/-! The JSON form of documentation loses nothing. -/
namespace LuaStubs

open Json (Decoder Document Legible Schema listOf)

/-! ## Values -/

namespace Json.Decoder

variable {α : Type} {d : Decoder α} {g : Schema α}

/-- The value is that of its compact text, and each text that has this value is read as `a`. -/
def ReadsAs (d : Decoder α) (j : Json) (a : α) : Prop :=
  json.run j.compact = .ok j ∧ ∀ text, json.run text = .ok j → d.run text = .ok a

theorem json_run_compact {n : Nat} {j : Json} (h : Legible n j) (hn : n ≤ Tree.maxLevel) :
    json.run j.compact = .ok j := by
  obtain ⟨t, ht, hfull⟩ := Document.ofText_compact h hn
  exact run_eq_ok.mpr (by rw [ht]; exact ⟨hfull, rfl⟩)

theorem json_run_pretty {n : Nat} {j : Json} (h : Legible n j) (hn : n ≤ Tree.maxLevel) :
    json.run (j.pretty ++ "\n") = .ok j := by
  obtain ⟨t, ht, hfull⟩ := Document.ofText_pretty h hn
  exact run_eq_ok.mpr (by rw [ht]; exact ⟨hfull, rfl⟩)

theorem Reads.readsAs (h : d.Reads g) {n : Nat} {j : Json} {a : α} (hj : Legible n j)
    (hn : n ≤ Tree.maxLevel) (ha : g j = some a) : d.ReadsAs j a :=
  ⟨json_run_compact hj hn, fun _ htext => h.run htext ha⟩

end Json.Decoder

/-! ## Enums -/

namespace EnumValue

/-- A text or an integer of at most 64 bits. -/
def IsPlain (v : EnumValue) : Prop :=
  (∃ s, v.value = .string s) ∨ ∃ n, v.value = .number (.integer n) ∧ Json.Numeral.Fits n

theorem ofJson_toJson (v : EnumValue) : ofJson v.toJson = .ok v := rfl

theorem listOfJson_listOf (vs : List EnumValue) : listOfJson (listOf toJson vs) = .ok vs := by
  refine mapM_eq_ok.mpr ?_
  induction vs with
  | nil => exact .nil
  | cons v vs ih => exact .cons v.ofJson_toJson ih

theorem collapse_toJson {v : EnumValue} (h : v.IsPlain) : v.toJson.collapse = v.toJson := by
  obtain ⟨key, value⟩ := v
  rcases h with ⟨s, hs⟩ | ⟨i, hi, -⟩
  · cases hs
    rfl
  · cases hi
    rfl

theorem legible_toJson {v : EnumValue} (h : v.IsPlain) (n : Nat) : Legible (n + 1) v.toJson := by
  have hvalue : Legible n v.value := by
    rcases h with ⟨s, hs⟩ | ⟨i, hi, hfits⟩
    · rw [hs]
      exact .string n s
    · rw [hi]
      exact .integer n hfits
  refine .object ?_
  simp [Legible.string, hvalue]

end EnumValue

theorem Enum.membersOf_of_nodup {enums : List Enum} (h : (enums.map Enum.name).Nodup) :
    membersOf enums = enums.map (fun e => (e.name, listOf EnumValue.toJson e.values)) := by
  unfold membersOf
  rw [Keyed.putAll_nil_of_nodup]
  rwa [List.map_map]

theorem EnumTable.enumOf_listOf (e : Enum) :
    enumOf (e.name, listOf EnumValue.toJson e.values) = .ok e := by
  rw [enumOf, EnumValue.listOfJson_listOf]
  rfl

theorem Enum.legible_members {enums : List Enum} (h : ∀ e ∈ enums, ∀ v ∈ e.values, v.IsPlain)
    (n : Nat) :
    Legible (n + 3)
      (.object (enums.map (fun e => (e.name, listOf EnumValue.toJson e.values)))) :=
  .object (List.forall_mem_map.mpr
    (fun e he => Legible.listOf (fun v hv => EnumValue.legible_toJson (h e he v hv) n)))

theorem Enum.collapse_members {enums : List Enum} (h : ∀ e ∈ enums, ∀ v ∈ e.values, v.IsPlain) :
    Json.collapseMembers (enums.map (fun e => (e.name, listOf EnumValue.toJson e.values))) =
      enums.map (fun e => (e.name, listOf EnumValue.toJson e.values)) := by
  have hitems (vs : List EnumValue) (hvs : ∀ v ∈ vs, v.IsPlain) :
      Json.collapseItems (vs.map EnumValue.toJson) = vs.map EnumValue.toJson := by
    induction vs with
    | nil => rfl
    | cons v vs ih =>
      obtain ⟨hv, hvs⟩ := List.forall_mem_cons.mp hvs
      rw [List.map_cons, Json.collapseItems, EnumValue.collapse_toJson hv, ih hvs]
  induction enums with
  | nil => rfl
  | cons e enums ih =>
    obtain ⟨he, henums⟩ := List.forall_mem_cons.mp h
    rw [List.map_cons, Json.collapseMembers, ih henums, listOf, Json.collapse, hitems _ he]

/-- The object of all enums is a file from which they are read. -/
theorem EnumTable.read_compact {enums : List Enum} (hnames : (enums.map Enum.name).Nodup)
    (h : ∀ e ∈ enums, ∀ v ∈ e.values, v.IsPlain) :
    read (Json.object (Enum.membersOf enums)).compact = .ok enums := by
  have hkeys : ((enums.map (fun e => (e.name, listOf EnumValue.toJson e.values))).map
      Prod.fst).Nodup := by rwa [List.map_map]
  have hrun := Decoder.reads_map.run
    (Decoder.json_run_compact (Enum.legible_members h 0) (by decide)) rfl
  have henums : (enums.map (fun e => (e.name, listOf EnumValue.toJson e.values))).mapM enumOf =
      .ok enums := by
    rw [mapM_eq_ok, List.forall₂_map_left_iff, List.forall₂_same]
    exact fun e _ => enumOf_listOf e
  rw [Enum.membersOf_of_nodup hnames, read, members, hrun]
  simp only [Except.map, Enum.collapse_members h, Keyed.putAll_nil_of_nodup _ hkeys, henums,
    Except.mapError]

/-! ## Documentation -/

/-- The object of a class is a file from which it is read. -/
theorem Class.run_compact {c : Class} (h : c.IsCanonical) :
    decoder.run c.toJson.compact = .ok { c with isStatic := false } :=
  denotes_decoder.reads.run (Decoder.json_run_compact (c.legible_toJson 0) (by decide))
    (schema_toJson h)

theorem Docs.toJson_eq {d : Docs} (hd : d.IsCanonical) :
    d.toJson = .object [("classes", .array (d.classes.map Class.toJson)),
      ("enums", .object (d.enums.map (fun e => (e.name, listOf EnumValue.toJson e.values))))] := by
  rw [toJson, Enum.membersOf_of_nodup hd.enums]
  rfl

theorem Docs.legible_toJson {d : Docs} (hd : d.IsCanonical)
    (h : ∀ e ∈ d.enums, ∀ v ∈ e.values, v.IsPlain) : Legible 7 d.toJson := by
  have hclasses : Legible 6 (listOf Class.toJson d.classes) :=
    Legible.listOf (fun c _ => c.legible_toJson 0)
  rw [toJson_eq hd]
  exact .object (List.forall_mem_cons.mpr
    ⟨hclasses, List.forall_mem_singleton.mpr (Enum.legible_members h 3)⟩)

/-- What has been collected, written as JSON and read again is what it was: each class with the
`static_class` that stands in its object, and the enums member by member. -/
theorem Repository.json_lossless {s : Source} {d : Docs} (hd : (collect s).result = .ok d)
    (hplain : ∀ e ∈ d.enums, ∀ v ∈ e.values, v.IsPlain) :
    ∃ text classes enums, Format.json.render d = .ok text ∧
      Decoder.json.run text =
        .ok (.object [("classes", .array classes), ("enums", .object enums)]) ∧
      List.Forall₂ (fun j c => ∃ c' isStatic, Class.decoder.ReadsAs j c' ∧
        j.member? "static_class" = some (.bool isStatic) ∧ c = { c' with isStatic := isStatic })
        classes d.classes ∧
      List.Forall₂ (fun m e => EnumTable.enumOf m = .ok e) enums d.enums := by
  have hcanonical := isCanonical_of_collect hd
  refine ⟨d.jsonText, d.classes.map Class.toJson,
    d.enums.map (fun e => (e.name, listOf EnumValue.toJson e.values)), rfl, ?_, ?_, ?_⟩
  · rw [Docs.jsonText, Decoder.json_run_pretty (Docs.legible_toJson hcanonical hplain) (by decide),
      Docs.toJson_eq hcanonical]
  · rw [List.forall₂_map_left_iff, List.forall₂_same]
    intro c hc
    refine ⟨{ c with isStatic := false }, c.isStatic, ?_, c.member?_toJson_static, rfl⟩
    exact Class.denotes_decoder.reads.readsAs (c.legible_toJson 0) (by decide)
      (Class.schema_toJson (hcanonical.classes c hc))
  · rw [List.forall₂_map_left_iff, List.forall₂_same]
    exact fun e _ => EnumTable.enumOf_listOf e

namespace Repository

def sampleEnums : List Enum :=
  [⟨"Side", [⟨"LEFT", .number (.integer (-1))⟩, ⟨"NONE", .string "no \"side\""⟩]⟩, ⟨"Empty", []⟩]

/-- A static class whose side has no name of its own, with one list that is empty. -/
def sampleClass : Class :=
  ⟨"Map", .unknown "host", none, none, some [⟨"Load", .server, none, none, ⟨none, some "a\nb"⟩⟩],
    some [], none, none, true, ⟨some "the map", none⟩⟩

/-- A source of a static class and of a table of enums. -/
def pair (text table : String) : Source := .ofHeld
  [⟨⟨.blob, "StaticClasses/Map.json"⟩, .ok (some text)⟩, ⟨⟨.blob, "Enums.json"⟩, .ok (some table)⟩]

theorem collect_pair {text table : String} {c : Class} {enums : List Enum}
    (htext : Class.decoder.run text = .ok c) (htable : EnumTable.read table = .ok enums) :
    (collect (pair text table)).result = .ok ⟨[{ c with isStatic := true }], enums⟩ := by
  have hmap : route? "StaticClasses/Map.json" = some (.class true) := by decide
  have henums : route? "Enums.json" = some .enums := by decide
  simp [collect, pair, Source.ofHeld, selected, readAll, readDescriptor, hmap, henums, htext, htable,
    Except.mapError, Except.map, assemble, add]
  rfl

theorem isPlain_sampleEnums : ∀ e ∈ sampleEnums, ∀ v ∈ e.values, v.IsPlain := by
  simp [sampleEnums, EnumValue.IsPlain, Json.Numeral.Fits]

theorem isCanonical_sampleClass : sampleClass.IsCanonical :=
  ⟨by decide, by simp [sampleClass]; decide, by simp [sampleClass]⟩

theorem collect_sample :
    (collect (pair sampleClass.toJson.compact (Json.object (Enum.membersOf sampleEnums)).compact)).result =
      .ok ⟨[sampleClass], sampleEnums⟩ :=
  collect_pair (Class.run_compact isCanonical_sampleClass)
    (EnumTable.read_compact (by decide) isPlain_sampleEnums)

theorem json_lossless_sample :
    (∀ e ∈ sampleEnums, ∀ v ∈ e.values, v.IsPlain) ∧
      ∃ text classes enums, Format.json.render ⟨[sampleClass], sampleEnums⟩ = .ok text ∧
        Decoder.json.run text =
          .ok (.object [("classes", .array classes), ("enums", .object enums)]) ∧
        List.Forall₂ (fun j c => ∃ c' isStatic, Class.decoder.ReadsAs j c' ∧
          j.member? "static_class" = some (.bool isStatic) ∧ c = { c' with isStatic := isStatic })
          classes [sampleClass] ∧
        List.Forall₂ (fun m e => EnumTable.enumOf m = .ok e) enums sampleEnums :=
  ⟨isPlain_sampleEnums, json_lossless collect_sample isPlain_sampleEnums⟩

end Repository

end LuaStubs
