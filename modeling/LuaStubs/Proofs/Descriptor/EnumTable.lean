import LuaStubs.Proofs.Descriptor.Acceptance
import LuaStubs.Proofs.Export
import LuaStubs.Proofs.Lua.Document

/-! The names of enums, from their file to both forms of the documentation: a file declares each name
once, and both forms have the enums in its order. -/
namespace LuaStubs

open Json (Decoder IsText Spells listOf)

namespace EnumTable

/-! ## Files of enums -/

/-- The value of the last member of that name. -/
def lastValue? (name : String) (members : List (String × Json)) : Option Json :=
  ((members.filter (fun m => m.1 = name)).getLast?).map Prod.snd

/-- The enums of an object: its names, each once and where it first stands, and under each name the
list of its last value. -/
structure Declares (members : List (String × Json)) (enums : List Enum) : Prop where
  distinct : (enums.map Enum.name).Nodup
  names : enums.map Enum.name = (members.map Prod.fst).eraseDups
  latest : ∀ e ∈ enums, ∃ j, lastValue? e.name members = some j ∧
    EnumValue.listOfJson j.collapse = .ok e.values

/-- Every value that is the last one of its name is a list of enum values. -/
def LastDecode (members : List (String × Json)) : Prop :=
  ∀ name j, lastValue? name members = some j → ∃ values, EnumValue.listOfJson j.collapse = .ok values

variable {members : List (String × Json)} {enums : List Enum}

theorem name_mem_of_lastValue? {name : String} {j : Json} (h : lastValue? name members = some j) :
    name ∈ members.map Prod.fst := by
  obtain ⟨m, hm, -⟩ := Option.map_eq_some_iff.mp h
  obtain ⟨hmem, hname⟩ := List.mem_filter.mp (List.mem_of_getLast? hm)
  exact List.mem_map.mpr ⟨m, hmem, by simpa using hname⟩

/-- An object declares one list of enums only. -/
theorem Declares.unique {enums' : List Enum} (h : Declares members enums)
    (h' : Declares members enums') : enums = enums' := by
  have hfind {enums : List Enum} (h : Declares members enums) : ∀ e ∈ enums,
      (lastValue? e.name members).bind
        (fun j => (enumOf (e.name, j.collapse)).toOption) = some e := by
    intro e he
    obtain ⟨j, hj, hvalues⟩ := h.latest e he
    rw [hj, Option.bind_some, enumOf, hvalues]
    rfl
  exact Keyed.eq_of_map_eq Enum.name (h.names.trans h'.names.symm)
    (fun name => (lastValue? name members).bind (fun j => (enumOf (name, j.collapse)).toOption))
    (hfind h) (hfind h')

/-! ## Surviving members -/

theorem collapseMembers_eq (members : List (String × Json)) :
    Json.collapseMembers members = members.map (fun m => (m.1, m.2.collapse)) := by
  induction members with
  | nil => rfl
  | cons m ms ih => rw [Json.collapseMembers, ih, List.map_cons]

/-- The members that are left of an object. -/
def survivors (members : List (String × Json)) : List (String × Json) :=
  Keyed.putAll Prod.fst [] (Json.collapseMembers members)

theorem survivors_names (members : List (String × Json)) :
    (survivors members).map Prod.fst = (members.map Prod.fst).eraseDups := by
  rw [survivors, Keyed.map_putAll_nil, collapseMembers_eq, List.map_map]
  rfl

/-- What is left under a name is its last value. -/
theorem get?_survivors (name : String) (members : List (String × Json)) :
    Keyed.get? Prod.fst name (survivors members) =
      (lastValue? name members).map (fun i => (name, i.collapse)) := by
  have hmerges := Keyed.merges_putAll Prod.fst (Json.collapseMembers members)
  have hkey : (fun m : String × Json => decide (m.1 = name)) ∘
      (fun m : String × Json => (m.1, m.2.collapse)) = fun m => decide (m.1 = name) := rfl
  rw [survivors, hmerges.get?_eq, collapseMembers_eq, List.filter_map, List.getLast?_map,
    lastValue?, Option.map_map, hkey]
  cases hlast : (members.filter (fun m => m.1 = name)).getLast? with
  | none => rfl
  | some m =>
    have hm : m.1 = name := by simpa using (List.mem_filter.mp (List.mem_of_getLast? hlast)).2
    simp [hm]

theorem mem_survivors_iff {name : String} {j : Json} :
    (name, j) ∈ survivors members ↔ ∃ i, lastValue? name members = some i ∧ j = i.collapse := by
  have hget := get?_survivors name members
  constructor
  · intro h
    have hmerges := Keyed.merges_putAll Prod.fst (Json.collapseMembers members)
    have hmem := Keyed.get?_of_mem Prod.fst hmerges.distinct h
    rw [← survivors, hget, Option.map_eq_some_iff] at hmem
    obtain ⟨i, hi, hij⟩ := hmem
    exact ⟨i, hi, (congrArg Prod.snd hij).symm⟩
  · rintro ⟨i, hi, rfl⟩
    rw [hi, Option.map_some] at hget
    exact List.mem_of_find?_eq_some hget

theorem declares_of_mapM (h : (survivors members).mapM enumOf = .ok enums) :
    Declares members enums := by
  have hall := mapM_eq_ok.mp h
  have hnames := (map_name_of_enumOf hall).trans (survivors_names members)
  refine ⟨?_, hnames, fun e he => ?_⟩
  · rw [map_name_of_enumOf hall]
    exact Keyed.nodup_map_putAll Prod.fst _ (by simp)
  · obtain ⟨⟨name, j⟩, hm, hread⟩ := exists_of_forall₂ hall.flip e he
    obtain ⟨values, hvalues, rfl⟩ := map_eq_ok.mp hread
    obtain ⟨i, hi, rfl⟩ := mem_survivors_iff.mp hm
    exact ⟨i, hi, hvalues⟩

theorem exists_mapM_iff :
    (∃ enums, (survivors members).mapM enumOf = .ok enums) ↔ LastDecode members := by
  rw [exists_mapM_eq_ok]
  constructor
  · intro h name j hj
    obtain ⟨e, he⟩ := h (name, j.collapse) (mem_survivors_iff.mpr ⟨j, hj, rfl⟩)
    obtain ⟨values, hvalues, -⟩ := map_eq_ok.mp he
    exact ⟨values, hvalues⟩
  · rintro h ⟨name, j⟩ hm
    obtain ⟨i, hi, rfl⟩ := mem_survivors_iff.mp hm
    obtain ⟨values, hvalues⟩ := h name i hi
    exact ⟨⟨name, values⟩, map_eq_ok.mpr ⟨values, hvalues, rfl⟩⟩

theorem Declares.exists_enum (h : Declares members enums) {name : String} {j : Json}
    (hj : lastValue? name members = some j) :
    ∃ e ∈ enums, e.name = name ∧ EnumValue.listOfJson j.collapse = .ok e.values := by
  obtain ⟨e, he, rfl⟩ : ∃ e ∈ enums, e.name = name := by
    rw [← List.mem_map, h.names, List.mem_eraseDups]
    exact name_mem_of_lastValue? hj
  obtain ⟨i, hi, hvalues⟩ := h.latest e he
  obtain rfl : i = j := Option.some.inj (hi.symm.trans hj)
  exact ⟨e, he, rfl, hvalues⟩

theorem Declares.lastDecode (h : Declares members enums) : LastDecode members := by
  intro name j hj
  obtain ⟨e, -, -, hvalues⟩ := h.exists_enum hj
  exact ⟨e.values, hvalues⟩

theorem mapM_eq_ok_iff :
    (survivors members).mapM enumOf = .ok enums ↔ Declares members enums := by
  refine ⟨declares_of_mapM, fun h => ?_⟩
  obtain ⟨enums', h'⟩ := exists_mapM_iff.mpr h.lastDecode
  rw [h', h.unique (declares_of_mapM h')]

/-! ## Reading -/

theorem read_eq_ok_iff_survivors {text : String} :
    read text = .ok enums ↔
      ∃ members, IsText text (.object members) ∧ (survivors members).mapM enumOf = .ok enums := by
  have hmembers {ms : List (String × Json)} : EnumTable.members text = .ok ms ↔
      ∃ members, IsText text (.object members) ∧ survivors members = ms := by
    rw [EnumTable.members, map_eq_ok]
    refine exists_congr fun members => and_congr_left fun _ => ?_
    rw [Decoder.denotes_map.run_eq_ok]
    constructor
    · rintro ⟨j, htext, hj⟩
      cases j with
      | object ms => cases hj; exact htext
      | _ => cases hj
    · exact fun htext => ⟨_, htext, rfl⟩
  rw [read]
  cases hm : EnumTable.members text with
  | error problem =>
    constructor
    · intro h
      cases h
    · rintro ⟨members, htext, -⟩
      rw [hmembers.mpr ⟨members, htext, rfl⟩] at hm
      cases hm
  | ok ms =>
    dsimp only
    rw [mapError_eq_ok]
    constructor
    · intro h
      obtain ⟨members, htext, rfl⟩ := hmembers.mp hm
      exact ⟨members, htext, h⟩
    · rintro ⟨members, htext, h⟩
      rw [hmembers.mpr ⟨members, htext, rfl⟩] at hm
      cases hm
      exact h

/-- From a text are read the enums that its object declares. -/
theorem read_eq_ok {text : String} :
    read text = .ok enums ↔
      ∃ members, IsText text (.object members) ∧ Declares members enums := by
  rw [read_eq_ok_iff_survivors]
  exact exists_congr fun members => and_congr_right fun _ => mapM_eq_ok_iff

/-- A text is read if it is an object whose surviving values are lists of enum values. -/
theorem exists_read_iff {text : String} :
    (∃ enums, read text = .ok enums) ↔
      ∃ members, IsText text (.object members) ∧ LastDecode members := by
  simp only [read_eq_ok_iff_survivors]
  rw [exists_comm]
  refine exists_congr fun members => ?_
  rw [exists_and_left, exists_mapM_iff]

/-! ## Depth -/

/-- An empty list in so many others. -/
def nested : Nat → Json
  | 0 => .array []
  | n + 1 => .array [nested n]

def brackets (n : Nat) : List Char :=
  List.replicate (n + 1) '[' ++ List.replicate (n + 1) ']'

theorem spells_nested (n : Nat) : Spells (n + 1) (brackets n) (nested n) := by
  induction n with
  | zero => exact .noItems 0 Json.blank_nil
  | succ n ih =>
    have hbrackets : brackets (n + 1) = '[' ::
        ([','].intercalate ([⟨[], brackets n, [], nested n⟩].map Json.Padded.chars) ++ [']']) := by
      simp [brackets, Json.Padded.chars, List.replicate_succ (n := n + 1),
        ← List.replicate_succ']
    rw [hbrackets]
    exact .items (by simp) (by simp [Json.Padded.IsPadded, Json.blank_nil]) (by simpa using ih)

/-- The same name twice: with brackets nested so deep, then with the empty list. -/
def twice (n : Nat) : List Char :=
  ['\x7b', '"', 'E', '"', ':'] ++ brackets n ++ [',', '"', 'E', '"', ':', '[', ']', '\x7d']

theorem spells_twice (n : Nat) :
    Spells (n + 2) (twice n) (.object [("E", nested n), ("E", .array [])]) := by
  have htwice : twice n = '\x7b' :: ([','].intercalate
      ([.plain "E" (brackets n) (nested n), .plain "E" ['[', ']'] (.array [])].map
        Json.Labelled.chars) ++ ['\x7d']) := by
    have hname : Json.escape 'E' = ['E'] := rfl
    simp [twice, Json.Labelled.plain, Json.Labelled.chars, Json.Labelled.body, Json.Padded.chars,
      hname]
  rw [htwice]
  refine .members (by simp) (by simp [Json.Labelled.isLabelled_plain]) ?_
  exact List.forall_mem_cons.mpr
    ⟨spells_nested n, List.forall_mem_singleton.mpr (.noItems n Json.blank_nil)⟩

/-- An object nested deeper than a text may be is not read, though all that survives of it is an
empty list. -/
theorem read_too_deep :
    Spells 128 (String.ofList (twice 126)).toList (.object [("E", nested 126), ("E", .array [])]) ∧
      LastDecode [("E", nested 126), ("E", .array [])] ∧
      ¬ ∃ enums, read (String.ofList (twice 126)) = .ok enums := by
  refine ⟨?_, ?_, ?_⟩
  · rw [String.toList_ofList]
    exact spells_twice 126
  · intro name j hj
    obtain rfl : name = "E" := by simpa using name_mem_of_lastValue? hj
    cases hj
    exact ⟨[], rfl⟩
  · have herror : (read (String.ofList (twice 126))).isOk = false := by decide +kernel
    rintro ⟨enums, h⟩
    rw [h] at herror
    cases herror

end EnumTable

/-! ## Both forms -/

/-- The member of an enum in the JSON form. -/
def Enum.member (e : Enum) : String × Json := (e.name, listOf EnumValue.toJson e.values)

/-- The members are those of the object of all enums in the JSON form. -/
def Docs.ShowsEnums (d : Docs) (members : List (String × Json)) : Prop :=
  Format.json.render d = .ok ((Json.object [("classes", listOf Class.toJson d.classes),
    ("enums", .object members)]).pretty ++ "\n")

theorem Docs.showsEnums_membersOf (d : Docs) : d.ShowsEnums (Enum.membersOf d.enums) := rfl

/-- Enums keep their names and their order from the file to both forms: a file declares each name
once, so that nothing that is collected falls together in the JSON form. -/
theorem enum_names_kept :
    (∀ text enums, EnumTable.read text = .ok enums ↔
      ∃ members, IsText text (.object members) ∧ EnumTable.Declares members enums) ∧
    (∀ text, (∃ enums, EnumTable.read text = .ok enums) ↔
      ∃ members, IsText text (.object members) ∧ EnumTable.LastDecode members) ∧
    (∀ s d, (Repository.collect s).result = .ok d →
      (d.enums.map Enum.name).Nodup ∧ d.ShowsEnums (d.enums.map Enum.member) ∧
        ∀ text, Format.lua.render d = .ok text → ∃ blocks, Lua.Renders d text blocks) ∧
    ∀ d : Docs, ∃ members, d.ShowsEnums members ∧
      Keyed.Merges Prod.fst (d.enums.map Enum.member) members := by
  refine ⟨fun text enums => EnumTable.read_eq_ok, fun text => EnumTable.exists_read_iff, ?_, ?_⟩
  · intro s d hd
    have hnames := (Repository.isCanonical_of_collect hd).enums
    refine ⟨hnames, ?_, fun text htext => Lua.document_eq_ok.mp htext⟩
    have hmembers : Enum.membersOf d.enums = d.enums.map Enum.member :=
      Enum.membersOf_of_nodup hnames
    rw [← hmembers]
    exact d.showsEnums_membersOf
  · exact fun d => ⟨_, d.showsEnums_membersOf, Keyed.merges_putAll Prod.fst _⟩

/-- Each name twice; for one of them a value that is no list comes first. -/
def repeatedMembers : List (String × Json) :=
  [("B", .array []), ("A", .bool true),
    ("B", .array [.object [("key", .string "x"), ("value", .string "1")]]), ("A", .array [])]

def repeatedEnums : List Enum := [⟨"B", [⟨"x", .string "1"⟩]⟩, ⟨"A", []⟩]

theorem isText_repeatedMembers :
    IsText (Json.object repeatedMembers).compact (.object repeatedMembers) := by
  have hlegible : Json.Legible 3 (.object repeatedMembers) := by
    refine .object ?_
    simp [repeatedMembers, Json.Legible.bool, Json.Legible.array, Json.Legible.object,
      Json.Legible.string]
  exact Decoder.json_run_eq_ok.mp (Decoder.json_run_compact hlegible (by decide))

theorem declares_repeatedMembers : EnumTable.Declares repeatedMembers repeatedEnums where
  distinct := by decide
  names := by decide
  latest := List.forall_mem_cons.mpr ⟨⟨_, rfl, rfl⟩, List.forall_mem_singleton.mpr ⟨_, rfl, rfl⟩⟩

theorem enum_names_kept_sample :
    IsText (Json.object repeatedMembers).compact (.object repeatedMembers) ∧
      EnumTable.Declares repeatedMembers repeatedEnums ∧
      EnumTable.read (Json.object repeatedMembers).compact = .ok repeatedEnums ∧
      (Repository.collect (Repository.pair Repository.sampleClass.toJson.compact
        (Json.object repeatedMembers).compact)).result =
          .ok ⟨[Repository.sampleClass], repeatedEnums⟩ ∧
      Docs.ShowsEnums ⟨[Repository.sampleClass], repeatedEnums⟩ (repeatedEnums.map Enum.member) ∧
      ∃ members, Docs.ShowsEnums ⟨[], repeatedEnums ++ [Enum.mk "B" []]⟩ members ∧
        Keyed.Merges Prod.fst ((repeatedEnums ++ [Enum.mk "B" []]).map Enum.member) members := by
  obtain ⟨hread, -, hcollected, hany⟩ := enum_names_kept
  have henums := (hread _ _).mpr ⟨_, isText_repeatedMembers, declares_repeatedMembers⟩
  have hcollect := Repository.collect_pair
    (Class.run_compact Repository.isCanonical_sampleClass) henums
  exact ⟨isText_repeatedMembers, declares_repeatedMembers, henums, hcollect,
    (hcollected _ _ hcollect).2.1, hany _⟩

end LuaStubs
