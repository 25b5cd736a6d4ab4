import LuaStubs.Proofs.Export
import LuaStubs.Proofs.Repository.Collection
import LuaStubs.Proofs.Lua.Document

/-! Where nothing is declared twice, the order of a listing makes no difference: the same classes and
enums are collected, and every class has the same block. -/
namespace LuaStubs

open Lua (classText document enumText header)

/-! ## Listings in another order -/

namespace Repository

theorem descriptorPaths_perm {entries entries' : List Entry} (h : entries'.Perm entries) :
    (descriptorPaths entries').Perm (descriptorPaths entries) :=
  (h.filter _).map _

/-- Nothing is declared twice: the files at these paths can be fetched and read, no two of them declare
classes of one name, and at most one holds the enums. -/
structure Source.DeclaresOnce (s : Source) (paths : List String) : Prop where
  readable : ∀ path ∈ paths, ∃ found, s.declared path = .ok found
  classes : (((s.declarations paths).filterMap Descriptor.class?).map Class.name).Nodup
  enums : ((s.declarations paths).filterMap Descriptor.table?).length ≤ 1

variable {s : Source} {paths paths' : List String} {declarations declarations' : List Descriptor}
  {d d' : Docs}

theorem Source.DeclaresOnce.perm (h : s.DeclaresOnce paths) (hperm : paths'.Perm paths) :
    s.DeclaresOnce paths' where
  readable path hpath := h.readable path (hperm.subset hpath)
  classes := (((hperm.filterMap _).filterMap _).map _).nodup_iff.mpr h.classes
  enums := by
    have htables : ((s.declarations paths').filterMap Descriptor.table?).Perm
        ((s.declarations paths).filterMap Descriptor.table?) := (hperm.filterMap _).filterMap _
    rw [htables.length_eq]
    exact h.enums

/-- Classes whose names do not repeat are collected as they come. -/
theorem Comprises.classes_eq (h : Comprises declarations d)
    (hnames : ((declarations.filterMap Descriptor.class?).map Class.name).Nodup) :
    d.classes = declarations.filterMap Descriptor.class? := by
  have htable := Keyed.putAll_nil_of_nodup Class.name hnames
  refine Keyed.eq_of_map_eq Class.name ?_ (fun name =>
    ((declarations.filterMap Descriptor.class?).filter (fun c => c.name = name)).getLast?)
    h.latest (fun c hc => ?_)
  · rw [h.names, ← Keyed.map_putAll_nil, htable]
  · exact Keyed.getLast?_of_mem_putAll Class.name (by rwa [htable])

theorem Comprises.perm (h : Comprises declarations d) (h' : Comprises declarations' d')
    (hperm : declarations'.Perm declarations)
    (hnames : ((declarations.filterMap Descriptor.class?).map Class.name).Nodup)
    (hone : (declarations.filterMap Descriptor.table?).length ≤ 1) :
    d'.enums = d.enums ∧ d'.classes.Perm d.classes := by
  have hclasses : (declarations'.filterMap Descriptor.class?).Perm
      (declarations.filterMap Descriptor.class?) := hperm.filterMap _
  have htables : (declarations'.filterMap Descriptor.table?).Perm
      (declarations.filterMap Descriptor.table?) := hperm.filterMap _
  have hsame : declarations'.filterMap Descriptor.table? =
      declarations.filterMap Descriptor.table? := by
    match hall : declarations.filterMap Descriptor.table?, hone with
    | [], _ => exact List.perm_nil.mp (hall ▸ htables)
    | [table], _ => exact List.perm_singleton.mp (hall ▸ htables)
  constructor
  · rw [h.enums, h'.enums, hsame]
  · rw [h.classes_eq hnames, h'.classes_eq ((hclasses.map _).nodup_iff.mpr hnames)]
    exact hclasses

/-- All that is declared is collected, whatever the listing. -/
theorem Source.DeclaresOnce.exists_docs {listing : Listing}
    (h : s.DeclaresOnce (descriptorPaths listing.entries)) :
    ∃ d, (collect { s with list := .ok listing }).result = .ok d ∧
      Comprises (s.declarations (descriptorPaths listing.entries)) d := by
  have hnone : (descriptorPaths listing.entries).findSome?
      (Source.failure? { s with list := .ok listing }) = none := by
    refine List.findSome?_eq_none_iff.mpr (fun path hpath => ?_)
    obtain ⟨found, hfound⟩ := h.readable path hpath
    have hdeclared : Source.declared { s with list := .ok listing } path = .ok found := hfound
    simp [Source.failure?, hdeclared]
  have hyields := collect_yields { s with list := .ok listing }
  unfold Source.Yields at hyields
  simp only [hnone] at hyields
  exact hyields

/-- Where nothing is declared twice, a listing in another order comes to the same enums and the same
classes in some order; each class has the same block or fails in the same way, and the rendered files
are made of the same blocks. -/
theorem collect_perm {listing listing' : Listing} (hlist : s.list = .ok listing)
    (honce : s.DeclaresOnce (descriptorPaths listing.entries))
    (hperm : listing'.entries.Perm listing.entries) :
    ∃ d d', (collect s).result = .ok d ∧ (collect { s with list := .ok listing' }).result = .ok d' ∧
      d'.enums = d.enums ∧ d'.classes.Perm d.classes ∧
      (∀ c, classText d' c = classText d c) ∧
      ((∃ text, Format.lua.render d = .ok text) ↔ ∃ text, Format.lua.render d' = .ok text) ∧
      ∀ text text', Format.lua.render d = .ok text → Format.lua.render d' = .ok text' →
        ∃ blocks blocks', Lua.Renders d text blocks ∧ Lua.Renders d' text' blocks' ∧
          blocks'.Perm blocks := by
  have hpaths := descriptorPaths_perm hperm
  obtain ⟨d, hd, hcomprises⟩ := honce.exists_docs
  rw [← hlist] at hd
  obtain ⟨d', hd', hcomprises'⟩ := (honce.perm hpaths).exists_docs
  obtain ⟨henums, hclasses⟩ :=
    hcomprises.perm hcomprises' (hpaths.filterMap _) honce.classes honce.enums
  have htexts : ∀ c, classText d' c = classText d c :=
    Docs.classText_congr (fun name =>
      Keyed.get?_perm Class.name hcomprises'.distinct hclasses name)
  refine ⟨d, d', hd, hd', henums, hclasses, htexts, ?_, ?_⟩
  · show (∃ text, document d = .ok text) ↔ ∃ text, document d' = .ok text
    simp only [Lua.document_eq_ok]
    constructor
    · rintro ⟨text, blocks, hrenders⟩
      obtain ⟨text', blocks', hrenders', -⟩ := hrenders.perm hclasses htexts
      exact ⟨text', blocks', hrenders'⟩
    · rintro ⟨text, blocks, hrenders⟩
      obtain ⟨text', blocks', hrenders', -⟩ :=
        hrenders.perm hclasses.symm (fun c => (htexts c).symm)
      exact ⟨text', blocks', hrenders'⟩
  · intro text text' htext htext'
    obtain ⟨blocks, hblocks⟩ := Lua.document_eq_ok.mp htext
    obtain ⟨blocks', hblocks'⟩ := Lua.document_eq_ok.mp htext'
    obtain ⟨_, blocks'', hrenders, hsame⟩ := hblocks.perm hclasses htexts
    refine ⟨blocks, blocks', hblocks, hblocks', ?_⟩
    rw [hblocks'.unique hrenders]
    exact hsame

/-! ## A child and its parent -/

/-- A child is listed before its parent, between them the enums and a file without content. -/
def sampleEntries : List Entry :=
  [⟨.blob, "Classes/Child.json"⟩, ⟨.blob, "Enums.json"⟩, ⟨.blob, "Structs/None.json"⟩,
    ⟨.blob, "Structs/Parent.json"⟩]

def sampleChild : Class :=
  ⟨"Child", .client, some ["Parent"], none, none, none,
    some [⟨"Leave", [], ⟨some "gone", none⟩⟩], none, false, ⟨none, none⟩⟩

def sampleParent : Class :=
  ⟨"Parent", .both, none, none, none, none,
    some [⟨"Join", [⟨"self", "Parent", none, ⟨none, none⟩⟩], ⟨none, none⟩⟩], none, false,
    ⟨none, none⟩⟩

def sampleFamily : Source where
  list := .ok ⟨sampleEntries, false⟩
  fetch path :=
    if path = "Classes/Child.json" then .ok (some sampleChild.toJson.compact)
    else if path = "Structs/Parent.json" then .ok (some sampleParent.toJson.compact)
    else if path = "Enums.json" then .ok (some (Json.object (Enum.membersOf sampleEnums)).compact)
    else .ok none

theorem descriptorPaths_sampleEntries :
    descriptorPaths sampleEntries =
      ["Classes/Child.json", "Enums.json", "Structs/None.json", "Structs/Parent.json"] := by
  decide

theorem declared_sampleFamily :
    sampleFamily.declared "Classes/Child.json" = .ok (some (.class sampleChild)) ∧
      sampleFamily.declared "Enums.json" = .ok (some (.enums sampleEnums)) ∧
      sampleFamily.declared "Structs/None.json" = .ok none ∧
      sampleFamily.declared "Structs/Parent.json" = .ok (some (.class sampleParent)) := by
  have hchild : Class.decoder.run sampleChild.toJson.compact = .ok sampleChild :=
    Class.run_compact ⟨by decide, by simp [sampleChild], by simp [sampleChild]⟩
  have hparent : Class.decoder.run sampleParent.toJson.compact = .ok sampleParent :=
    Class.run_compact ⟨by decide, by simp [sampleParent], by simp [sampleParent]⟩
  have henums : EnumTable.read (Json.object (Enum.membersOf sampleEnums)).compact = .ok sampleEnums :=
    EnumTable.read_compact (by decide) isPlain_sampleEnums
  refine ⟨?_, ?_, ?_, ?_⟩
  · simp [Source.declared, sampleFamily, hchild]
    rfl
  · simp [Source.declared, sampleFamily, henums]
  · simp [Source.declared, sampleFamily]
  · simp [Source.declared, sampleFamily, hparent]
    rfl

theorem declaresOnce_sampleFamily : sampleFamily.DeclaresOnce (descriptorPaths sampleEntries) := by
  obtain ⟨hchild, henums, hnone, hparent⟩ := declared_sampleFamily
  have hall : sampleFamily.declarations (descriptorPaths sampleEntries) =
      [.class sampleChild, .enums sampleEnums, .class sampleParent] := by
    simp [Source.declarations, descriptorPaths_sampleEntries, hchild, henums, hnone, hparent,
      Except.toOption]
  refine ⟨?_, ?_, ?_⟩
  · rw [descriptorPaths_sampleEntries]
    simp [hchild, henums, hnone, hparent]
  · rw [hall]
    show ["Child", "Parent"].Nodup
    decide
  · rw [hall]
    exact Nat.le_refl 1

/-- The parent first. -/
theorem collect_perm_sample :
    (sampleFamily.DeclaresOnce (descriptorPaths sampleEntries) ∧
      sampleEntries.reverse.Perm sampleEntries) ∧
    ∃ d d', (collect sampleFamily).result = .ok d ∧
      (collect { sampleFamily with list := .ok ⟨sampleEntries.reverse, true⟩ }).result = .ok d' ∧
      d'.enums = d.enums ∧ d'.classes.Perm d.classes ∧
      (∀ c, classText d' c = classText d c) ∧
      ((∃ text, Format.lua.render d = .ok text) ↔ ∃ text, Format.lua.render d' = .ok text) ∧
      ∀ text text', Format.lua.render d = .ok text → Format.lua.render d' = .ok text' →
        ∃ blocks blocks', Lua.Renders d text blocks ∧ Lua.Renders d' text' blocks' ∧
          blocks'.Perm blocks := by
  have hlist : sampleFamily.list = .ok ⟨sampleEntries, false⟩ := rfl
  exact ⟨⟨declaresOnce_sampleFamily, List.reverse_perm _⟩,
    collect_perm hlist declaresOnce_sampleFamily (List.reverse_perm _)⟩

end Repository

end LuaStubs
