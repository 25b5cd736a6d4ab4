import LuaStubs.Proofs.Json.Skim
import LuaStubs.Proofs.Repository.Collection
import LuaStubs.Remote.Reply

/-! What the values in replies of the API say: the files of a listing, and the payload of a file. -/
namespace LuaStubs.Remote

open Json (Decoder Fields Schema)
open Repository (IsDescriptor descriptorPaths)

def Item.schema : Schema Item :=
  Schema.object ["path", "type"] (fun members => do
    let path ← Schema.optional "path" Schema.string members
    let type ← Schema.optional "type" Schema.string members
    return ⟨path, type⟩)

def Tree.schema : Schema Tree :=
  Schema.object ["tree", "truncated"] (fun members => do
    let items ← Schema.required "tree" (Schema.list Item.schema) members
    let truncated ← Schema.withDefault "truncated" Schema.bool false members
    return ⟨items, truncated⟩)

def File.schema : Schema File :=
  Schema.object ["content"] (fun members => do
    let payload ← Schema.optional "content" Schema.string members
    return ⟨payload⟩)

theorem Item.reads_decoder : Item.decoder.Reads Item.schema := by
  refine Fields.Reads.looseDecoder (.congr (.apply (.map Item.mk
    (Fields.reads_optionalMember ?_ Decoder.reads_string))
    (Fields.reads_optionalMember ?_ Decoder.reads_string)) ?_) "TreeItem"
  case refine_3 =>
    intro members
    simp only [Option.map_eq_bind, Option.bind_assoc, Function.comp_apply, Option.bind_some]
    rfl
  all_goals decide

theorem Tree.reads_decoder : Tree.decoder.Reads Tree.schema := by
  refine Fields.Reads.looseDecoder (.congr (.apply (.map Tree.mk
    (Fields.reads_required ?_ Item.reads_decoder.list))
    (Fields.reads_withDefault ?_ Decoder.reads_bool false)) ?_) "TreeResponse"
  case refine_3 =>
    intro members
    simp only [Option.map_eq_bind, Option.bind_assoc, Function.comp_apply, Option.bind_some]
    rfl
  all_goals decide

theorem File.reads_decoder : File.decoder.Reads File.schema := by
  refine Fields.Reads.looseDecoder (.congr (.map File.mk
    (Fields.reads_optionalMember ?_ Decoder.reads_string)) ?_) "ContentResponse"
  case refine_2 =>
    intro members
    simp only [Option.map_eq_bind]
    rfl
  all_goals decide

theorem readBody_of_reads {α : Type} {d : Decoder α} {g : Schema α} (h : d.Reads g) {body : String}
    {j : Json} {a : α} (hbody : Decoder.json.run body = .ok j) (ha : g j = some a) :
    readBody d body = .ok a :=
  mapError_eq_ok.mpr (h.run hbody ha)

/-- The path of an item that is a file. -/
def Item.file? (i : Item) : Option String := if i.type = some "blob" then i.path else none

/-- An item is listed as a file, or as a folder, or not at all. -/
theorem Item.entry?_cases (i : Item) :
    (∃ path, i.entry? = some ⟨.blob, path⟩ ∧ i.file? = some path) ∨
      (∃ path, i.entry? = some ⟨.tree, path⟩ ∧ i.file? = none) ∨
        i.entry? = none ∧ i.file? = none := by
  obtain ⟨path, type⟩ := i
  unfold Item.entry? Item.kind? Item.file?
  cases path with
  | none => split <;> simp
  | some path =>
    dsimp only
    split
    · next => simp
    · next => simp
    · next hblob _ => simpa using hblob

/-- The descriptors in a listing are those among its files. -/
theorem Tree.descriptorPaths_listing (t : Tree) :
    descriptorPaths t.listing.entries =
      (t.items.filterMap Item.file?).filter (fun path => IsDescriptor path) := by
  unfold Tree.listing descriptorPaths
  dsimp only
  induction t.items with
  | nil => rfl
  | cons i items ih =>
    rcases i.entry?_cases with ⟨path, hentry, hfile⟩ | ⟨path, hentry, hfile⟩ | ⟨hentry, hfile⟩
    · rw [List.filterMap_cons_some hentry, List.filterMap_cons_some hfile]
      by_cases hpath : IsDescriptor path
      · simpa [hpath] using ih
      · simpa [hpath] using ih
    · rw [List.filterMap_cons_some hentry, List.filterMap_cons_none hfile, ← ih]
      simp
    · rw [List.filterMap_cons_none hentry, List.filterMap_cons_none hfile, ih]

end LuaStubs.Remote
