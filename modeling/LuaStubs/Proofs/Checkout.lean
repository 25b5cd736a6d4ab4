import LuaStubs.Checkout
import LuaStubs.Proofs.Files.Search
import LuaStubs.Proofs.Remote.Payload
import LuaStubs.Proofs.Repository.Collection
import LuaStubs.Proofs.Text.ByteOrder

/-! A folder that holds the files of a repository: its JSON files are listed in the order of their
paths, and each is fetched as it was stored. -/
namespace LuaStubs.Checkout

open Files (IsName join names pathOf)
open FileSystem (IsJson)
open Remote (stored)
open Repository (Entry IsDescriptor Kind descriptorPaths)

theorem pairwise_mergeSort (xs : List String) :
    (xs.mergeSort (fun a b => decide (a ≤ b))).Pairwise (· ≤ ·) := by
  have hmerge : (xs.mergeSort (fun a b => decide (a ≤ b))).Pairwise
      (fun a b => decide (a ≤ b) = true) :=
    List.pairwise_mergeSort
      (fun a b c hab hbc => by
        simpa using String.le_trans (by simpa using hab) (by simpa using hbc))
      (fun a b => by simpa using String.le_total a b) xs
  simpa using hmerge

/-- Sorting leaves one order for distinct paths. -/
theorem mergeSort_eq {xs ys : List String} (hxs : xs.Nodup) (hys : ys.Nodup)
    (hsorted : ys.Pairwise (· ≤ ·)) (hsame : ∀ p, p ∈ xs ↔ p ∈ ys) :
    xs.mergeSort (fun a b => decide (a ≤ b)) = ys := by
  have hperm : (xs.mergeSort (fun a b => decide (a ≤ b))).Perm ys :=
    (List.mergeSort_perm xs _).trans ((List.perm_ext_iff_of_nodup hxs hys).mpr hsame)
  exact hperm.eq_of_pairwise (fun a b _ _ hab hba => String.le_antisymm hab hba)
    (pairwise_mergeSort xs) hsorted

theorem pattern_pathOf {isTop : Bool} {ns : List String} (hne : ns ≠ [])
    (hns : ∀ n ∈ ns, IsName n) :
    pattern (pathOf isTop ns) = pathOf isTop (ns ++ ["**", "*.json"]) := by
  have hstars : ∀ n ∈ ns ++ ["**"], IsName n := List.forall_mem_append.mpr ⟨hns, by decide⟩
  have hall : ∀ n ∈ ns ++ ["**"] ++ ["*.json"], IsName n :=
    List.forall_mem_append.mpr ⟨hstars, by decide⟩
  have hfirst : join (pathOf isTop ns) ("/".intercalate ["**"]) = pathOf isTop (ns ++ ["**"]) :=
    Files.join_pathOf hne (by simp) hstars
  have hsecond : join (pathOf isTop (ns ++ ["**"])) ("/".intercalate ["*.json"]) =
      pathOf isTop (ns ++ ["**"] ++ ["*.json"]) := Files.join_pathOf (by simp) (by simp) hall
  rw [String.intercalate_singleton] at hfirst hsecond
  rw [pattern, hfirst, hsecond, List.append_assoc]
  rfl

/-- Plain names, from the top or from where relative paths begin. -/
def IsPlainRoot (root : String) : Prop :=
  ∃ isTop ns, root = pathOf isTop ns ∧ ns ≠ [] ∧
    ∀ n ∈ ns, IsName n ∧ ∀ c ∈ n.toList, Files.Glob.IsPlain c

/-- The folder `top`, to which `root` leads, holds these files and no others, in folders only, and
whatever it holds can be reached from `root` by its path. -/
structure Holds (fs : FileSystem) (root : String) (top : List String)
    (files : List (String × String)) : Prop where
  place : fs.find root = .ok top
  folder : fs.node? top = some .folder
  all : ∀ f ∈ files, fs.node? (top ++ names f.1) = some (.file (stored f.2))
  only : ∀ ms node, ms ≠ [] → fs.node? (top ++ ms) = some node →
    node = .folder ∨ ∃ f ∈ files, names f.1 = ms ∧ node = .file (stored f.2)
  reachable : ∀ ms, ms ≠ [] → fs.node? (top ++ ms) ≠ none →
    fs.isThere (join root ("/".intercalate ms)) = true

section

variable {fs : FileSystem} {isTop : Bool} {ns top : List String} {files : List (String × String)}

theorem Holds.unlinked (h : Holds fs (pathOf isTop ns) top files) : fs.Unlinked top := by
  intro ms target hnode
  by_cases hms : ms = []
  · rw [hms, List.append_nil, h.folder] at hnode
    cases hnode
  · rcases h.only ms _ hms hnode with heq | ⟨f, -, -, heq⟩ <;> cases heq

theorem names_of_below (hfs : fs.WellFormed) {ms : List String} (hms : ms ≠ [])
    (hthere : fs.node? (top ++ ms) ≠ none) : ∀ n ∈ ms, IsName n := by
  obtain ⟨node, hnode⟩ := Option.ne_none_iff_exists'.mp hthere
  have hentry := (FileSystem.node?_eq_some hfs (by simp [hms])).mp hnode
  exact (List.forall_mem_append.mp (hfs.named _ hentry).2).2

variable (hfs : fs.WellFormed) (hne : ns ≠ []) (hns : ∀ n ∈ ns, IsName n)
include hfs hne hns

/-- Whatever the folder holds is found under its path. -/
theorem Holds.find_below (h : Holds fs (pathOf isTop ns) top files) {ms : List String}
    (hms : ms ≠ []) (hthere : fs.node? (top ++ ms) ≠ none) :
    fs.find (pathOf isTop (ns ++ ms)) = .ok (top ++ ms) := by
  have hall : ∀ n ∈ ns ++ ms, IsName n :=
    List.forall_mem_append.mpr ⟨hns, names_of_below hfs hms hthere⟩
  have hreach := h.reachable ms hms hthere
  rw [Files.join_pathOf hne hms hall, FileSystem.isThere, FileSystem.nodeAt?] at hreach
  cases hfind : fs.find (pathOf isTop (ns ++ ms)) with
  | error fault =>
    rw [hfind] at hreach
    cases hreach
  | ok found => rw [FileSystem.find_append hne hall h.place h.unlinked hfind]

theorem Holds.isOpen (h : Holds fs (pathOf isTop ns) top files) : fs.IsOpen isTop ns top := by
  intro ms hfolder
  by_cases hms : ms = []
  · rw [hms, List.append_nil, List.append_nil]
    exact h.place
  · exact h.find_below hfs hne hns hms (by simp [hfolder])

/-- Paths are too short for more names than the search goes through. -/
theorem Holds.length_le (h : Holds fs (pathOf isTop ns) top files) {ms : List String}
    (hms : ms ≠ []) (hthere : fs.node? (top ++ ms) ≠ none) : ms.length ≤ FileSystem.maxDepth := by
  have hms' := names_of_below hfs hms hthere
  have hall : ∀ n ∈ ns ++ ms, IsName n := List.forall_mem_append.mpr ⟨hns, hms'⟩
  have hfind := h.find_below hfs hne hns hms hthere
  have hsize := (FileSystem.check_eq_ok.mp
    ((FileSystem.find_pathOf (by simp [hne]) hall).mp hfind).1).2.2
  have hlonger : (pathOf isTop ns).utf8ByteSize + 2 * ms.length ≤
      (pathOf isTop (ns ++ ms)).utf8ByteSize := Files.size_pathOf_append hne hms'
  unfold FileSystem.maxDepth
  omega

theorem Holds.isFile_iff (h : Holds fs (pathOf isTop ns) top files) {ms : List String}
    (hms : ms ≠ []) (hthere : fs.node? (top ++ ms) ≠ none) :
    fs.isFile (pathOf isTop (ns ++ ms)) = true ↔ ∃ f ∈ files, names f.1 = ms := by
  have hfind := h.find_below hfs hne hns hms hthere
  rw [FileSystem.isFile, FileSystem.nodeAt?, hfind]
  constructor
  · intro hfile
    obtain ⟨node, hnode⟩ := Option.ne_none_iff_exists'.mp hthere
    rcases h.only ms node hms hnode with rfl | ⟨f, hf, hnames, -⟩
    · simp [hnode] at hfile
    · exact ⟨f, hf, hnames⟩
  · rintro ⟨f, hf, rfl⟩
    simp [h.all f hf]

/-- What is found is listed under the paths below the folder. -/
theorem filterMap_below? (depth : Nat) :
    (((fs.jsonBelow depth top).map (fun ms => pathOf isTop (ns ++ ms))).filter fs.isFile).filterMap
        (Files.below? (pathOf isTop ns)) =
      ((fs.jsonBelow depth top).filter (fun ms => fs.isFile (pathOf isTop (ns ++ ms)))).map
        "/".intercalate := by
  rw [List.filter_map, List.filterMap_map, ← List.filterMap_eq_map]
  refine List.filterMap_congr (fun ms hms => ?_)
  obtain ⟨-, hjson, hthere⟩ := (FileSystem.mem_jsonBelow hfs).mp (List.mem_of_mem_filter hms)
  exact Files.below?_pathOf hne
    (List.forall_mem_append.mpr ⟨hns, names_of_below hfs hjson.ne_nil hthere⟩)

/-- The JSON files among those that the folder holds. -/
theorem Holds.mem_files_iff (h : Holds fs (pathOf isTop ns) top files) {path : String} :
    path ∈ ((fs.jsonBelow FileSystem.maxDepth top).filter
        (fun ms => fs.isFile (pathOf isTop (ns ++ ms)))).map "/".intercalate ↔
      path ∈ (files.map Prod.fst).filter (Text.ends ".json") := by
  rw [List.mem_map, List.mem_filter, List.mem_map]
  constructor
  · rintro ⟨ms, hms, rfl⟩
    obtain ⟨hmem, hfile⟩ := List.mem_filter.mp hms
    obtain ⟨-, hjson, hthere⟩ := (FileSystem.mem_jsonBelow hfs).mp hmem
    obtain ⟨f, hf, rfl⟩ := (h.isFile_iff hfs hne hns hjson.ne_nil hthere).mp hfile
    exact ⟨⟨f, hf, (Files.intercalate_names f.1).symm⟩,
      (FileSystem.ends_json_iff hjson.ne_nil).mpr hjson⟩
  · rintro ⟨⟨f, hf, rfl⟩, hends⟩
    have hms := Files.names_ne_nil f.1
    have hthere : fs.node? (top ++ names f.1) ≠ none := by simp [h.all f hf]
    have hjson : IsJson (names f.1) :=
      (FileSystem.ends_json_iff hms).mp (by rwa [Files.intercalate_names])
    refine ⟨names f.1, List.mem_filter.mpr ⟨?_, ?_⟩, Files.intercalate_names f.1⟩
    · exact (FileSystem.mem_jsonBelow hfs).mpr ⟨h.length_le hfs hne hns hms hthere, hjson, hthere⟩
    · exact (h.isFile_iff hfs hne hns hms hthere).mpr ⟨f, hf, rfl⟩

/-- The listing: the JSON files, sorted by their paths. -/
theorem Holds.list_eq (h : Holds fs (pathOf isTop ns) top files)
    (hplain : ∀ n ∈ ns, ∀ c ∈ n.toList, Files.Glob.IsPlain c)
    (hsorted : files.Pairwise (fun f g => stored f.1 < stored g.1)) :
    list fs (pathOf isTop ns) =
      .ok ⟨((files.map Prod.fst).filter (Text.ends ".json")).map (Entry.mk .blob), false⟩ := by
  have hfolder : fs.isFolder (pathOf isTop ns) = true := by
    simp [FileSystem.isFolder, FileSystem.nodeAt?, h.place, h.folder]
  have hsearch := FileSystem.search_json hfs hne (fun n hn => ⟨hns n hn, hplain n hn⟩) h.folder
    (h.isOpen hfs hne hns) h.unlinked
  rw [list, if_pos hfolder, pattern_pathOf hne hns, hsearch]
  simp only [FileSystem.paths_found]
  have hnodup : (((fs.jsonBelow FileSystem.maxDepth top).filter
      (fun ms => fs.isFile (pathOf isTop (ns ++ ms)))).map "/".intercalate).Nodup := by
    refine ((FileSystem.nodup_jsonBelow hfs _ top).filter _).map_on (fun ms hms ms' hms' heq => ?_)
    obtain ⟨-, hjson, hthere⟩ := (FileSystem.mem_jsonBelow hfs).mp (List.mem_of_mem_filter hms)
    obtain ⟨-, hjson', hthere'⟩ := (FileSystem.mem_jsonBelow hfs).mp (List.mem_of_mem_filter hms')
    rw [← Files.names_intercalate hjson.ne_nil (names_of_below hfs hjson.ne_nil hthere), heq,
      Files.names_intercalate hjson'.ne_nil (names_of_below hfs hjson'.ne_nil hthere')]
  have hpaths : (files.map Prod.fst).Pairwise (fun p q => stored p < stored q) :=
    List.pairwise_map.mpr hsorted
  have hdistinct : ((files.map Prod.fst).filter (Text.ends ".json")).Nodup := by
    refine (hpaths.imp (fun hlt heq => ?_)).filter _
    rw [heq] at hlt
    exact List.lt_irrefl _ hlt
  have hordered : ((files.map Prod.fst).filter (Text.ends ".json")).Pairwise (· ≤ ·) := by
    refine (hpaths.imp (fun hlt => ?_)).filter _
    rw [Remote.stored_eq, Remote.stored_eq] at hlt
    exact Text.Utf8.le_of_bytes_lt hlt
  have hlisted : Checkout.files fs (pathOf isTop ns)
      ((fs.jsonBelow FileSystem.maxDepth top).map (fun ms => pathOf isTop (ns ++ ms))) =
      (files.map Prod.fst).filter (Text.ends ".json") := by
    rw [Checkout.files, filterMap_below? hfs hne hns]
    exact mergeSort_eq hnodup hdistinct hordered (fun path => h.mem_files_iff hfs hne hns)
  rw [← hlisted]
  rfl

/-- A file is fetched as it was stored. -/
theorem Holds.fetch_eq (h : Holds fs (pathOf isTop ns) top files) {f : String × String}
    (hf : f ∈ files) : fetch fs (pathOf isTop ns) f.1 = .ok (some f.2) := by
  have hms := Files.names_ne_nil f.1
  have hthere : fs.node? (top ++ names f.1) ≠ none := by simp [h.all f hf]
  have hfind := h.find_below hfs hne hns hms hthere
  have hall : ∀ n ∈ ns ++ names f.1, IsName n :=
    List.forall_mem_append.mpr ⟨hns, names_of_below hfs hms hthere⟩
  have hpath : join (pathOf isTop ns) f.1 = pathOf isTop (ns ++ names f.1) := by
    rw [← Files.join_pathOf hne hms hall, Files.intercalate_names]
  have hread : fs.read (pathOf isTop (ns ++ names f.1)) = .ok f.2 := by
    rw [FileSystem.read_of_find hfind (h.all f hf), Remote.text_eq_ok_iff_stored.mpr rfl]
    rfl
  unfold fetch
  rw [hpath, hread]

end

end LuaStubs.Checkout
