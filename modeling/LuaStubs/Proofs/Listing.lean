import LuaStubs.Proofs.Checkout
import LuaStubs.Proofs.Files.Arrival

/-! The listing of a checkout, however the path to its folder is written: nothing below the folder
is left out, unless the path begins with a dot.  Then nothing is listed at all. -/
namespace LuaStubs.Checkout

open Files (IsName join names under)
open Repository (Entry Listing)

variable {fs : FileSystem} {root : String}

theorem pattern_eq (hne : root ≠ "") : pattern root = join root "**/*.json" := by
  have hstars : IsName "**" := by decide
  exact Files.join_join hne hstars (by decide)

theorem mem_files {paths : List String} {path : String} :
    path ∈ files fs root paths ↔
      ∃ found ∈ paths, fs.isFile found = true ∧ Files.below? root found = some path := by
  rw [files, List.mem_mergeSort, List.mem_filterMap]
  simp only [List.mem_filter, and_assoc]

/-- A folder is listed exactly if its search comes upon nothing but paths. -/
theorem list_eq_ok {listing : Listing} :
    list fs root = .ok listing ↔ fs.isFolder root = true ∧
      ∃ findings paths, fs.search (join root "**/*.json") = .ok findings ∧
        FileSystem.Finding.paths findings = .ok paths ∧
        listing = ⟨(files fs root paths).map (Entry.mk .blob), false⟩ := by
  by_cases hfolder : fs.isFolder root = true
  · rw [list, if_pos hfolder, pattern_eq (FileSystem.ne_empty_of_isFolder hfolder)]
    cases hsearch : fs.search (join root "**/*.json") with
    | error fault => simp
    | ok findings =>
      constructor
      · intro hlist
        obtain ⟨paths, hpaths, hlisting⟩ := bind_eq_ok.mp hlist
        exact ⟨hfolder, findings, paths, rfl, mapError_eq_ok.mp hpaths, (Except.ok.inj hlisting).symm⟩
      · rintro ⟨-, findings', paths, heq, hpaths, rfl⟩
        obtain rfl := Except.ok.inj heq
        exact bind_eq_ok.mpr ⟨paths, mapError_eq_ok.mpr hpaths, rfl⟩
  · rw [list, if_neg hfolder]
    simp [hfolder]

/-- Every JSON file below a folder is listed under its path from there, and nothing else, whatever
dots, doubled slashes and links the path to the folder has, as long as it does not begin with a dot
and has no character that means something in a pattern. -/
theorem list_complete (hfs : fs.WellFormed) (hfolder : fs.isFolder root = true)
    (hhead : (names root).head? ≠ some ".") (hplain : ∀ c ∈ root.toList, Files.Glob.IsPlain c)
    (hlimits : fs.WithinLimits root) :
    ∃ listing, list fs root = .ok listing ∧
      (∀ path, (∀ n ∈ names path, IsName n) → Text.ends ".json" path = true →
        fs.isFile (join root path) = true → ⟨.blob, path⟩ ∈ listing.entries) ∧
      ∀ e ∈ listing.entries, e.kind = .blob ∧ (∀ n ∈ names e.path, IsName n) ∧
        Text.ends ".json" e.path = true ∧
        (FileSystem.check (join root e.path) = .ok () → fs.isFile (join root e.path) = true) := by
  obtain ⟨base, links, place, harrives, hsearch⟩ :=
    FileSystem.exists_arrives hfolder hhead hplain
  have hbase : (Files.steps base).head? ≠ some "." := by
    rw [harrives.steps]
    exact mt (Files.head?_steps harrives.meant.ne_empty).mp hhead
  have hlimits' := harrives.withinLimits hlimits
  obtain ⟨paths, hpaths, hmem⟩ := FileSystem.Finding.exists_paths (fun x hx => by
    obtain ⟨ms, -, -, rfl⟩ :=
      FileSystem.found_of_mem_expand hfs harrives.found hbase hlimits' hx
    exact ⟨under base ms, rfl⟩)
  refine ⟨_, list_eq_ok.mpr ⟨hfolder, _, paths, hsearch, hpaths, rfl⟩, ?_, ?_⟩
  · intro path hnames hends hfile
    obtain ⟨found, hfound, hsame, hbelow⟩ :=
      harrives.exists_found hfs hbase hlimits' hnames hends hfile
    exact List.mem_map_of_mem (mem_files.mpr ⟨found, (hmem found).mpr hfound, hsame, hbelow⟩)
  · intro e he
    obtain ⟨path, hpath, rfl⟩ := List.mem_map.mp he
    obtain ⟨found, hfound, hsame, hbelow⟩ := mem_files.mp hpath
    exact ⟨rfl, harrives.of_found hfs hbase hlimits' ((hmem found).mp hfound) hsame hbelow⟩

/-- Where the path begins with a dot nothing is listed: what is found has none. -/
theorem entries_of_dot (hfs : fs.WellFormed) (hhead : (names root).head? = some ".")
    (hplain : ∀ c ∈ root.toList, Files.Glob.IsPlain c) {listing : Listing}
    (hlist : list fs root = .ok listing) : listing.entries = [] := by
  obtain ⟨hfolder, findings, paths, hsearch, hpaths, rfl⟩ := list_eq_ok.mp hlist
  have hne := FileSystem.ne_empty_of_isFolder hfolder
  obtain ⟨front, slashes, hnames, -, hjoin⟩ := Files.exists_join hne
  obtain ⟨name, ns, hfront⟩ := List.exists_cons_of_ne_nil (Files.names_ne_nil front)
  have hchars : ∀ c ∈ front.toList, Files.Glob.IsPlain c :=
    fun c hc => hplain c ((Files.sublist_of_names hnames).subset hc)
  obtain rfl : name = "." := by
    rw [hnames, hfront] at hhead
    simpa using hhead
  rw [hjoin _ (by decide)] at hsearch
  have hnone : files fs root paths = [] := by
    refine List.eq_nil_iff_forall_not_mem.mpr (fun path hpath => ?_)
    obtain ⟨found, hfound, -, hbelow⟩ := mem_files.mp hpath
    have hfinding := FileSystem.Finding.mem_of_paths hpaths hfound
    have hundotted := FileSystem.head?_of_search hfs hfront hchars hsearch hfinding
    refine hundotted ?_
    rw [Files.head?_steps_of_below? hne hbelow]
    exact (Files.head?_steps hne).mpr hhead
  simp [hnone]

/-! ## One tree -/

def sampleFolder : FileSystem :=
  ⟨[(["Classes"], .folder), (["Classes", "A.json"], .file [])], []⟩

theorem wellFormed_sampleFolder : sampleFolder.WellFormed := ⟨by decide, by decide, by decide⟩

theorem unlinked_sampleFolder : sampleFolder.Unlinked [] := by
  intro ms target hnode
  by_cases hms : ms = []
  · rw [List.nil_append, hms] at hnode
    cases hnode
  · have hentry := (FileSystem.node?_eq_some wellFormed_sampleFolder (by simpa using hms)).mp hnode
    simp [sampleFolder] at hentry

theorem walk_sampleFolder {links : Nat} {place ms : List String} (hms : ∀ n ∈ ms, IsName n)
    (hsize : ∀ n ∈ ms, n.utf8ByteSize ≤ FileSystem.maxName)
    (h : sampleFolder.node? (place ++ ms) ≠ none) :
    sampleFolder.walk links place ms = .ok (place ++ ms) := by
  have hlinks : sampleFolder.Unlinked place := by
    have hbelow := unlinked_sampleFolder.append place
    rwa [List.nil_append] at hbelow
  exact FileSystem.walk_of_below wellFormed_sampleFolder hlinks hsize hms h

theorem find_sampleFolder : sampleFolder.find "Classes/./" = .ok ["Classes"] := by
  have hnames : names "Classes/./" = ["Classes"] ++ [".", ""] := by decide
  have hfirst : sampleFolder.walk FileSystem.maxLinks [] ["Classes"] = .ok ["Classes"] :=
    walk_sampleFolder (by decide) (by decide) (by decide)
  obtain ⟨links, hrest⟩ := FileSystem.walk_through hfirst
  refine FileSystem.find_eq_ok.mpr ⟨rfl, ?_⟩
  show sampleFolder.walk FileSystem.maxLinks [] _ = _
  rw [hnames, hrest, FileSystem.walk, if_neg (by decide), if_pos (by decide), FileSystem.walk,
    if_neg (by decide), if_pos (by decide), FileSystem.walk]

theorem withinLimits_sampleFolder : sampleFolder.WithinLimits "Classes/./" where
  names := by decide
  paths ms found hms hwalk hfolder := by
    obtain ⟨links, hreaches⟩ := FileSystem.exists_reaches find_sampleFolder rfl
    rw [hreaches.walk] at hwalk
    have hfound : found = ["Classes"] ++ ms :=
      FileSystem.walk_names (unlinked_sampleFolder.append ["Classes"]) hms hwalk
    rw [hfound] at hfolder
    have hentry := (FileSystem.node?_eq_some wellFormed_sampleFolder (by simp)).mp hfolder
    obtain rfl : ms = [] := by simpa [sampleFolder] using hentry
    rfl

theorem isFile_sampleFolder : sampleFolder.isFile (join "Classes/./" "A.json") = true := by
  obtain ⟨links, hreaches⟩ := FileSystem.exists_reaches find_sampleFolder rfl
  have hfind : sampleFolder.find (join "Classes/./" "A.json") = .ok (["Classes"] ++ ["A.json"]) :=
    (hreaches.find_join (by decide)).mpr
      ⟨rfl, walk_sampleFolder (by decide) (by decide) (by decide)⟩
  rw [FileSystem.isFile, FileSystem.nodeAt?, hfind]
  rfl

theorem not_isFile_sampleFolder : ¬ sampleFolder.isFile (join "Classes/./" "B.json") = true := by
  intro hfile
  obtain ⟨links, hreaches⟩ := FileSystem.exists_reaches find_sampleFolder rfl
  obtain ⟨found, hfind⟩ := FileSystem.exists_find_of_isFile hfile
  obtain ⟨-, hwalk⟩ := (hreaches.find_join (by decide)).mp hfind
  have hnames : names "B.json" = ["B.json"] := by decide
  rw [hnames] at hwalk
  obtain ⟨node, hnode⟩ := FileSystem.exists_node_of_walk (by decide) hwalk
  cases hnode

/-- A dot inside the path, and a slash at its end. -/
theorem list_complete_sample :
    (sampleFolder.WellFormed ∧ sampleFolder.isFolder "Classes/./" = true ∧
      (names "Classes/./").head? ≠ some "." ∧
      (∀ c ∈ "Classes/./".toList, Files.Glob.IsPlain c) ∧ sampleFolder.WithinLimits "Classes/./") ∧
    ∃ listing, list sampleFolder "Classes/./" = .ok listing ∧
      ⟨.blob, "A.json"⟩ ∈ listing.entries ∧ ⟨.blob, "B.json"⟩ ∉ listing.entries := by
  have hfolder : sampleFolder.isFolder "Classes/./" = true :=
    FileSystem.isFolder_of_find find_sampleFolder rfl
  have hplain : ∀ c ∈ "Classes/./".toList, Files.Glob.IsPlain c :=
    Text.forall_mem_of_all (by decide)
  obtain ⟨listing, hlist, hall, honly⟩ :=
    list_complete wellFormed_sampleFolder hfolder (by decide) hplain withinLimits_sampleFolder
  exact ⟨⟨wellFormed_sampleFolder, hfolder, by decide, hplain, withinLimits_sampleFolder⟩,
    listing, hlist, hall "A.json" (by decide) (by decide) isFile_sampleFolder,
    fun hmem => not_isFile_sampleFolder ((honly _ hmem).2.2.2 rfl)⟩

theorem isFile_dot_sampleFolder : sampleFolder.isFile (join "." "Classes/A.json") = true := by
  have hnames : names "./Classes/A.json" = [".", "Classes", "A.json"] := by decide
  have hfind : sampleFolder.find "./Classes/A.json" = .ok ([] ++ ["Classes", "A.json"]) := by
    refine FileSystem.find_eq_ok.mpr ⟨rfl, ?_⟩
    show sampleFolder.walk FileSystem.maxLinks [] _ = _
    rw [hnames, FileSystem.walk, if_neg (by decide), if_pos (by decide)]
    exact walk_sampleFolder (by decide) (by decide) (by decide)
  show sampleFolder.isFile "./Classes/A.json" = true
  rw [FileSystem.isFile, FileSystem.nodeAt?, hfind]
  rfl

/-- The folder where relative paths begin, under the name of a dot. -/
theorem list_dot_incomplete :
    (sampleFolder.WellFormed ∧ sampleFolder.isFolder "." = true ∧
      sampleFolder.isFile (join "." "Classes/A.json") = true) ∧
    ¬ ∃ listing, list sampleFolder "." = .ok listing ∧
      ⟨.blob, "Classes/A.json"⟩ ∈ listing.entries := by
  refine ⟨⟨wellFormed_sampleFolder, FileSystem.isFolder_dot rfl, isFile_dot_sampleFolder⟩, ?_⟩
  rintro ⟨listing, hlist, hmem⟩
  have hnone := entries_of_dot wellFormed_sampleFolder (by decide)
    (Text.forall_mem_of_all (by decide)) hlist
  rw [hnone] at hmem
  cases hmem

end LuaStubs.Checkout
