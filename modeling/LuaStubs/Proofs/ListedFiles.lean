import LuaStubs.Proofs.Files.Description
import LuaStubs.Proofs.Listing

/-! Listing and fetching agree, however the path to the folder is written: what is listed leads on from
the folder to a file, and that file is fetched. -/
namespace LuaStubs.FileSystem

open LuaStubs.Files

variable {fs : FileSystem} {path root rest : String}

theorem exists_file_of_isFile (h : fs.isFile path = true) :
    ∃ place bytes, fs.find path = .ok place ∧ fs.node? place = some (.file bytes) := by
  obtain ⟨place, hplace⟩ := exists_find_of_isFile h
  rw [isFile, nodeAt?, hplace] at h
  split at h
  · next bytes hnode => exact ⟨place, bytes, hplace, hnode⟩
  · cases h

/-- What is wrong with a path that is too long. -/
theorem read_of_size (hnul : ∀ c ∈ path.toList, c.toNat ≠ 0) (hsize : maxPath < path.utf8ByteSize) :
    fs.read path = .error .nameLength := by
  have hany : path.toList.any (fun c => c.toNat = 0) = false := by simpa using hnul
  have hne : path ≠ "" := by
    rintro rfl
    exact absurd hsize (by decide)
  have hcheck : check path = .error .nameLength := by
    rw [check, hany, if_neg (by simp), if_neg hne, if_pos hsize]
  rw [read, find, hcheck]
  rfl

end LuaStubs.FileSystem

namespace LuaStubs.Checkout

open Files (IsName isAbsolute isStep join names trail)
open FileSystem (IsJson)
open Remote (stored)
open Repository (Entry Listing)

variable {fs : FileSystem} {root : String} {listing : Listing}

/-- A file below a folder, at the end of some path, and the names that lead there from the folder. -/
structure Lies (fs : FileSystem) (root path : String) (ns : List String) : Prop where
  file : fs.isFile path = true
  folder : fs.isFolder root = true
  trail : trail path = trail root ++ ns
  names : ∀ n ∈ ns, isStep n = true ∧ '/' ∉ n.toList
  json : IsJson ns

theorem exists_lies (hfs : fs.WellFormed) (hlist : list fs root = .ok listing) {e : Entry}
    (he : e ∈ listing.entries) :
    e.kind = .blob ∧ ∃ path ns, Lies fs root path ns ∧ e.path = "/".intercalate ns ∧
      ("**" ∉ names root → ∀ n ∈ ns, IsName n) := by
  obtain ⟨hfolder, findings, paths, hsearch, hpaths, rfl⟩ := list_eq_ok.mp hlist
  have hne := FileSystem.ne_empty_of_isFolder hfolder
  obtain ⟨path, hpath, rfl⟩ := List.mem_map.mp he
  obtain ⟨found, hmem, hfile, hbelow⟩ := mem_files.mp hpath
  have hfinding := FileSystem.Finding.mem_of_paths hpaths hmem
  obtain ⟨ns, hns, htrail, hsteps, hjson, hnames⟩ :=
    FileSystem.isName_of_below? hfs hne hsearch hfinding hbelow
  refine ⟨rfl, found, ns, ⟨hfile, hfolder, htrail, hsteps, hjson ?_⟩, hns, hnames⟩
  -- Without names below it the file would be where the folder is.
  rintro rfl
  obtain ⟨place, bytes, hplace, hnode⟩ := FileSystem.exists_file_of_isFile hfile
  obtain ⟨links, top, htop⟩ := FileSystem.exists_reaches_of_isFolder hfolder
  rw [List.append_nil] at htrail
  rw [FileSystem.find_unique htrail hplace htop.find, htop.folder] at hnode
  cases hnode

namespace Lies

variable {path : String} {ns : List String}

theorem names_eq (h : Lies fs root path ns) : Files.names ("/".intercalate ns) = ns :=
  Files.names_intercalate_of_no_slash h.json.ne_nil (fun n hn => (h.names n hn).2)

theorem isAbsolute (h : Lies fs root path ns) : isAbsolute ("/".intercalate ns) = false := by
  obtain ⟨n, more, hcons⟩ := List.exists_cons_of_ne_nil h.json.ne_nil
  have hn : isStep n = true := (h.names n (by simp [hcons])).1
  have hempty : n ≠ "" := by
    rintro rfl
    cases hn
  have hnames : Files.names ("/".intercalate ns) = n :: more := by rw [h.names_eq, hcons]
  have hpath : "/".intercalate ns ≠ "" := by
    intro heq
    rw [heq] at hnames
    exact hempty (List.cons.inj hnames).1.symm
  exact Bool.eq_false_iff.mpr (mt (Files.isAbsolute_iff_of_names hpath hnames).mp hempty)

theorem ends_json (h : Lies fs root path ns) : Text.ends ".json" ("/".intercalate ns) = true :=
  (FileSystem.ends_json_iff h.json.ne_nil).mpr h.json

theorem ne_empty (h : Lies fs root path ns) : root ≠ "" := FileSystem.ne_empty_of_isFolder h.folder

/-- The path below the folder goes on from it as the file's own path does. -/
theorem trail_join (h : Lies fs root path ns) :
    Files.trail path = Files.trail (join root ("/".intercalate ns)) := by
  rw [h.trail, Files.trail_join root h.isAbsolute, h.names_eq,
    List.filter_eq_self.mpr (fun n hn => (h.names n hn).1)]

theorem isStep_getLast (h : Lies fs root path ns) :
    ∀ n, (Files.names (join root ("/".intercalate ns))).getLast? = some n → isStep n = true := by
  obtain ⟨front, slashes, -, -, hjoin⟩ := Files.exists_join h.ne_empty
  obtain ⟨before, last, hns, -⟩ := h.json
  have hlast : isStep last = true := (h.names last (by simp [hns])).1
  intro n hn
  rw [hjoin _ h.isAbsolute, Files.names_slash, h.names_eq, hns, ← List.append_assoc,
    List.getLast?_concat] at hn
  rwa [← Option.some.inj hn]

/-- No character of the path is one that no path can have. -/
theorem toNat_ne_zero (h : Lies fs root path ns) :
    ∀ c ∈ (join root ("/".intercalate ns)).toList, c.toNat ≠ 0 := by
  obtain ⟨links, top, htop⟩ := FileSystem.exists_reaches_of_isFolder h.folder
  obtain ⟨place, hplace⟩ := FileSystem.exists_find_of_isFile h.file
  have hroot := (FileSystem.check_eq_ok.mp htop.check).1
  have hpath := (FileSystem.check_eq_ok.mp (FileSystem.find_eq_ok.mp hplace).1).1
  have hslash : ('/').toNat ≠ 0 := by decide
  intro c hc
  rcases List.mem_append.mp ((Files.join_sublist root h.isAbsolute).subset hc) with hc | hc
  · exact hroot c hc
  · rcases List.mem_cons.mp hc with rfl | hc
    · exact hslash
    · rw [← Files.pathOf_false] at hc
      rcases Files.mem_pathOf hc with rfl | ⟨n, hn, hc⟩
      · exact hslash
      · have hmem : n ∈ Files.trail path := by
          rw [h.trail]
          exact List.mem_append_right _ hn
        rw [Files.trail_eq] at hmem
        rcases List.mem_append.mp hmem with hmem | hmem
        · split at hmem
          · rw [List.mem_singleton.mp hmem] at hc
            rw [List.mem_singleton.mp hc]
            exact hslash
          · cases hmem
        · exact hpath c (Files.mem_of_mem_names (List.mem_filter.mp hmem).1 hc)

theorem check (h : Lies fs root path ns)
    (hsize : (join root ("/".intercalate ns)).utf8ByteSize ≤ FileSystem.maxPath) :
    FileSystem.check (join root ("/".intercalate ns)) = .ok () :=
  FileSystem.check_eq_ok.mpr
    ⟨h.toNat_ne_zero, Files.join_ne_empty h.ne_empty h.isAbsolute, hsize⟩

/-- The folder joined with the path below it leads to the file, if the whole is not too long. -/
theorem exists_find_join (h : Lies fs root path ns)
    (hsize : (join root ("/".intercalate ns)).utf8ByteSize ≤ FileSystem.maxPath) :
    ∃ place bytes, fs.find (join root ("/".intercalate ns)) = .ok place ∧
      fs.node? place = some (.file bytes) := by
  obtain ⟨place, bytes, hplace, hnode⟩ := FileSystem.exists_file_of_isFile h.file
  exact ⟨place, bytes,
    FileSystem.find_of_trail h.trail_join hplace h.isStep_getLast (h.check hsize), hnode⟩

end Lies

/-! ## Fetching what is listed -/

theorem fetch_of_find {path : String} {place : List String} {bytes : List UInt8}
    (hfind : fs.find (join root path) = .ok place) (hnode : fs.node? place = some (.file bytes)) :
    (∃ text, bytes = stored text ∧ fetch fs root path = .ok (some text)) ∨
      (∀ text, bytes ≠ stored text) ∧
        fetch fs root path = .error (.fetch path FileSystem.Fault.noText.message) := by
  unfold fetch
  rw [FileSystem.read_of_find hfind hnode]
  cases htext : Text.Utf8.text bytes with
  | ok text => exact .inl ⟨text, Remote.text_eq_ok_iff_stored.mp htext, rfl⟩
  | error fault =>
    refine .inr ⟨fun text heq => ?_, rfl⟩
    rw [Remote.text_eq_ok_iff_stored.mpr heq] at htext
    cases htext

theorem stored_le {s t : String} (h : s ≤ t) : stored s ≤ stored t := by
  rw [Remote.stored_eq, Remote.stored_eq]
  by_cases hlt : s < t
  · exact List.le_of_lt (Text.Utf8.encode_lt hlt)
  · rw [String.le_antisymm h (String.not_lt.mp hlt)]
    exact List.le_refl _

/-- Every entry of a listing is a JSON file at a relative path, and the folder joined with that path
leads to the file that is fetched, its text or the fault of a file that is none.  Only a path that is
too long is refused.  Unless two stars are a name of the folder, no entry leads out of it again. -/
theorem list_agrees_with_fetch (hfs : fs.WellFormed) (hlist : list fs root = .ok listing) :
    listing.entries.Pairwise (fun e f => stored e.path ≤ stored f.path) ∧
    ∀ e ∈ listing.entries, e.kind = .blob ∧ isAbsolute e.path = false ∧
      Text.ends ".json" e.path = true ∧
      ("**" ∉ names root → ∀ n ∈ names e.path, IsName n) ∧
      ((join root e.path).utf8ByteSize ≤ FileSystem.maxPath →
        ∃ place bytes, fs.find (join root e.path) = .ok place ∧
          fs.node? place = some (.file bytes) ∧
          ((∃ text, bytes = stored text ∧ fetch fs root e.path = .ok (some text)) ∨
            (∀ text, bytes ≠ stored text) ∧
              fetch fs root e.path = .error (.fetch e.path FileSystem.Fault.noText.message))) ∧
      (FileSystem.maxPath < (join root e.path).utf8ByteSize →
        fetch fs root e.path = .error (.fetch e.path FileSystem.Fault.nameLength.message)) := by
  refine ⟨?_, fun e he => ?_⟩
  · obtain ⟨-, findings, paths, -, -, rfl⟩ := list_eq_ok.mp hlist
    exact List.pairwise_map.mpr ((pairwise_mergeSort _).imp stored_le)
  · obtain ⟨hkind, path, ns, hlies, hpath, hnames⟩ := exists_lies hfs hlist he
    rw [hpath]
    refine ⟨hkind, hlies.isAbsolute, hlies.ends_json, ?_, fun hsize => ?_, fun hsize => ?_⟩
    · rw [hlies.names_eq]
      exact hnames
    · obtain ⟨place, bytes, hfind, hnode⟩ := hlies.exists_find_join hsize
      exact ⟨place, bytes, hfind, hnode, fetch_of_find hfind hnode⟩
    · unfold fetch
      rw [FileSystem.read_of_size hlies.toNat_ne_zero hsize]

/-! ## Two trees -/

/-- A search that comes to its end early. -/
theorem search_of_expand {pattern : String} {ps : FileSystem.Pattern}
    {findings : List FileSystem.Finding} (hpattern : isAbsolute pattern = false)
    (hparse : Files.Glob.parse (FileSystem.divide pattern).2 pattern.toList = .ok ps)
    (hexpand : ∀ depth, fs.expand (depth + 6) ps (fs.stop ".") = findings) :
    fs.search pattern = .ok findings := by
  have hstart : (FileSystem.divide pattern).1 = "." := by
    rw [FileSystem.divide, hpattern]
    rfl
  have hdepth : FileSystem.maxDepth = 2043 + 6 := rfl
  rw [FileSystem.search, hstart, hparse, hdepth]
  exact congrArg Except.ok (hexpand 2043)

theorem list_of_search {path rest : String} {place : List String} {bytes : List UInt8}
    (hfolder : fs.isFolder root = true)
    (hsearch : fs.search (join root "**/*.json") = .ok [.found path])
    (hfind : fs.find path = .ok place) (hnode : fs.node? place = some (.file bytes))
    (hrest : Files.below? root path = some rest) :
    list fs root = .ok ⟨[⟨.blob, rest⟩], false⟩ := by
  have hfile : fs.isFile path = true := by
    rw [FileSystem.isFile, FileSystem.nodeAt?, hfind]
    simp [hnode]
  refine list_eq_ok.mpr ⟨hfolder, _, [path], hsearch, rfl, ?_⟩
  simp [files, hfile, hrest]

theorem stop_of_find {path : String} {place : List String} (hfind : fs.find path = .ok place)
    (hfolder : fs.node? place = some .folder) : fs.stop path = ⟨path, true⟩ := by
  rw [FileSystem.stop, FileSystem.isFolder_of_find hfind hfolder]

theorem list_sampleFolder : list sampleFolder "Classes/./" = .ok ⟨[⟨.blob, "A.json"⟩], false⟩ := by
  obtain ⟨hwalk, hwalkDot, hwalkFile⟩ :
      sampleFolder.walk FileSystem.maxLinks [] ["Classes"] = .ok ["Classes"] ∧
        sampleFolder.walk FileSystem.maxLinks [] ["Classes", "."] = .ok ["Classes"] ∧
        sampleFolder.walk FileSystem.maxLinks [] ["Classes", ".", "A.json"] =
          .ok ["Classes", "A.json"] := by
    simp +decide [FileSystem.walk, FileSystem.node?, sampleFolder]
  have hclasses : sampleFolder.find "Classes" = .ok ["Classes"] :=
    FileSystem.find_of_walk (by decide) (by decide) rfl hwalk
  have hdot : sampleFolder.find "Classes/." = .ok ["Classes"] :=
    FileSystem.find_of_walk (by decide) (by decide) rfl hwalkDot
  have hfile : sampleFolder.find "Classes/./A.json" = .ok ["Classes", "A.json"] :=
    FileSystem.find_of_walk (by decide) (by decide) rfl hwalkFile
  have hinner : sampleFolder.children "Classes/." = .ok [("A.json", .file [])] :=
    (FileSystem.children_of_find hdot).trans
      (congrArg Except.ok (FileSystem.inner_of_pairwise (by decide) (by decide)))
  have hthere : sampleFolder.isThere "Classes" = true := by
    rw [FileSystem.isThere, FileSystem.nodeAt?, hclasses]
    rfl
  have hadvance : sampleFolder.advance (sampleFolder.stop ".")
      [Files.Glob.plain "Classes".toList, Files.Glob.plain ".".toList, [.folders], Files.Glob.json] =
        some (⟨"Classes/.", true⟩, [[.folders], Files.Glob.json]) := by
    have hfirst : FileSystem.enter (sampleFolder.stop ".").path "Classes" = "Classes" := by decide
    have hsecond : FileSystem.enter "Classes" "." = "Classes/." := by decide
    have hdots : FileSystem.isDots "Classes" = false ∧ FileSystem.isDots "." = true := by decide
    simp only [FileSystem.advance, Files.Glob.literal?_plain, hfirst, hsecond, hdots, hthere,
      stop_of_find hclasses rfl, stop_of_find hdot rfl, if_true, Bool.false_eq_true, if_false]
    rfl
  refine list_of_search (FileSystem.isFolder_of_find find_sampleFolder rfl) ?_ hfile rfl (by decide)
  have hparse : Files.Glob.parse (FileSystem.divide (join "Classes/./" "**/*.json")).2
      (join "Classes/./" "**/*.json").toList = .ok [Files.Glob.plain "Classes".toList,
        Files.Glob.plain ".".toList, [.folders], Files.Glob.json] := by decide +kernel
  refine search_of_expand (by decide) hparse (fun depth => ?_)
  rw [FileSystem.expand_of_children hadvance hinner]
  rfl

/-- A dot inside the path of the folder, and a slash at its end. -/
theorem list_agrees_with_fetch_sample :
    (sampleFolder.WellFormed ∧
      list sampleFolder "Classes/./" = .ok ⟨[⟨.blob, "A.json"⟩], false⟩) ∧
    (∀ n ∈ names "A.json", IsName n) ∧
    ∃ place bytes, sampleFolder.find "Classes/./A.json" = .ok place ∧
      sampleFolder.node? place = some (.file bytes) ∧
      ((∃ text, bytes = stored text ∧ fetch sampleFolder "Classes/./" "A.json" = .ok (some text)) ∨
        (∀ text, bytes ≠ stored text) ∧ fetch sampleFolder "Classes/./" "A.json" =
          .error (.fetch "A.json" "stream did not contain valid UTF-8")) := by
  obtain ⟨-, hall⟩ := list_agrees_with_fetch wellFormed_sampleFolder list_sampleFolder
  obtain ⟨-, -, -, hnames, hfetch, -⟩ := hall ⟨.blob, "A.json"⟩ (List.mem_singleton_self _)
  exact ⟨⟨wellFormed_sampleFolder, list_sampleFolder⟩, hnames (by decide), hfetch (by decide)⟩

/-- Two stars are the name of a folder here, and so are the patterns of two more. -/
def sampleStars : FileSystem :=
  ⟨[(["**"], .folder), (["**", "?[?]"], .folder), (["**", "?[?]", ".?"], .folder),
    (["**", "?[?]", "x.json"], .file [])], []⟩

theorem children_sampleStars {path : String} {ns place : List String}
    {inner : List (String × FileSystem.Node)} (hpath : isAbsolute path = false)
    (hnames : names path = ns) (hcheck : FileSystem.check path = .ok ())
    (hwalk : sampleStars.walk FileSystem.maxLinks [] ns = .ok place)
    (hinner : sampleStars.inner place = inner) : sampleStars.children path = .ok inner := by
  rw [FileSystem.children_of_find (FileSystem.find_of_walk hpath hnames hcheck hwalk), hinner]

theorem walk_sampleStars :
    sampleStars.walk FileSystem.maxLinks [] ["."] = .ok [] ∧
      sampleStars.walk FileSystem.maxLinks [] ["**"] = .ok ["**"] ∧
      sampleStars.walk FileSystem.maxLinks [] ["**", "?[?]"] = .ok ["**", "?[?]"] ∧
      sampleStars.walk FileSystem.maxLinks [] ["**", "?[?]", ".?"] = .ok ["**", "?[?]", ".?"] ∧
      sampleStars.walk FileSystem.maxLinks [] ["**", "?[?]", ".?", ".."] = .ok ["**", "?[?]"] ∧
      sampleStars.walk FileSystem.maxLinks [] ["**", "?[?]", ".?", "..", ".?"] =
        .ok ["**", "?[?]", ".?"] ∧
      sampleStars.walk FileSystem.maxLinks [] ["**", "?[?]", ".?", "..", "x.json"] =
        .ok ["**", "?[?]", "x.json"] := by
  simp +decide [FileSystem.walk, FileSystem.node?, sampleStars]

/-- The third pattern is that of a name with a dot, so that it also stands for the folder above. -/
theorem expand_sampleStars (depth : Nat) :
    sampleStars.expand (depth + 6) [[.folders], [.any, .oneOf false [('?', '?')]],
      [.char '.', .any], [.folders], Files.Glob.json] ⟨".", true⟩ =
        [.found "**/?[?]/.?/../x.json"] := by
  obtain ⟨hhere, hwalkStars, hwalkMiddle, hwalkRoot, hwalkUp, hwalkAgain, -⟩ := walk_sampleStars
  have hinner : sampleStars.inner ["**", "?[?]"] = [(".?", .folder), ("x.json", .file [])] :=
    FileSystem.inner_of_pairwise (by decide) (by decide)
  have hlast : sampleStars.inner ["**", "?[?]", ".?"] = [] :=
    FileSystem.inner_of_pairwise (by decide) .nil
  have htop : sampleStars.children "." = .ok [("**", .folder)] :=
    children_sampleStars (by decide) (by decide) rfl hhere
      (FileSystem.inner_of_pairwise (by decide) (by decide))
  have hstars : sampleStars.children "**" = .ok [("?[?]", .folder)] :=
    children_sampleStars (by decide) (by decide) rfl hwalkStars
      (FileSystem.inner_of_pairwise (by decide) (by decide))
  have hmiddle : sampleStars.children "**/?[?]" = .ok [(".?", .folder), ("x.json", .file [])] :=
    children_sampleStars (by decide) (by decide) rfl hwalkMiddle hinner
  have hroot : sampleStars.children "**/?[?]/.?" = .ok [] :=
    children_sampleStars (by decide) (by decide) rfl hwalkRoot hlast
  have hup : sampleStars.children "**/?[?]/.?/.." = .ok [(".?", .folder), ("x.json", .file [])] :=
    children_sampleStars (by decide) (by decide) rfl hwalkUp hinner
  have hagain : sampleStars.children "**/?[?]/.?/../.?" = .ok [] :=
    children_sampleStars (by decide) (by decide) rfl hwalkAgain hlast
  have hstop : sampleStars.stop "**/?[?]/.?/.." = ⟨"**/?[?]/.?/..", true⟩ :=
    stop_of_find (FileSystem.find_of_walk (by decide) (by decide) rfl hwalkUp) rfl
  have hpaths : FileSystem.enter "." "**" = "**" ∧ FileSystem.enter "**" "?[?]" = "**/?[?]" ∧
      FileSystem.enter "**/?[?]" ".?" = "**/?[?]/.?" ∧ join "**/?[?]/.?" ".." = "**/?[?]/.?/.." ∧
      FileSystem.enter "**/?[?]/.?/.." ".?" = "**/?[?]/.?/../.?" ∧
      FileSystem.enter "**/?[?]/.?/.." "x.json" = "**/?[?]/.?/../x.json" := by decide
  rw [FileSystem.expand_of_children rfl htop]
  simp +decide [FileSystem.visit, FileSystem.matching, FileSystem.entryStop, FileSystem.dotted, hpaths]
  rw [FileSystem.expand_of_children rfl hstars]
  simp +decide [FileSystem.visit, FileSystem.matching, FileSystem.entryStop, FileSystem.dotted, hpaths]
  rw [FileSystem.expand_of_children rfl hmiddle]
  simp +decide [FileSystem.visit, FileSystem.matching, FileSystem.entryStop, FileSystem.dotted, hpaths]
  rw [FileSystem.expand_of_children rfl hroot, FileSystem.expand_of_children rfl hroot]
  simp +decide [FileSystem.visit, FileSystem.dotted, hpaths]
  rw [hstop, FileSystem.expand_of_children rfl hup]
  simp +decide [FileSystem.visit, FileSystem.matching, FileSystem.entryStop, FileSystem.dotted, hpaths]
  rw [FileSystem.expand_of_children rfl hagain]
  simp +decide [FileSystem.dotted]

/-- Where two stars are a name of the folder, a file next to it is listed as one below it. -/
theorem list_leaves_folder :
    list sampleStars "**/?[?]/.?" = .ok ⟨[⟨.blob, "../x.json"⟩], false⟩ ∧
      sampleStars.find "**/?[?]/.?" = .ok ["**", "?[?]", ".?"] ∧
      sampleStars.find (join "**/?[?]/.?" "../x.json") = .ok ["**", "?[?]", "x.json"] := by
  obtain ⟨-, -, -, hwalkRoot, -, -, hwalkFile⟩ := walk_sampleStars
  have hroot : sampleStars.find "**/?[?]/.?" = .ok ["**", "?[?]", ".?"] :=
    FileSystem.find_of_walk (by decide) (by decide) rfl hwalkRoot
  have hfile : sampleStars.find "**/?[?]/.?/../x.json" = .ok ["**", "?[?]", "x.json"] :=
    FileSystem.find_of_walk (by decide) (by decide) rfl hwalkFile
  have hhere : sampleStars.stop "." = ⟨".", true⟩ := by
    rw [FileSystem.stop, FileSystem.isFolder_dot rfl]
  have hparse : Files.Glob.parse (FileSystem.divide (join "**/?[?]/.?" "**/*.json")).2
      (join "**/?[?]/.?" "**/*.json").toList = .ok [[.folders],
        [.any, .oneOf false [('?', '?')]], [.char '.', .any], [.folders], Files.Glob.json] := by
    decide +kernel
  have hsearch : sampleStars.search (join "**/?[?]/.?" "**/*.json") =
      .ok [.found "**/?[?]/.?/../x.json"] := by
    refine search_of_expand (by decide) hparse (fun depth => ?_)
    rw [hhere, expand_sampleStars]
  have hfolder := FileSystem.isFolder_of_find hroot rfl
  exact ⟨list_of_search hfolder hsearch hfile rfl (by decide), hroot, hfile⟩

end LuaStubs.Checkout
