import LuaStubs.Proofs.Files.FileSystem

/-! What making a folder and writing a file into it change: two places are taken that were free, and
nothing else. -/
namespace LuaStubs.FileSystem

open LuaStubs.Files

variable {fs fs' : FileSystem}

/-! ## Spots -/

/-- Slashes at the end of a path do not count. -/
theorem dropWhile_reverse {front slashes : List String} {name : String} (hname : name ≠ "")
    (hslashes : ∀ n ∈ slashes, n = "") :
    (front ++ name :: slashes).reverse.dropWhile (fun n => decide (n = "")) =
      name :: front.reverse := by
  have hdrop : slashes.reverse.dropWhile (fun n => decide (n = "")) = [] :=
    List.dropWhile_eq_nil_iff.mpr (fun n hn => by simpa using hslashes n (List.mem_reverse.mp hn))
  rw [List.reverse_append, List.reverse_cons, List.append_assoc, List.dropWhile_append, hdrop]
  simp [hname]

/-- The last name of a path and those before it are known. -/
theorem last_unique {front front' slashes slashes' : List String} {name name' : String}
    (h : front ++ name :: slashes = front' ++ name' :: slashes') (hname : name ≠ "")
    (hname' : name' ≠ "") (hslashes : ∀ n ∈ slashes, n = "") (hslashes' : ∀ n ∈ slashes', n = "") :
    front = front' ∧ name = name' := by
  have hdrop : name :: front.reverse = name' :: front'.reverse := by
    rw [← dropWhile_reverse hname hslashes, h, dropWhile_reverse hname' hslashes']
  obtain ⟨hsame, hreverse⟩ := List.cons.inj hdrop
  exact ⟨List.reverse_injective hreverse, hsame⟩

theorem spot_eq_ok {path name : String} {place : List String} :
    fs.spot path = .ok (place, name) ↔
      check path = .ok () ∧ ∃ front slashes, names path = front ++ name :: slashes ∧ name ≠ "" ∧
        (∀ n ∈ slashes, n = "") ∧ fs.walk maxLinks (fs.start path) front = .ok place ∧
        fs.node? place = some .folder := by
  unfold spot
  rw [bind_eq_ok]
  constructor
  · rintro ⟨⟨⟩, hcheck, h⟩
    split at h
    · cases h
    · next last front hlast =>
      obtain ⟨found, hwalk, h⟩ := bind_eq_ok.mp h
      split at h
      · cases h
      · next hfolder =>
        cases h
        have hsplit := List.takeWhile_append_dropWhile (p := (· = "")) (l := (names path).reverse)
        have hname := List.head?_dropWhile_not (fun n => decide (n = "")) (names path).reverse
        rw [hlast] at hsplit hname
        refine ⟨hcheck, front.reverse, ((names path).reverse.takeWhile (· = "")).reverse, ?_,
          by simpa using hname, fun n hn => ?_, hwalk, not_not.mp hfolder⟩
        · simpa using (congrArg List.reverse hsplit).symm
        · simpa using List.mem_takeWhile_imp (List.mem_reverse.mp hn)
  · rintro ⟨hcheck, front, slashes, hnames, hname, hslashes, hwalk, hfolder⟩
    refine ⟨(), hcheck, ?_⟩
    rw [hnames, dropWhile_reverse hname hslashes]
    simp [hwalk, hfolder, bind, Except.bind]
    rfl

/-- In a folder that a path leads to each name has its spot. -/
theorem spot_join {base name : String} {place : List String} (hfind : fs.find base = .ok place)
    (hfolder : fs.node? place = some .folder) (hname : IsName name)
    (hcheck : check (join base name) = .ok ()) : fs.spot (join base name) = .ok (place, name) := by
  obtain ⟨links, hreaches⟩ := exists_reaches hfind hfolder
  obtain ⟨front, slashes, hbase, hslashes, hjoin⟩ := exists_join hreaches.ne_empty
  have hnames : names (join base name) = names front ++ [name] := by
    rw [hjoin name hname.isAbsolute, names_slash, names_of_isName hname]
  have hstart : fs.start (join base name) = fs.start base := by
    rw [start, isAbsolute_join hreaches.ne_empty hname.isAbsolute, start]
  refine spot_eq_ok.mpr ⟨hcheck, names front, [], hnames, hname.1, by simp, ?_, hfolder⟩
  have hstop := hreaches.walk_front hbase hslashes []
  rwa [List.append_nil, walk, ← hstart] at hstop

/-! ## Additions -/

theorem node?_put {place : List String} (hne : place ≠ []) (n : Node) (other : List String) :
    (fs.put place n).node? other = if other = place then some n else fs.node? other := by
  unfold node? put
  by_cases hother : other = place
  · subst hother
    rw [if_neg hne, if_pos rfl]
    exact congrArg (Option.map Prod.snd) (Keyed.get?_put_self Prod.fst (other, n) fs.entries)
  · rw [if_neg hother, Keyed.get?_put_of_ne Prod.fst _ _ hother]

/-- Whatever there is stays as it is. -/
structure Keeps (fs fs' : FileSystem) : Prop where
  here : fs'.here = fs.here
  nodes : ∀ place node, fs.node? place = some node → fs'.node? place = some node

theorem keeps_refl (fs : FileSystem) : fs.Keeps fs := ⟨rfl, fun _ _ h => h⟩

theorem keeps_put {place : List String} (hne : place ≠ []) (hfree : fs.node? place = none)
    (n : Node) : fs.Keeps (fs.put place n) := by
  refine ⟨rfl, fun other node hother => ?_⟩
  have hdifferent : other ≠ place := by
    rintro rfl
    rw [hfree] at hother
    cases hother
  rw [node?_put hne, if_neg hdifferent, hother]

/-- A walk goes through nothing but what there is. -/
theorem Keeps.walk (h : fs.Keeps fs') {links : Nat} {place ns found : List String}
    (hwalk : fs.walk links place ns = .ok found) : fs'.walk links place ns = .ok found := by
  induction links, place, ns using FileSystem.walk.induct fs with
  | case1 links place => rwa [FileSystem.walk] at hwalk ⊢
  | case2 links place name ns hfolder =>
    rw [FileSystem.walk, if_pos hfolder] at hwalk
    cases hwalk
  | case3 links place name ns hfolder hstep ih =>
    have hfolder' := h.nodes _ _ (not_not.mp hfolder)
    rw [FileSystem.walk, if_neg hfolder, if_pos hstep] at hwalk
    rw [FileSystem.walk, if_neg (not_not.mpr hfolder'), if_pos hstep]
    exact ih hwalk
  | case4 links place ns hfolder hstep ih =>
    have hfolder' := h.nodes _ _ (not_not.mp hfolder)
    rw [FileSystem.walk, if_neg hfolder, if_neg hstep, if_pos rfl] at hwalk
    rw [FileSystem.walk, if_neg (not_not.mpr hfolder'), if_neg hstep, if_pos rfl]
    exact ih hwalk
  | case5 links place name ns hfolder hstep hup hsize =>
    rw [FileSystem.walk, if_neg hfolder, if_neg hstep, if_neg hup, if_pos hsize] at hwalk
    cases hwalk
  | case6 links place name ns hfolder hstep hup hsize hnode =>
    rw [FileSystem.walk, if_neg hfolder, if_neg hstep, if_neg hup, if_neg hsize, hnode] at hwalk
    cases hwalk
  | case7 place name ns hfolder hstep hup hsize target hnode =>
    rw [FileSystem.walk, if_neg hfolder, if_neg hstep, if_neg hup, if_neg hsize, hnode] at hwalk
    cases hwalk
  | case8 place name ns hfolder hstep hup hsize target hnode links ih =>
    have hfolder' := h.nodes _ _ (not_not.mp hfolder)
    rw [FileSystem.walk, if_neg hfolder, if_neg hstep, if_neg hup, if_neg hsize, hnode] at hwalk
    rw [FileSystem.walk, if_neg (not_not.mpr hfolder'), if_neg hstep, if_neg hup, if_neg hsize,
      h.nodes _ _ hnode]
    exact ih hwalk
  | case9 links place name ns hfolder hstep hup hsize node hlink hnode ih =>
    have hfolder' := h.nodes _ _ (not_not.mp hfolder)
    rw [FileSystem.walk, if_neg hfolder, if_neg hstep, if_neg hup, if_neg hsize, hnode] at hwalk
    rw [FileSystem.walk, if_neg (not_not.mpr hfolder'), if_neg hstep, if_neg hup, if_neg hsize,
      h.nodes _ _ hnode]
    cases node with
    | link target => exact absurd rfl (hlink target)
    | _ => exact ih hwalk

theorem Keeps.start (h : fs.Keeps fs') (path : String) : fs'.start path = fs.start path := by
  rw [FileSystem.start, h.here, FileSystem.start]

theorem Keeps.find (h : fs.Keeps fs') {path : String} {place : List String}
    (hfind : fs.find path = .ok place) : fs'.find path = .ok place := by
  obtain ⟨hcheck, hwalk⟩ := find_eq_ok.mp hfind
  refine find_eq_ok.mpr ⟨hcheck, ?_⟩
  rw [h.start]
  exact h.walk hwalk

/-! ## A new folder -/

theorem makeFolder_eq_ok {path : String} {made : FileSystem} :
    fs.makeFolder path = .ok made ↔
      ∃ place name, fs.spot path = .ok (place, name) ∧ isStep name = true ∧ name ≠ ".." ∧
        name.utf8ByteSize ≤ maxName ∧ fs.node? (place ++ [name]) = none ∧
        made = fs.put (place ++ [name]) .folder := by
  rw [makeFolder, bind_eq_ok]
  constructor
  · rintro ⟨⟨place, name⟩, hspot, h⟩
    simp only at h
    split_ifs at h with hstep hsize hthere
    cases h
    simp only [Bool.or_eq_true, Bool.not_eq_true', decide_eq_true_eq, not_or] at hstep
    exact ⟨place, name, hspot, by simpa using hstep.1, hstep.2, by omega, by simpa using hthere, rfl⟩
  · rintro ⟨place, name, hspot, hstep, hup, hsize, hfree, rfl⟩
    refine ⟨_, hspot, ?_⟩
    simp [hstep, hup, hfree, Nat.not_lt.mpr hsize]
    rfl

/-- The path of a new folder leads to it, and the place was free. -/
theorem find_made {path : String} {made : FileSystem} (h : fs.makeFolder path = .ok made) :
    ∃ place, place ≠ [] ∧ fs.node? place = none ∧ made = fs.put place .folder ∧
      made.find path = .ok place := by
  obtain ⟨place, name, hspot, hstep, hup, hsize, hfree, rfl⟩ := makeFolder_eq_ok.mp h
  obtain ⟨hcheck, front, slashes, hnames, -, hslashes, hwalk, hfolder⟩ := spot_eq_ok.mp hspot
  have hne : place ++ [name] ≠ [] := by simp
  have hkeeps : fs.Keeps (fs.put (place ++ [name]) .folder) := keeps_put hne hfree .folder
  have hnew : (fs.put (place ++ [name]) .folder).node? (place ++ [name]) = some .folder := by
    rw [node?_put hne, if_pos rfl]
  refine ⟨place ++ [name], hne, hfree, rfl, find_eq_ok.mpr ⟨hcheck, ?_⟩⟩
  obtain ⟨links, hrest⟩ := walk_through (hkeeps.walk hwalk)
  rw [hkeeps.start, hnames, hrest, walk, if_neg (not_not.mpr (hkeeps.nodes _ _ hfolder)),
    if_neg (by simp [hstep]), if_neg hup, if_neg (Nat.not_lt.mpr hsize), hnew]
  exact walk_only_slashes hnew hslashes

/-- Something stands at the end of a path already, if only a link that leads nowhere. -/
def Taken (fs : FileSystem) (path : String) : Prop :=
  fs.isThere path = true ∨
    ∃ place name, fs.spot path = .ok (place, name) ∧ fs.node? (place ++ [name]) ≠ none

/-- The folder above the end of a path is missing; a lone name belongs where relative paths begin. -/
def Orphaned (fs : FileSystem) (path : String) : Prop :=
  ∃ parent name slashes, path = join parent name ++ String.ofList slashes ∧ name ≠ "" ∧
    '/' ∉ name.toList ∧ (∀ c ∈ slashes, c = '/') ∧
    fs.isFolder (if parent = "" then "." else parent) = false

theorem not_taken_of_makeFolder {path : String} {made : FileSystem}
    (h : fs.makeFolder path = .ok made) : ¬ fs.Taken path := by
  obtain ⟨place, name, hspot, hstep, hup, hsize, hfree, -⟩ := makeFolder_eq_ok.mp h
  rintro (hthere | ⟨place', name', hspot', hnode⟩)
  · obtain ⟨-, front, slashes, hnames, -, -, hwalk, hfolder⟩ := spot_eq_ok.mp hspot
    obtain ⟨links, hrest⟩ := walk_through hwalk
    have hmissing : fs.walk maxLinks (fs.start path) (names path) = .error .missing := by
      rw [hnames, hrest, walk, if_neg (not_not.mpr hfolder), if_neg (by simp [hstep]), if_neg hup,
        if_neg (Nat.not_lt.mpr hsize), hfree]
    cases hfind : fs.find path with
    | error fault =>
      rw [isThere, nodeAt?, hfind] at hthere
      cases hthere
    | ok found =>
      rw [(find_eq_ok.mp hfind).2] at hmissing
      cases hmissing
  · rw [hspot] at hspot'
    cases hspot'
    exact hnode hfree

/-- A spot is where the names before the last one lead. -/
theorem walk_of_spot {path name name' : String} {place front slashes : List String}
    (hspot : fs.spot path = .ok (place, name')) (hnames : names path = front ++ name :: slashes)
    (hname : name ≠ "") (hslashes : ∀ n ∈ slashes, n = "") :
    fs.walk maxLinks (fs.start path) front = .ok place ∧ fs.node? place = some .folder := by
  obtain ⟨-, front', slashes', hnames', hname', hslashes', hwalk, hfolder⟩ := spot_eq_ok.mp hspot
  have hsame : front = front' :=
    (last_unique (hnames.symm.trans hnames') hname hname' hslashes hslashes').1
  exact ⟨hsame ▸ hwalk, hfolder⟩

theorem not_orphaned_of_makeFolder {path : String} {made : FileSystem}
    (h : fs.makeFolder path = .ok made) : ¬ fs.Orphaned path := by
  rintro ⟨parent, name, slashes, rfl, hname, hslash, hslashes, hmissing⟩
  obtain ⟨place, name', hspot, -⟩ := makeFolder_eq_ok.mp h
  obtain ⟨empty, hempty, hnames⟩ := exists_names_slashes (join parent name) hslashes
  have hrelative := isAbsolute_of_no_slash hslash
  have hlone := names_of_no_slash hslash
  by_cases hparent : parent = ""
  · subst hparent
    have hjoin : join "" name = name := by
      rw [join, if_neg (by simp [hrelative]), if_pos (by simp), String.empty_append]
    rw [hjoin] at hspot hnames
    have hlast : names (name ++ String.ofList slashes) = [] ++ name :: empty := by
      rw [hnames, hlone]
      rfl
    obtain ⟨hwalk, hfolder⟩ := walk_of_spot hspot hlast hname hempty
    rw [start, isAbsolute_append hname, hrelative, walk] at hwalk
    obtain rfl := Except.ok.inj hwalk
    rw [if_pos rfl, isFolder_dot hfolder] at hmissing
    cases hmissing
  · obtain ⟨stem, rest, hbase, hrest, hjoin⟩ := exists_join hparent
    rw [hjoin name hrelative, names_slash, hlone, List.append_assoc, ← hjoin name hrelative] at hnames
    obtain ⟨hwalk, hfolder⟩ := walk_of_spot hspot hnames hname hempty
    obtain ⟨links, hthrough⟩ := walk_through hwalk
    obtain ⟨further, hfurther⟩ := exists_append_of_join parent hrelative
    have hcheck := (spot_eq_ok.mp hspot).1
    rw [hfurther, String.append_assoc] at hcheck hthrough
    have hstart : fs.start (parent ++ (further ++ String.ofList slashes)) = fs.start parent := by
      rw [start, start, isAbsolute_append hparent]
    have hfind : fs.find parent = .ok place := by
      refine find_eq_ok.mpr ⟨check_of_append hparent hcheck, ?_⟩
      rw [hbase, ← hstart, hthrough, walk_only_slashes hfolder hrest]
    rw [if_neg hparent, isFolder_of_find hfind hfolder] at hmissing
    cases hmissing

/-! ## A file in a new folder -/

/-- `after` is `fs` with a new folder at `place`, and a new file in it. -/
structure Adds (fs after : FileSystem) (place : List String) (name : String) (bytes : List UInt8) :
    Prop where
  here : after.here = fs.here
  folder : fs.node? place = none
  file : fs.node? (place ++ [name]) = none
  nodes : ∀ other, after.node? other =
    if other = place then some .folder
    else if other = place ++ [name] then some (.file bytes)
    else fs.node? other

theorem Adds.keeps {after : FileSystem} {place : List String} {name : String} {bytes : List UInt8}
    (h : fs.Adds after place name bytes) : fs.Keeps after := by
  refine ⟨h.here, fun other node hnode => ?_⟩
  have hfolder : other ≠ place := by
    rintro rfl
    rw [h.folder] at hnode
    cases hnode
  have hfile : other ≠ place ++ [name] := by
    rintro rfl
    rw [h.file] at hnode
    cases hnode
  rw [h.nodes, if_neg hfolder, if_neg hfile, hnode]

/-- There is nothing below a place that is free. -/
theorem adds_put (hfs : fs.WellFormed) {place : List String} (hne : place ≠ [])
    (hfree : fs.node? place = none) (name : String) (bytes : List UInt8) :
    fs.Adds ((fs.put place .folder).put (place ++ [name]) (.file bytes)) place name bytes := by
  refine ⟨rfl, hfree, ?_, fun other => ?_⟩
  · by_contra hthere
    rw [folder_of_below hfs (List.cons_ne_nil name []) hthere] at hfree
    cases hfree
  · rw [node?_put (by simp), node?_put hne]
    by_cases hother : other = place
    · rw [if_neg (by simp [hother]), if_pos hother, if_pos hother]
    · rw [if_neg hother, if_neg hother]

section

variable {path name : String} {made : FileSystem} {bytes : List UInt8}

/-- A file that is written into the folder just made is found there, and the folder holds nothing
else.  Only the length of its path can stand against it. -/
theorem writeFile_made (hfs : fs.WellFormed) (hmade : fs.makeFolder path = .ok made)
    (hname : IsName name) (hsize : name.utf8ByteSize ≤ maxName)
    (hcheck : check (join path name) = .ok ()) :
    ∃ place written, made.writeFile (join path name) bytes = .ok written ∧
      fs.Adds written place name bytes ∧ written.find path = .ok place ∧
      written.find (join path name) = .ok (place ++ [name]) := by
  obtain ⟨place, hne, hfree, rfl, hfind⟩ := find_made hmade
  have hadds := adds_put hfs hne hfree name bytes
  have hfolder : (fs.put place .folder).node? place = some .folder := by
    rw [node?_put hne, if_pos rfl]
  have hfile : (fs.put place .folder).node? (place ++ [name]) = none := by
    rw [node?_put hne, if_neg (by simp), hadds.file]
  have hends := ends_join (check_eq_ok.mp (find_eq_ok.mp hfind).1).2.1 hname
  have hwritten : (fs.put place .folder).writeFile (join path name) bytes =
      .ok ((fs.put place .folder).put (place ++ [name]) (.file bytes)) := by
    rw [writeFile, spot_join hfind hfolder hname hcheck]
    simp [bind, Except.bind, hname.isStep, hname.2.2.1, hends, Nat.not_lt.mpr hsize, hfile]
    rfl
  have hkeeps := keeps_put (by simp) hfile (.file bytes)
  refine ⟨place, _, hwritten, hadds, hkeeps.find hfind, ?_⟩
  obtain ⟨links, hreaches⟩ := exists_reaches (hkeeps.find hfind) (hkeeps.nodes _ _ hfolder)
  refine (hreaches.find_join hname.isAbsolute).mpr ⟨hcheck, ?_⟩
  have hnew := hadds.nodes (place ++ [name])
  rw [if_neg (by simp), if_pos rfl] at hnew
  rw [names_of_isName hname, walk, if_neg (not_not.mpr (hkeeps.nodes _ _ hfolder)),
    if_neg (by simp [hname.isStep]), if_neg hname.2.2.1, if_neg (Nat.not_lt.mpr hsize), hnew]
  rw [walk]

theorem check_of_writeFile {written : FileSystem} (h : fs.writeFile path bytes = .ok written) :
    check path = .ok () := by
  rw [writeFile, bind_eq_ok] at h
  obtain ⟨⟨place, name⟩, hspot, -⟩ := h
  exact (spot_eq_ok.mp hspot).1

end

end LuaStubs.FileSystem
