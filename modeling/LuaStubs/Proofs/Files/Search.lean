import LuaStubs.Files.Search
import LuaStubs.Proofs.Files.FileSystem
import LuaStubs.Proofs.Files.Glob

/-! Searching a folder for JSON files: the names of the folder are passed, and then every JSON file
in it and below it is found once. -/
namespace LuaStubs.FileSystem

open LuaStubs.Files

variable {fs : FileSystem} {isTop : Bool}

/-! ## The way to the folder -/

/-- Where a search is after these names. -/
def stem (isTop : Bool) (ns : List String) : String :=
  if ns = [] then (if isTop then "/" else ".") else pathOf isTop ns

theorem stem_of_ne_nil {ns : List String} (hne : ns ≠ []) : stem isTop ns = pathOf isTop ns :=
  if_neg hne

theorem stem_concat (ns : List String) (n : String) :
    stem isTop (ns ++ [n]) = pathOf isTop (ns ++ [n]) := stem_of_ne_nil (by simp)

theorem enter_pathOf {ns : List String} (hne : ns ≠ []) {n : String}
    (h : ∀ n' ∈ ns ++ [n], IsName n') : enter (pathOf isTop ns) n = pathOf isTop (ns ++ [n]) := by
  obtain ⟨hns, -⟩ := List.forall_mem_append.mp h
  have hhere : isHere (pathOf isTop ns) = false := by
    have hdot : "." ∉ ns := fun hmem => (hns "." hmem).2.1 rfl
    unfold isHere
    rw [steps_pathOf hne hns]
    cases isTop with
    | true => simp
    | false =>
      simp only [Bool.false_eq_true, if_false, decide_eq_false_iff_not]
      rintro rfl
      exact hdot (List.mem_singleton_self _)
  have hjoin : join (pathOf isTop ns) ("/".intercalate [n]) = pathOf isTop (ns ++ [n]) :=
    join_pathOf hne (List.cons_ne_nil n []) h
  rw [String.intercalate_singleton] at hjoin
  rw [enter, hhere]
  exact hjoin

theorem enter_stem {ns : List String} {n : String} (h : ∀ n' ∈ ns ++ [n], IsName n') :
    enter (stem isTop ns) n = stem isTop (ns ++ [n]) := by
  rw [stem_concat]
  by_cases hne : ns = []
  · subst hne
    have hn : IsName n := h n (by simp)
    have habsolute : isAbsolute n = false := by
      have hpath : isAbsolute (pathOf false [n]) = false :=
        isAbsolute_pathOf (by simp) (by simpa using hn)
      rwa [pathOf_false, String.intercalate_singleton] at hpath
    cases isTop with
    | false =>
      have hhere : isHere "." = true := by decide
      rw [List.nil_append, pathOf_false, String.intercalate_singleton]
      exact if_pos hhere
    | true =>
      have hhere : isHere "/" = false := by decide
      have hends : Text.ends "/" "/" = true := by decide
      rw [List.nil_append, pathOf_true, String.intercalate_singleton]
      show (if isHere "/" then n else join "/" n) = _
      rw [hhere, join, habsolute, hends]
      rfl
  · rw [stem_of_ne_nil hne]
    exact enter_pathOf hne h

/-- Names that lead to a folder are passed. -/
theorem advance_names {ms ns place : List String} (hns : ms ++ ns ≠ [])
    (h : ∀ n ∈ ms ++ ns, IsName n) (hfind : fs.find (pathOf isTop (ms ++ ns)) = .ok place)
    (hfolder : fs.node? place = some .folder) {p : List Glob.Token} {ps : Pattern}
    (hp : Glob.literal? p = none) :
    fs.advance (fs.stop (stem isTop ms)) (ns.map (fun n => Glob.plain n.toList) ++ p :: ps) =
      some (fs.stop (stem isTop (ms ++ ns)), p :: ps) := by
  induction ns generalizing ms with
  | nil =>
    rw [List.map_nil, List.nil_append, List.append_nil, advance, hp]
  | cons n ns ih =>
    have hsplit : ms ++ n :: ns = (ms ++ [n]) ++ ns := by simp
    rw [hsplit] at hfind h hns ⊢
    obtain ⟨hms, -⟩ := List.forall_mem_append.mp h
    have hdots : isDots n = false := by
      have hn := hms n (by simp)
      simp [isDots, hn.2.1, hn.2.2.1]
    have hthere : fs.isThere (pathOf isTop (ms ++ [n])) = true := by
      by_cases hnil : ns = []
      · rw [hnil, List.append_nil] at hfind
        simp [isThere, nodeAt?, hfind, hfolder]
      · obtain ⟨place', hplace', hfolder'⟩ := find_of_append (by simp) hnil h hfind
        simp [isThere, nodeAt?, hplace', hfolder']
    rw [List.map_cons, List.cons_append, advance, Glob.literal?_plain]
    show (if (if isDots n then fs.isFolder (stem isTop ms) else
      fs.isThere (enter (stem isTop ms) n)) then _ else _) = _
    rw [← stem_concat] at hthere
    rw [hdots, enter_stem hms, hthere]
    show fs.advance (fs.stop (enter (stem isTop ms) n)) _ = _
    rw [enter_stem hms]
    exact ih (by simp) h hfind

/-! ## The files below the folder -/

/-- What an entry of a folder adds to the names of the JSON files below. -/
def jsonFrom (below : List String → List (List String)) (place : List String)
    (entry : String × Node) : List (List String) :=
  (if Text.ends ".json" entry.1 then [[entry.1]] else []) ++
    (if entry.2 = .folder then (below (place ++ [entry.1])).map (entry.1 :: ·) else [])

/-- The names that lead from a folder to entries that are named like JSON files, folder by folder and
at most `depth` folders deep. -/
def jsonBelow (fs : FileSystem) : Nat → List String → List (List String)
  | 0, _ => []
  | depth + 1, place => (fs.inner place).flatMap (jsonFrom (jsonBelow fs depth) place)

theorem visit_folders (expand : Pattern → Stop → List Finding) (s : Stop) (name : String) :
    visit expand s name [.folders] [Glob.json] =
      (if Text.ends ".json" name then [.found s.path] else []) ++
        (if s.isFolder then expand [[.folders], Glob.json] s else []) := by
  have hfolders : Glob.isFolders [.folders] = true := by decide
  have hjson : Glob.isFolders Glob.json = false := by decide
  have hdrop : [Glob.json].dropWhile Glob.isFolders = [Glob.json] :=
    List.dropWhile_cons_of_neg (by rw [hjson]; simp)
  have hfits : Glob.fits Glob.json name.toList = Text.ends ".json" name :=
    Bool.eq_iff_iff.mpr (Glob.fits_json.trans Text.ends_iff.symm)
  rw [visit, if_pos hfolders, hdrop]
  show matching expand s name Glob.json [] ++ _ = _
  rw [matching, hfits]
  rfl

/-- One reading of a folder. -/
theorem expand_of_children {depth : Nat} {pattern ps : Pattern} {s : Stop} {p : List Glob.Token}
    {path : String} {inner : List (String × Node)}
    (hadvance : fs.advance s pattern = some (⟨path, true⟩, p :: ps))
    (hinner : fs.children path = .ok inner) :
    fs.expand (depth + 1) pattern s =
      (dotted p).flatMap (fun name =>
          if ps.isEmpty then [.found (join path name)]
          else fs.expand depth ps (fs.stop (join path name))) ++
        inner.flatMap (fun child =>
          visit (fs.expand depth) (fs.entryStop (enter path child.1) child.2) child.1 p ps) := by
  rw [expand, hadvance]
  simp only [hinner, if_true]

theorem expand_of_advance {depth : Nat} {pattern : Pattern} {s : Stop} {path : String}
    {place : List String} (hadvance : fs.advance s pattern = some (⟨path, true⟩, [[.folders], Glob.json]))
    (hfind : fs.find path = .ok place) :
    fs.expand (depth + 1) pattern s = (fs.inner place).flatMap (fun entry =>
      visit (fs.expand depth) (fs.entryStop (enter path entry.1) entry.2) entry.1 [.folders]
        [Glob.json]) := by
  rw [expand_of_children hadvance (children_of_find hfind)]
  rfl

/-- Every folder below a place is found under its path. -/
def IsOpen (fs : FileSystem) (isTop : Bool) (ns place : List String) : Prop :=
  ∀ ms, fs.node? (place ++ ms) = some .folder →
    fs.find (pathOf isTop (ns ++ ms)) = .ok (place ++ ms)

theorem IsOpen.append {ns place : List String} (h : fs.IsOpen isTop ns place) (n : String) :
    fs.IsOpen isTop (ns ++ [n]) (place ++ [n]) := by
  intro ms hms
  simpa using h (n :: ms) (by simpa using hms)

/-- A search from a folder finds what is named like a JSON file, as far as paths can reach. -/
theorem expand_eq (hfs : fs.WellFormed) {depth : Nat} {pattern : Pattern} {s : Stop}
    {ns place : List String} (hne : ns ≠ []) (h : ∀ n ∈ ns, IsName n)
    (hadvance : fs.advance s pattern = some (⟨pathOf isTop ns, true⟩, [[.folders], Glob.json]))
    (hfolder : fs.node? place = some .folder) (hopen : fs.IsOpen isTop ns place)
    (hlinks : fs.Unlinked place) (hdepth : maxPath < 2 * depth + (pathOf isTop ns).utf8ByteSize) :
    fs.expand depth pattern s =
      (fs.jsonBelow depth place).map (fun ms => .found (pathOf isTop (ns ++ ms))) := by
  have hfind : fs.find (pathOf isTop ns) = .ok place := by
    simpa using hopen [] (by simpa using hfolder)
  induction depth generalizing pattern s ns place with
  | zero =>
    have hcheck := (check_eq_ok.mp ((find_pathOf hne h).mp hfind).1).2.2
    omega
  | succ depth ih =>
    rw [expand_of_advance hadvance hfind, jsonBelow, List.map_flatMap]
    refine List.flatMap_congr (fun entry hentry => ?_)
    obtain ⟨name, node⟩ := entry
    have hnode : fs.node? (place ++ [name]) = some node := (mem_inner hfs).mp hentry
    have hname : ∀ n ∈ ns ++ [name], IsName n := by
      have hentries := (node?_eq_some hfs (by simp)).mp hnode
      refine List.forall_mem_append.mpr ⟨h, ?_⟩
      exact (List.forall_mem_append.mp (hfs.named _ hentries).2).2
    rw [visit_folders, enter_pathOf hne hname, jsonFrom, List.map_append]
    cases node with
    | link target => exact absurd hnode (hlinks [name] target)
    | file bytes =>
      cases Text.ends ".json" name <;> simp [entryStop]
    | folder =>
      have hlonger : (pathOf isTop ns).utf8ByteSize + 2 ≤
          (pathOf isTop (ns ++ [name])).utf8ByteSize := size_pathOf_concat hne (hname name (by simp)).1
      have hstay : fs.advance ⟨pathOf isTop (ns ++ [name]), true⟩ [[.folders], Glob.json] =
          some (⟨pathOf isTop (ns ++ [name]), true⟩, [[.folders], Glob.json]) := rfl
      have hbelow := ih (by simp) hname hstay hnode (hopen.append name) (hlinks.append [name])
        (by omega) (hopen [name] hnode)
      simp only [List.append_assoc, List.singleton_append] at hbelow
      cases Text.ends ".json" name <;> simp [entryStop, hbelow, Function.comp_def]

/-- The last of the names ends like a JSON file. -/
def IsJson (ms : List String) : Prop := ∃ front last, ms = front ++ [last] ∧ Text.ends ".json" last = true

theorem IsJson.ne_nil {ms : List String} (h : IsJson ms) : ms ≠ [] := by
  obtain ⟨front, last, rfl, -⟩ := h
  simp

theorem isJson_singleton {n : String} : IsJson [n] ↔ Text.ends ".json" n = true := by
  constructor
  · rintro ⟨front, last, heq, hlast⟩
    obtain ⟨rfl, rfl⟩ : front = [] ∧ n = last := by
      cases front <;> simp_all
    exact hlast
  · exact fun h => ⟨[], n, rfl, h⟩

theorem isJson_cons {n : String} {ms : List String} (hne : ms ≠ []) :
    IsJson (n :: ms) ↔ IsJson ms := by
  constructor
  · rintro ⟨front, last, heq, hlast⟩
    cases front with
    | nil => simp_all
    | cons m front =>
      obtain ⟨rfl, rfl⟩ := List.cons.inj heq
      exact ⟨front, last, rfl, hlast⟩
  · rintro ⟨front, last, rfl, hlast⟩
    exact ⟨n :: front, last, rfl, hlast⟩

/-- A path is named like a JSON file if its last name is. -/
theorem ends_json_iff {ms : List String} (hne : ms ≠ []) :
    Text.ends ".json" ("/".intercalate ms) = true ↔ IsJson ms := by
  obtain ⟨front, last, rfl⟩ := (List.eq_nil_or_concat ms).resolve_left hne
  rw [List.concat_eq_append]
  have hlast : IsJson (front ++ [last]) ↔ Text.ends ".json" last = true := by
    constructor
    · rintro ⟨front', last', heq, hends⟩
      obtain ⟨-, heq⟩ := List.append_inj' heq rfl
      rwa [List.singleton_inj.mp heq]
    · exact fun hends => ⟨front, last, rfl, hends⟩
  rw [hlast, Text.ends_iff, Text.ends_iff]
  by_cases hfront : front = []
  · rw [hfront, List.nil_append, String.intercalate_singleton]
  · have hpath : ("/".intercalate (front ++ [last])).toList =
        ("/".intercalate front).toList ++ '/' :: last.toList := by
      rw [String.intercalate_append_of_ne_nil hfront (by simp), String.intercalate_singleton]
      simp
    rw [hpath, Text.suffix_append_cons (by decide)]

theorem mem_jsonFrom {below : List String → List (List String)} {place ms : List String}
    {entry : String × Node} :
    ms ∈ jsonFrom below place entry ↔
      (ms = [entry.1] ∧ IsJson ms) ∨
        entry.2 = .folder ∧ ∃ rest ∈ below (place ++ [entry.1]), ms = entry.1 :: rest := by
  unfold jsonFrom
  rw [List.mem_append]
  refine or_congr ?_ ?_
  · constructor
    · intro hmem
      split at hmem
      · next hends =>
        obtain rfl := List.mem_singleton.mp hmem
        exact ⟨rfl, isJson_singleton.mpr hends⟩
      · cases hmem
    · rintro ⟨rfl, hends⟩
      rw [if_pos (isJson_singleton.mp hends)]
      exact List.mem_singleton_self _
  · by_cases hfolder : entry.2 = .folder
    · rw [if_pos hfolder, List.mem_map]
      simp [hfolder, eq_comm]
    · rw [if_neg hfolder]
      simp [hfolder]

theorem head?_of_mem_jsonFrom {below : List String → List (List String)} {place ms : List String}
    {entry : String × Node} (h : ms ∈ jsonFrom below place entry) : ms.head? = some entry.1 := by
  rcases mem_jsonFrom.mp h with ⟨rfl, -⟩ | ⟨-, rest, -, rfl⟩ <;> rfl

/-- What is found is what is there. -/
theorem mem_jsonBelow (hfs : fs.WellFormed) {depth : Nat} {place ms : List String} :
    ms ∈ fs.jsonBelow depth place ↔
      ms.length ≤ depth ∧ IsJson ms ∧ fs.node? (place ++ ms) ≠ none := by
  induction depth generalizing place ms with
  | zero =>
    refine iff_of_false (by simp [jsonBelow]) ?_
    rintro ⟨hlength, hjson, -⟩
    exact hjson.ne_nil (List.length_eq_zero_iff.mp (by omega))
  | succ depth ih =>
    rw [jsonBelow, List.mem_flatMap]
    constructor
    · rintro ⟨⟨n, node⟩, hentry, hmem⟩
      have hnode : fs.node? (place ++ [n]) = some node := (mem_inner hfs).mp hentry
      rcases mem_jsonFrom.mp hmem with ⟨rfl, hjson⟩ | ⟨rfl, rest, hrest, rfl⟩
      · exact ⟨by simp, hjson, by simp [hnode]⟩
      · obtain ⟨hlength, hjson, hthere⟩ := ih.mp hrest
        exact ⟨by simpa using hlength, (isJson_cons hjson.ne_nil).mpr hjson, by simpa using hthere⟩
    · rintro ⟨hlength, hjson, hthere⟩
      obtain ⟨n, rest, rfl⟩ := List.exists_cons_of_ne_nil hjson.ne_nil
      by_cases hrest : rest = []
      · subst hrest
        obtain ⟨node, hnode⟩ := Option.ne_none_iff_exists'.mp hthere
        exact ⟨(n, node), (mem_inner hfs).mpr hnode, mem_jsonFrom.mpr (.inl ⟨rfl, hjson⟩)⟩
      · have hbelow : fs.node? (place ++ [n] ++ rest) ≠ none := by simpa using hthere
        have hfolder := folder_of_below hfs hrest hbelow
        refine ⟨(n, .folder), (mem_inner hfs).mpr hfolder, mem_jsonFrom.mpr (.inr ⟨rfl, rest, ?_, rfl⟩)⟩
        exact ih.mpr ⟨by simpa using hlength, (isJson_cons hrest).mp hjson, hbelow⟩

theorem nodup_jsonFrom {below : List String → List (List String)} {place : List String}
    {entry : String × Node} (hnodup : (below (place ++ [entry.1])).Nodup)
    (hnil : [] ∉ below (place ++ [entry.1])) : (jsonFrom below place entry).Nodup := by
  unfold jsonFrom
  refine List.Nodup.append ?_ ?_ ?_
  · split <;> simp
  · split
    · exact hnodup.map (fun _ _ heq => (List.cons.inj heq).2)
    · exact List.nodup_nil
  · intro ms hone hmore
    split at hone
    · split at hmore
      · obtain rfl := List.mem_singleton.mp hone
        obtain ⟨rest, hrest, heq⟩ := List.mem_map.mp hmore
        exact hnil ((List.cons.inj heq).2 ▸ hrest)
      · cases hmore
    · cases hone

/-- Nothing is found twice. -/
theorem nodup_jsonBelow (hfs : fs.WellFormed) (depth : Nat) (place : List String) :
    (fs.jsonBelow depth place).Nodup := by
  induction depth generalizing place with
  | zero => exact List.nodup_nil
  | succ depth ih =>
    have hnil (place : List String) : [] ∉ fs.jsonBelow depth place :=
      fun hmem => ((mem_jsonBelow hfs).mp hmem).2.1.ne_nil rfl
    rw [jsonBelow, List.nodup_flatMap]
    refine ⟨fun entry _ => nodup_jsonFrom (ih _) (hnil _), ?_⟩
    have hnames := List.pairwise_map.mp (nodup_inner hfs place)
    refine hnames.imp (fun hne ms hms hms' => hne ?_)
    have hsame := (head?_of_mem_jsonFrom hms).symm.trans (head?_of_mem_jsonFrom hms')
    exact Option.some.inj hsame

/-! ## The whole search -/

theorem divide_pathOf {ns : List String} (hne : ns ≠ []) (h : ∀ n ∈ ns, IsName n) :
    divide (pathOf isTop ns) = (stem isTop [], ns.map String.toList) := by
  have hrest : (if isAbsolute (pathOf isTop ns) then (pathOf isTop ns).toList.drop 1
      else (pathOf isTop ns).toList) = ("/".intercalate ns).toList := by
    rw [isAbsolute_pathOf hne h]
    cases isTop with
    | true => simp [pathOf_true]
    | false => rfl
  have hsplit : Text.split isSlash ("/".intercalate ns).toList = ns.map String.toList := by
    have hnames := congrArg (List.map String.toList) (names_intercalate hne h)
    simpa [names, Function.comp_def] using hnames
  have hlast : (ns.map String.toList).getLast? ≠ some [] := by
    intro hempty
    obtain ⟨n, hn, heq⟩ := List.mem_map.mp (List.mem_of_getLast? hempty)
    exact (h n hn).1 (String.toList_inj.mp heq)
  rw [divide, hrest, hsplit, if_neg hlast, isAbsolute_pathOf hne h]
  rfl

/-- The pattern of a folder and of the JSON files in it and below it finds them. -/
theorem search_json (hfs : fs.WellFormed) {ns place : List String} (hne : ns ≠ [])
    (h : ∀ n ∈ ns, IsName n ∧ ∀ c ∈ n.toList, Glob.IsPlain c)
    (hfolder : fs.node? place = some .folder) (hopen : fs.IsOpen isTop ns place)
    (hlinks : fs.Unlinked place) :
    fs.search (pathOf isTop (ns ++ ["**", "*.json"])) =
      .ok ((fs.jsonBelow maxDepth place).map (fun ms => .found (pathOf isTop (ns ++ ms)))) := by
  have hnames : ∀ n ∈ ns, IsName n := fun n hn => (h n hn).1
  have hall : ∀ n ∈ ns ++ ["**", "*.json"], IsName n :=
    List.forall_mem_append.mpr ⟨hnames, by decide⟩
  have hfind : fs.find (pathOf isTop ns) = .ok place := by
    have hplace := hopen [] (by rwa [List.append_nil])
    rwa [List.append_nil, List.append_nil] at hplace
  have hwhole : (pathOf isTop (ns ++ ["**", "*.json"])).toList =
      (pathOf isTop ns).toList ++ '/' :: "**/*.json".toList := by
    have hrest : "/".intercalate ["**", "*.json"] = "**/*.json" := rfl
    rw [pathOf_append hne (by simp), hrest]
    simp
  have hplain : ∀ c ∈ (pathOf isTop ns).toList, Glob.IsPlain c := by
    intro c hc
    rcases mem_pathOf hc with rfl | ⟨n, hn, hc⟩
    · decide
    · exact (h n hn).2 c hc
  have hstop : fs.stop (stem isTop ns) = ⟨pathOf isTop ns, true⟩ := by
    rw [stop, stem_of_ne_nil hne, isFolder, nodeAt?, hfind]
    simp [hfolder]
  have hadvance : fs.advance (fs.stop (stem isTop []))
      (ns.map (fun n => Glob.plain n.toList) ++ [[.folders], Glob.json]) =
      some (⟨pathOf isTop ns, true⟩, [[.folders], Glob.json]) := by
    rw [← hstop]
    exact @advance_names fs isTop [] ns place hne hnames hfind hfolder [.folders] [Glob.json] rfl
  have hdepth : maxPath < 2 * maxDepth + (pathOf isTop ns).utf8ByteSize := by
    unfold maxDepth
    omega
  rw [search, divide_pathOf (by simp) hall, hwhole, List.map_append]
  show (Glob.parse (ns.map String.toList ++ ["**".toList, "*.json".toList]) _).map _ = _
  rw [Glob.parse_json (fun n hn => (h n hn).2) hplain]
  exact congrArg Except.ok
    (expand_eq hfs hne hnames hadvance hfolder hopen hlinks hdepth)

theorem paths_found {α : Type} (path : α → String) (xs : List α) :
    Finding.paths (xs.map (fun x => .found (path x))) = .ok (xs.map path) := by
  induction xs with
  | nil => rfl
  | cons x xs ih =>
    rw [List.map_cons, Finding.paths, ih]
    rfl

namespace Finding

/-- A search with nothing unreadable in it has the paths that were found. -/
theorem exists_paths {xs : List Finding} (h : ∀ x ∈ xs, ∃ path, x = .found path) :
    ∃ paths, Finding.paths xs = .ok paths ∧ ∀ path, path ∈ paths ↔ .found path ∈ xs := by
  induction xs with
  | nil => exact ⟨[], rfl, by simp⟩
  | cons x xs ih =>
    obtain ⟨⟨path, rfl⟩, hxs⟩ := List.forall_mem_cons.mp h
    obtain ⟨paths, hpaths, hmem⟩ := ih hxs
    refine ⟨path :: paths, ?_, fun p => ?_⟩
    · rw [Finding.paths, hpaths]
      rfl
    · simp [hmem]

theorem mem_of_paths {xs : List Finding} {paths : List String} (h : Finding.paths xs = .ok paths)
    {path : String} (hpath : path ∈ paths) : .found path ∈ xs := by
  induction xs generalizing paths with
  | nil =>
    obtain rfl := Except.ok.inj h
    cases hpath
  | cons x xs ih =>
    cases x with
    | unreadable path fault => cases h
    | found first =>
      rw [Finding.paths] at h
      obtain ⟨rest, hrest, rfl⟩ := map_eq_ok.mp h
      rcases List.mem_cons.mp hpath with rfl | hpath
      · exact List.mem_cons_self
      · exact List.mem_cons_of_mem _ (ih hrest hpath)

end Finding

end LuaStubs.FileSystem
