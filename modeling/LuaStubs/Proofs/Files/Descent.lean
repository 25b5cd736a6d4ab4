import LuaStubs.Proofs.Files.Search
import Mathlib.Data.String.Basic

/-! The way of a search through plain names to a folder, and the JSON files that it finds below.
Dots, doubled slashes and links may be on the way. -/
namespace LuaStubs.FileSystem

open LuaStubs.Files

variable {fs : FileSystem}

/-- Characters may be left out of a path that is not too long. -/
theorem check_of_sublist {path longer : String} (hne : path ≠ "")
    (h : path.toList.Sublist longer.toList) (hcheck : check longer = .ok ()) :
    check path = .ok () := by
  obtain ⟨hnul, -, hsize⟩ := check_eq_ok.mp hcheck
  have hle := String.utf8Len_le_of_sublist h
  rw [← String.utf8ByteSize_ofList, ← String.utf8ByteSize_ofList, String.ofList_toList,
    String.ofList_toList] at hle
  exact check_eq_ok.mpr ⟨fun c hc => hnul c (h.subset hc), hne, by omega⟩

theorem exists_reaches_of_isFolder {path : String} (h : fs.isFolder path = true) :
    ∃ links place, fs.Reaches path links place := by
  rw [isFolder, nodeAt?, decide_eq_true_eq] at h
  cases hfind : fs.find path with
  | error fault =>
    rw [hfind] at h
    cases h
  | ok place =>
    rw [hfind] at h
    obtain ⟨links, hreaches⟩ := exists_reaches hfind h
    exact ⟨links, place, hreaches⟩

theorem ne_empty_of_isFolder {path : String} (h : fs.isFolder path = true) : path ≠ "" := by
  obtain ⟨links, place, hreaches⟩ := exists_reaches_of_isFolder h
  exact hreaches.ne_empty

/-! ## The way to the folder -/

/-- On the way to a folder the first name leads to a folder as well. -/
theorem exists_first {links : Nat} {place ns top : List String} {name : String}
    (hwalk : fs.walk links place (name :: ns) = .ok top)
    (hfolder : ns = [] → fs.node? top = some .folder) :
    ∃ place', fs.walk links place [name] = .ok place' ∧ fs.node? place' = some .folder := by
  rw [← List.singleton_append] at hwalk
  obtain ⟨links', place', hfirst⟩ := walk_append hwalk
  have hrest : fs.walk links' place' ns = .ok top := by rw [← hfirst ns, hwalk]
  refine ⟨place', ?_, ?_⟩
  · have hstop := hfirst []
    rwa [List.append_nil, walk] at hstop
  · by_cases hnil : ns = []
    · rw [hnil, walk] at hrest
      rw [Except.ok.inj hrest]
      exact hfolder hnil
    · exact folder_of_walk hnil hrest

namespace Reaches

variable {path name : String} {links links' : Nat} {place place' : List String}

/-- A path that leads to a folder goes on with a name as a walk does from that folder. -/
theorem walk_cons (h : fs.Reaches path links place) (hname : '/' ∉ name.toList)
    (hnext : fs.Reaches (join path name) links' place') (rest : List String) :
    fs.walk links place (name :: rest) = fs.walk links' place' rest := by
  have hjoin := h.walk_join (isAbsolute_of_no_slash hname) rest
  rw [names_of_no_slash hname, hnext.walk] at hjoin
  exact hjoin.symm

theorem exists_join (h : fs.Reaches path links place) (hname : '/' ∉ name.toList)
    (hcheck : FileSystem.check (join path name) = .ok ())
    (hwalk : fs.walk links place [name] = .ok place') (hfolder : fs.node? place' = some .folder) :
    ∃ links', fs.Reaches (join path name) links' place' := by
  refine exists_reaches ((h.find_join (isAbsolute_of_no_slash hname)).mpr ⟨hcheck, ?_⟩) hfolder
  rwa [names_of_no_slash hname]

theorem isFolder (h : fs.Reaches path links place) : fs.isFolder path = true :=
  isFolder_of_find h.find h.folder

theorem stop_eq (h : fs.Reaches path links place) : fs.stop path = ⟨path, true⟩ := by
  rw [stop, h.isFolder]

theorem isThere (h : fs.Reaches path links place) : fs.isThere path = true := by
  rw [FileSystem.isThere, nodeAt?, h.find]
  simp [h.folder]

theorem find_under {ns found : List String} (h : fs.Reaches path links place) (hne : ns ≠ [])
    (hns : ∀ n ∈ ns, IsName n) :
    fs.find (under path ns) = .ok found ↔
      FileSystem.check (under path ns) = .ok () ∧ fs.walk links place ns = .ok found := by
  have hrelative : isAbsolute (pathOf false ns) = false := isAbsolute_pathOf hne hns
  have hfind := @find_join fs path (pathOf false ns) links place found h hrelative
  rwa [pathOf_false, names_intercalate hne hns, ← under_eq_join h.ne_empty hne hns] at hfind

/-- The first folder on the way to another one. -/
theorem exists_next {ns top : List String} (h : fs.Reaches path links place)
    (hname : '/' ∉ name.toList) (hns : ∀ n ∈ ns, '/' ∉ n.toList)
    (hwalk : fs.walk links place (name :: ns) = .ok top)
    (hfolder : ns = [] → fs.node? top = some .folder)
    (hcheck : FileSystem.check (under path (name :: ns)) = .ok ()) :
    ∃ links' place', fs.Reaches (join path name) links' place' := by
  obtain ⟨place', hone, hfolder'⟩ := exists_first hwalk hfolder
  have hnext : FileSystem.check (join path name) = .ok () := by
    obtain ⟨more, hmore⟩ := @exists_append_of_under (join path name) ns hns
    have hwhole : under path (name :: ns) = join path name ++ more := hmore
    rw [hwhole] at hcheck
    exact check_of_append (join_ne_empty h.ne_empty (isAbsolute_of_no_slash hname)) hcheck
  obtain ⟨links', hreaches⟩ := h.exists_join hname hnext hone hfolder'
  exact ⟨links', place', hreaches⟩

end Reaches

/-- Only from the folder at the beginning does a name stand for itself. -/
theorem enter_eq_join {path : String} (h : (steps path).head? ≠ some ".") (name : String) :
    enter path name = join path name := by
  have hhere : isHere path = false := by
    rw [isHere, decide_eq_false_iff_not]
    intro hsteps
    rw [hsteps] at h
    exact h rfl
  rw [enter, hhere]
  rfl

/-- The names that lead from one folder to another are passed. -/
theorem Reaches.advance {path : String} {links : Nat} {place ns top : List String}
    (h : fs.Reaches path links place) (hhead : (steps path).head? ≠ some ".")
    (hns : ∀ n ∈ ns, '/' ∉ n.toList) (hwalk : fs.walk links place ns = .ok top)
    (hfolder : fs.node? top = some .folder) (hcheck : FileSystem.check (under path ns) = .ok ())
    {p : List Glob.Token} {ps : Pattern} (hp : Glob.literal? p = none) :
    ∃ links', fs.Reaches (under path ns) links' top ∧
      (∀ rest, fs.walk links place (ns ++ rest) = fs.walk links' top rest) ∧
      fs.advance ⟨path, true⟩ (ns.map (fun n => Glob.plain n.toList) ++ p :: ps) =
        some (⟨under path ns, true⟩, p :: ps) := by
  induction ns generalizing path links place with
  | nil =>
    rw [FileSystem.walk] at hwalk
    obtain rfl := Except.ok.inj hwalk
    refine ⟨links, h, fun rest => rfl, ?_⟩
    rw [List.map_nil, List.nil_append, FileSystem.advance, hp]
    rfl
  | cons n ns ih =>
    obtain ⟨hn, hns⟩ := List.forall_mem_cons.mp hns
    obtain ⟨links', place', hnext⟩ := h.exists_next hn hns hwalk (fun _ => hfolder) hcheck
    -- From here on fewer links may be left, and the walk goes on with those.
    have hagree := h.walk_cons hn hnext
    have hhead' : (steps (join path n)).head? ≠ some "." := by
      rwa [head?_steps_join h.ne_empty (isAbsolute_of_no_slash hn)]
    have hbelow : fs.walk links' place' ns = .ok top := by
      rw [← hagree]
      exact hwalk
    obtain ⟨links'', hend, hrest, hadvance⟩ := ih hnext hhead' hns hbelow hcheck
    refine ⟨links'', hend, fun rest => ?_, ?_⟩
    · rw [List.cons_append, hagree, hrest]
    · rw [List.map_cons, List.cons_append, FileSystem.advance, Glob.literal?_plain]
      simp only [enter_eq_join hhead, hnext.isThere, hnext.stop_eq, ite_self, if_true]
      exact hadvance

/-! ## The files below the folder -/

/-- No name is too long for the system, and no path to a folder below the one that `path` leads to. -/
structure WithinLimits (fs : FileSystem) (path : String) : Prop where
  names : ∀ e ∈ fs.entries, ∀ n ∈ e.1, n.utf8ByteSize ≤ maxName
  paths : ∀ ms place, (∀ n ∈ ms, IsName n) →
    fs.walk maxLinks (fs.start path) (Files.names path ++ ms) = .ok place →
    fs.node? place = some .folder → check (under path ms) = .ok ()

section

variable {path name : String} {node : Node} {links links' : Nat} {place place' : List String}

theorem WithinLimits.join (hlimits : fs.WithinLimits path) (h : fs.Reaches path links place)
    (hname : IsName name) : fs.WithinLimits (join path name) where
  names := hlimits.names
  paths ms found hms hwalk hfolder := by
    have hgo := h.walk_join hname.isAbsolute ms
    rw [names_of_isName hname, List.singleton_append, ← h.walk] at hgo
    rw [hgo] at hwalk
    exact hlimits.paths (name :: ms) found (List.forall_mem_cons.mpr ⟨hname, hms⟩) hwalk hfolder

theorem isName_of_node (hfs : fs.WellFormed) (h : fs.node? (place ++ [name]) = some node) :
    IsName name :=
  (hfs.named _ ((node?_eq_some hfs (by simp)).mp h)).2 name (by simp)

theorem exists_node_of_walk {ns found : List String} (hname : IsName name)
    (h : fs.walk links place (name :: ns) = .ok found) :
    ∃ node, fs.node? (place ++ [name]) = some node := by
  have hfolder := folder_of_walk (List.cons_ne_nil _ _) h
  rw [walk, if_neg (not_not.mpr hfolder), if_neg (by simp [hname.isStep]), if_neg hname.2.2.1] at h
  refine Option.ne_none_iff_exists'.mp (fun hnone => ?_)
  rw [hnone] at h
  split at h <;> cases h

/-- Where no link stands, a name leads to the entry that has it. -/
theorem walk_entry (hfolder : fs.node? place = some .folder) (hname : IsName name)
    (hsize : name.utf8ByteSize ≤ maxName) (hnode : fs.node? (place ++ [name]) = some node)
    (hlink : ∀ target, node ≠ .link target) :
    fs.walk links place [name] = .ok (place ++ [name]) := by
  rw [walk, if_neg (not_not.mpr hfolder), if_neg (by simp [hname.isStep]), if_neg hname.2.2.1,
    if_neg (Nat.not_lt.mpr hsize), hnode]
  cases node with
  | link target => exact absurd rfl (hlink target)
  | _ => rw [walk]

theorem size_of_node (hfs : fs.WellFormed) (hlimits : fs.WithinLimits path)
    (h : fs.node? (place ++ [name]) = some node) : name.utf8ByteSize ≤ maxName :=
  hlimits.names _ ((node?_eq_some hfs (by simp)).mp h) name (by simp)

/-- The search goes on below an entry exactly if its path leads to a folder. -/
theorem isFolder_entryStop_iff (hfs : fs.WellFormed) (h : fs.Reaches path links place)
    (hlimits : fs.WithinLimits path) (hnode : fs.node? (place ++ [name]) = some node) :
    (fs.entryStop (join path name) node).isFolder = true ↔
      ∃ links' place', fs.Reaches (join path name) links' place' := by
  have hname : IsName name := isName_of_node hfs hnode
  have hsize := size_of_node hfs hlimits hnode
  cases node with
  | file bytes =>
    -- A path that led to a folder would lead to the file as well.
    refine iff_of_false (by simp [entryStop]) ?_
    rintro ⟨links', place', hnext⟩
    have hwalk := h.walk_cons hname.2.2.2 hnext []
    rw [walk_entry h.folder hname hsize hnode (by simp), walk] at hwalk
    have hfolder := hnext.folder
    rw [← Except.ok.inj hwalk, hnode] at hfolder
    cases hfolder
  | folder =>
    refine iff_of_true (by simp [entryStop]) ?_
    have hwalk : fs.walk links place [name] = .ok (place ++ [name]) :=
      walk_entry h.folder hname hsize hnode (by simp)
    have hcheck : check (under path [name]) = .ok () := by
      refine hlimits.paths [name] _ (by simpa using hname) ?_ hnode
      rw [h.walk, hwalk]
    obtain ⟨links', hnext⟩ := h.exists_join hname.2.2.2 hcheck hwalk hnode
    exact ⟨links', _, hnext⟩
  | link target =>
    have hstop : (fs.entryStop (join path name) (.link target)).isFolder =
        fs.isFolder (join path name) := by rw [entryStop, stop]
    rw [hstop]
    constructor
    · intro hfolder
      exact exists_reaches_of_isFolder hfolder
    · rintro ⟨links', place', hnext⟩
      exact hnext.isFolder

theorem entryStop_eq (path : String) (node : Node) :
    fs.entryStop path node = ⟨path, (fs.entryStop path node).isFolder⟩ := by
  cases node <;> rfl

/-- There is no name to pass before folders are read. -/
theorem advance_json (s : Stop) :
    fs.advance s [[.folders], Glob.json] = some (s, [[.folders], Glob.json]) := rfl

/-- One reading: JSON files among the entries are found, and those that are folders are searched. -/
theorem mem_expand {depth : Nat} (h : fs.Reaches path links place)
    (hhead : (steps path).head? ≠ some ".") {x : Finding} :
    x ∈ fs.expand (depth + 1) [[.folders], Glob.json] ⟨path, true⟩ ↔
      ∃ entry ∈ fs.inner place,
        (Text.ends ".json" entry.1 = true ∧ x = .found (join path entry.1)) ∨
        ((fs.entryStop (join path entry.1) entry.2).isFolder = true ∧
          x ∈ fs.expand depth [[.folders], Glob.json] ⟨join path entry.1, true⟩) := by
  rw [expand_of_advance (advance_json ⟨path, true⟩) h.find, List.mem_flatMap]
  refine exists_congr (fun entry => and_congr_right (fun _ => ?_))
  rw [visit_folders, enter_eq_join hhead, entryStop_eq, List.mem_append]
  refine or_congr ?_ ?_
  · split <;> simp_all
  · cases (fs.entryStop (join path entry.1) entry.2).isFolder <;> simp

/-- Whatever the search comes upon is a path to a JSON file. -/
theorem found_of_mem_expand (hfs : fs.WellFormed) {depth : Nat} (h : fs.Reaches path links place)
    (hhead : (steps path).head? ≠ some ".") (hlimits : fs.WithinLimits path) {x : Finding}
    (hx : x ∈ fs.expand depth [[.folders], Glob.json] ⟨path, true⟩) :
    ∃ ms, IsJson ms ∧ (∀ n ∈ ms, IsName n) ∧ x = .found (under path ms) := by
  induction depth generalizing path links place with
  | zero => cases hx
  | succ depth ih =>
    obtain ⟨⟨n, node⟩, hentry, hcases⟩ := (mem_expand h hhead).mp hx
    have hnode : fs.node? (place ++ [n]) = some node := (mem_inner hfs).mp hentry
    have hname : IsName n := isName_of_node hfs hnode
    rcases hcases with ⟨hends, rfl⟩ | ⟨hfolder, hbelow⟩
    · exact ⟨[n], isJson_singleton.mpr hends, by simpa using hname, rfl⟩
    · obtain ⟨links', place', hnext⟩ := (isFolder_entryStop_iff hfs h hlimits hnode).mp hfolder
      have hhead' : (steps (join path n)).head? ≠ some "." := by
        rwa [head?_steps_join h.ne_empty hname.isAbsolute]
      obtain ⟨ms, hjson, hms, rfl⟩ := ih hnext hhead' (hlimits.join h hname) hbelow
      exact ⟨n :: ms, (isJson_cons hjson.ne_nil).mpr hjson, List.forall_mem_cons.mpr ⟨hname, hms⟩, rfl⟩

/-- Every path to something named like a JSON file is found, as deep as the search goes. -/
theorem mem_expand_of_find (hfs : fs.WellFormed) {depth : Nat} (h : fs.Reaches path links place)
    (hhead : (steps path).head? ≠ some ".") (hlimits : fs.WithinLimits path) {ms found : List String}
    (hjson : IsJson ms) (hms : ∀ n ∈ ms, IsName n) (hdepth : ms.length ≤ depth)
    (hfind : fs.find (under path ms) = .ok found) :
    .found (under path ms) ∈ fs.expand depth [[.folders], Glob.json] ⟨path, true⟩ := by
  induction depth generalizing path links place ms with
  | zero => exact absurd (List.length_eq_zero_iff.mp (Nat.le_zero.mp hdepth)) hjson.ne_nil
  | succ depth ih =>
    obtain ⟨n, rest, rfl⟩ := List.exists_cons_of_ne_nil hjson.ne_nil
    obtain ⟨hname, hrest⟩ := List.forall_mem_cons.mp hms
    obtain ⟨hcheck, hwalk⟩ := (h.find_under (List.cons_ne_nil n rest) hms).mp hfind
    obtain ⟨node, hnode⟩ := exists_node_of_walk hname hwalk
    refine (mem_expand h hhead).mpr ⟨(n, node), (mem_inner hfs).mpr hnode, ?_⟩
    by_cases hnil : rest = []
    · subst hnil
      exact .inl ⟨isJson_singleton.mp hjson, rfl⟩
    · obtain ⟨links', place', hnext⟩ := h.exists_next hname.2.2.2 (fun m hm => (hrest m hm).2.2.2)
        hwalk (fun hempty => absurd hempty hnil) hcheck
      have hhead' : (steps (join path n)).head? ≠ some "." := by
        rwa [head?_steps_join h.ne_empty hname.isAbsolute]
      refine .inr ⟨(isFolder_entryStop_iff hfs h hlimits hnode).mpr ⟨links', place', hnext⟩, ?_⟩
      exact ih hnext hhead' (hlimits.join h hname) ((isJson_cons hnil).mp hjson) hrest
        (by simpa using hdepth) hfind

end

end LuaStubs.FileSystem
