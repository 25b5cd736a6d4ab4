import LuaStubs.Files.FileSystem
import LuaStubs.Proofs.Files.Path
import LuaStubs.Proofs.Keyed
import LuaStubs.Proofs.Results
import Mathlib.Data.List.Nodup
import Mathlib.Tactic.SplitIfs

/-! Where paths lead in a file system, and what stands in a folder. -/
namespace LuaStubs.FileSystem

open LuaStubs.Files

variable {fs : FileSystem}

/-! ## Walks -/

/-- A walk fails at once, or its first part leads to a place where the rest goes on. -/
theorem walk_append_cases (fs : FileSystem) (links : Nat) (place ns : List String) :
    (∃ fault, ∀ rest, fs.walk links place (ns ++ rest) = .error fault) ∨
      ∃ links' place', ∀ rest, fs.walk links place (ns ++ rest) = fs.walk links' place' rest := by
  induction links, place, ns using FileSystem.walk.induct fs with
  | case1 links place => exact .inr ⟨links, place, fun rest => rfl⟩
  | case2 links place name ns hfolder =>
    exact .inl ⟨.noFolder, fun rest => by rw [List.cons_append, walk, if_pos hfolder]⟩
  | case3 links place name ns hfolder hstep ih =>
    have hnext (rest : List String) :
        fs.walk links place (name :: ns ++ rest) = fs.walk links place (ns ++ rest) := by
      rw [List.cons_append, walk, if_neg hfolder, if_pos hstep]
    simpa only [hnext] using ih
  | case4 links place ns hfolder hstep ih =>
    have hnext (rest : List String) :
        fs.walk links place (".." :: ns ++ rest) = fs.walk links place.dropLast (ns ++ rest) := by
      rw [List.cons_append, walk, if_neg hfolder, if_neg hstep, if_pos rfl]
    simpa only [hnext] using ih
  | case5 links place name ns hfolder hstep hup hsize =>
    refine .inl ⟨.nameLength, fun rest => ?_⟩
    rw [List.cons_append, walk, if_neg hfolder, if_neg hstep, if_neg hup, if_pos hsize]
  | case6 links place name ns hfolder hstep hup hsize hnode =>
    refine .inl ⟨.missing, fun rest => ?_⟩
    rw [List.cons_append, walk, if_neg hfolder, if_neg hstep, if_neg hup, if_neg hsize, hnode]
  | case7 place name ns hfolder hstep hup hsize target hnode =>
    refine .inl ⟨.links, fun rest => ?_⟩
    rw [List.cons_append, walk, if_neg hfolder, if_neg hstep, if_neg hup, if_neg hsize, hnode]
  | case8 place name ns hfolder hstep hup hsize target hnode links ih =>
    have hnext (rest : List String) : fs.walk (links + 1) place (name :: ns ++ rest) =
        fs.walk links (if isAbsolute target then [] else place)
          (Files.names target ++ ns ++ rest) := by
      rw [List.cons_append, walk, if_neg hfolder, if_neg hstep, if_neg hup, if_neg hsize, hnode,
        List.append_assoc]
    simp only [hnext]
    exact ih
  | case9 links place name ns hfolder hstep hup hsize node hlink hnode ih =>
    have hnext (rest : List String) : fs.walk links place (name :: ns ++ rest) =
        fs.walk links (place ++ [name]) (ns ++ rest) := by
      rw [List.cons_append, walk, if_neg hfolder, if_neg hstep, if_neg hup, if_neg hsize, hnode]
      cases node with
      | link target => exact absurd rfl (hlink target)
      | _ => rfl
    simpa only [hnext] using ih

/-- Every part of a walk that arrives leads to a place of its own. -/
theorem walk_append {links : Nat} {place ns ms found : List String}
    (h : fs.walk links place (ns ++ ms) = .ok found) :
    ∃ links' place', ∀ rest, fs.walk links place (ns ++ rest) = fs.walk links' place' rest := by
  rcases fs.walk_append_cases links place ns with ⟨fault, hfault⟩ | hright
  · rw [hfault ms] at h
    cases h
  · exact hright

/-- From the place that a walk leads to, other walks go on. -/
theorem walk_through {links : Nat} {place ns found : List String}
    (h : fs.walk links place ns = .ok found) :
    ∃ links', ∀ rest, fs.walk links place (ns ++ rest) = fs.walk links' found rest := by
  rw [← List.append_nil ns] at h
  obtain ⟨links', place', hrest⟩ := walk_append h
  rw [hrest, walk] at h
  obtain rfl := Except.ok.inj h
  exact ⟨links', hrest⟩

theorem folder_of_walk {links : Nat} {place ns found : List String} (hne : ns ≠ [])
    (h : fs.walk links place ns = .ok found) : fs.node? place = some .folder := by
  obtain ⟨name, rest, rfl⟩ := List.exists_cons_of_ne_nil hne
  by_contra hfolder
  rw [walk, if_pos hfolder] at h
  cases h

/-- Slashes behind a folder lead nowhere else. -/
theorem walk_slashes {links : Nat} {place ns : List String}
    (hfolder : fs.node? place = some .folder) (h : ∀ n ∈ ns, n = "") (rest : List String) :
    fs.walk links place (ns ++ rest) = fs.walk links place rest := by
  have hempty : (!isStep "") = true := by decide
  induction ns with
  | nil => rfl
  | cons n ns ih =>
    obtain ⟨rfl, hns⟩ := List.forall_mem_cons.mp h
    rw [List.cons_append, walk, if_neg (not_not.mpr hfolder), if_pos hempty, ih hns]

theorem walk_only_slashes {links : Nat} {place ns : List String}
    (hfolder : fs.node? place = some .folder) (h : ∀ n ∈ ns, n = "") :
    fs.walk links place ns = .ok place := by
  rw [← List.append_nil ns, walk_slashes hfolder h, walk]

/-- Nothing at or below a place is a link. -/
def Unlinked (fs : FileSystem) (place : List String) : Prop :=
  ∀ ns target, fs.node? (place ++ ns) ≠ some (.link target)

theorem Unlinked.append {place : List String} (h : fs.Unlinked place) (ns : List String) :
    fs.Unlinked (place ++ ns) := by
  intro ms target
  rw [List.append_assoc]
  exact h (ns ++ ms) target

/-- Where there are no links, names lead to the place of these names. -/
theorem walk_names {links : Nat} {place ns found : List String} (hlinks : fs.Unlinked place)
    (hnames : ∀ n ∈ ns, IsName n) (h : fs.walk links place ns = .ok found) :
    found = place ++ ns := by
  induction ns generalizing place with
  | nil =>
    rw [walk] at h
    cases h
    simp
  | cons name ns ih =>
    obtain ⟨hname, hnames⟩ := List.forall_mem_cons.mp hnames
    have hfolder := folder_of_walk (List.cons_ne_nil _ _) h
    rw [walk, if_neg (not_not.mpr hfolder), if_neg (by simp [hname.isStep]),
      if_neg hname.2.2.1] at h
    split at h
    · cases h
    · split at h
      · cases h
      · next target hnode => exact absurd hnode (hlinks [name] target)
      · rw [ih (hlinks.append [name]) hnames h]
        simp

/-! ## Paths -/

/-- Where the names of a path begin. -/
def origin (fs : FileSystem) (isTop : Bool) : List String := if isTop then [] else fs.here

theorem find_eq_ok {path : String} {place : List String} :
    fs.find path = .ok place ↔
      check path = .ok () ∧ fs.walk maxLinks (fs.start path) (names path) = .ok place := by
  rw [find, bind_eq_ok]
  constructor
  · rintro ⟨⟨⟩, hcheck, hwalk⟩
    exact ⟨hcheck, hwalk⟩
  · rintro ⟨hcheck, hwalk⟩
    exact ⟨(), hcheck, hwalk⟩

theorem find_of_walk {path : String} {ns place : List String} (hpath : isAbsolute path = false)
    (hnames : names path = ns) (hcheck : check path = .ok ())
    (hwalk : fs.walk maxLinks fs.here ns = .ok place) : fs.find path = .ok place := by
  refine find_eq_ok.mpr ⟨hcheck, ?_⟩
  rw [start, hpath, hnames]
  exact hwalk

section

variable {isTop : Bool} {ns ms found : List String}

theorem find_pathOf (hne : ns ≠ []) (h : ∀ n ∈ ns, IsName n) :
    fs.find (pathOf isTop ns) = .ok found ↔
      check (pathOf isTop ns) = .ok () ∧ fs.walk maxLinks (fs.origin isTop) ns = .ok found := by
  have hwalk : fs.walk maxLinks (fs.start (pathOf isTop ns)) (names (pathOf isTop ns)) =
      fs.walk maxLinks (fs.origin isTop) ns := by
    rw [start, isAbsolute_pathOf hne h, names_pathOf hne h]
    cases isTop with
    | false => rfl
    | true =>
      have htop : fs.node? [] = some .folder := rfl
      have hempty : (!isStep "") = true := by decide
      show fs.walk maxLinks [] ("" :: ns) = _
      rw [walk, if_neg (not_not.mpr htop), if_pos hempty]
      rfl
  rw [find_eq_ok, hwalk]

theorem check_eq_ok {path : String} :
    check path = .ok () ↔
      (∀ c ∈ path.toList, c.toNat ≠ 0) ∧ path ≠ "" ∧ path.utf8ByteSize ≤ maxPath := by
  unfold check
  split_ifs with hnul hempty hsize
  · simpa using fun h => absurd hnul (by simpa using h)
  · simp [hempty]
  · simp [hsize]
  · exact iff_of_true rfl ⟨by simpa using hnul, hempty, by omega⟩

theorem check_of_append {front rest : String} (hne : front ≠ "")
    (h : check (front ++ rest) = .ok ()) : check front = .ok () := by
  obtain ⟨hnul, -, hsize⟩ := check_eq_ok.mp h
  rw [String.utf8ByteSize_append] at hsize
  exact check_eq_ok.mpr ⟨fun c hc => hnul c (by simp [hc]), hne, by omega⟩

theorem check_pathOf_of_append (hns : ns ≠ []) (h : ∀ n ∈ ns ++ ms, IsName n)
    (hcheck : check (pathOf isTop (ns ++ ms)) = .ok ()) : check (pathOf isTop ns) = .ok () := by
  obtain ⟨hn, -⟩ := List.forall_mem_append.mp h
  by_cases hms : ms = []
  · rwa [hms, List.append_nil] at hcheck
  · rw [pathOf_append hns hms, String.append_assoc] at hcheck
    exact check_of_append (pathOf_ne_empty hns hn) hcheck

/-- The folders on the way to the end of a path. -/
theorem find_of_append (hns : ns ≠ []) (hms : ms ≠ []) (h : ∀ n ∈ ns ++ ms, IsName n)
    (hfind : fs.find (pathOf isTop (ns ++ ms)) = .ok found) :
    ∃ place, fs.find (pathOf isTop ns) = .ok place ∧ fs.node? place = some .folder := by
  obtain ⟨hn, -⟩ := List.forall_mem_append.mp h
  obtain ⟨hcheck, hwalk⟩ := (find_pathOf (by simp [hns]) h).mp hfind
  obtain ⟨links, place, hrest⟩ := walk_append hwalk
  refine ⟨place, (find_pathOf hns hn).mpr ⟨check_pathOf_of_append hns h hcheck, ?_⟩, ?_⟩
  · have hstop := hrest []
    rw [List.append_nil] at hstop
    rw [hstop, walk]
  · rw [hrest ms] at hwalk
    exact folder_of_walk hms hwalk

/-- Below a place without links a path leads to the place of its names, if it leads anywhere. -/
theorem find_append {place : List String} (hns : ns ≠ []) (h : ∀ n ∈ ns ++ ms, IsName n)
    (hplace : fs.find (pathOf isTop ns) = .ok place) (hlinks : fs.Unlinked place)
    (hfind : fs.find (pathOf isTop (ns ++ ms)) = .ok found) : found = place ++ ms := by
  obtain ⟨hn, hm⟩ := List.forall_mem_append.mp h
  obtain ⟨-, hwalk⟩ := (find_pathOf (by simp [hns]) h).mp hfind
  obtain ⟨links, place', hrest⟩ := walk_append hwalk
  have hsame : place' = place := by
    have hstop := hrest []
    rw [List.append_nil, ((find_pathOf hns hn).mp hplace).2, walk] at hstop
    exact (Except.ok.inj hstop).symm
  rw [hrest ms, hsame] at hwalk
  exact walk_names hlinks hm hwalk

end

/-- A path leads to the folder at `place`, and so many links may still follow. -/
structure Reaches (fs : FileSystem) (path : String) (links : Nat) (place : List String) : Prop where
  check : check path = .ok ()
  folder : fs.node? place = some .folder
  walk : ∀ rest, fs.walk maxLinks (fs.start path) (names path ++ rest) = fs.walk links place rest

theorem exists_reaches {path : String} {place : List String} (hfind : fs.find path = .ok place)
    (hfolder : fs.node? place = some .folder) : ∃ links, fs.Reaches path links place := by
  obtain ⟨hcheck, hwalk⟩ := find_eq_ok.mp hfind
  obtain ⟨links, hrest⟩ := walk_through hwalk
  exact ⟨links, hcheck, hfolder, hrest⟩

namespace Reaches

variable {base path : String} {links : Nat} {place found : List String}

theorem ne_empty (h : fs.Reaches base links place) : base ≠ "" := (check_eq_ok.mp h.check).2.1

theorem find (h : fs.Reaches base links place) : fs.find base = .ok place := by
  have hwalk := h.walk []
  rw [List.append_nil, FileSystem.walk] at hwalk
  exact find_eq_ok.mpr ⟨h.check, hwalk⟩

/-- Slashes at the end of a path make no difference to where others go on from it. -/
theorem walk_front (h : fs.Reaches base links place) {front slashes : List String}
    (hnames : names base = front ++ slashes) (hslashes : ∀ n ∈ slashes, n = "")
    (rest : List String) :
    fs.walk maxLinks (fs.start base) (front ++ rest) = fs.walk links place rest := by
  by_cases hne : slashes = []
  · have hwalk := h.walk rest
    rwa [hnames, hne, List.append_nil] at hwalk
  · have hstop := h.walk []
    rw [List.append_nil, hnames, FileSystem.walk] at hstop
    obtain ⟨links', place', hfront⟩ := walk_append hstop
    rw [hfront] at hstop
    have hfolder := folder_of_walk hne hstop
    rw [hfront, ← walk_slashes hfolder hslashes, ← hfront, ← List.append_assoc, ← hnames, h.walk]

/-- A path goes on from a folder as its names go on from there. -/
theorem walk_join (h : fs.Reaches base links place) (hpath : isAbsolute path = false)
    (rest : List String) :
    fs.walk maxLinks (fs.start (join base path)) (names (join base path) ++ rest) =
      fs.walk links place (names path ++ rest) := by
  obtain ⟨front, slashes, hnames, hslashes, hjoin⟩ := exists_join h.ne_empty
  have hstart : fs.start (join base path) = fs.start base := by
    rw [start, isAbsolute_join h.ne_empty hpath, start]
  rw [hstart, hjoin path hpath, names_slash, List.append_assoc, h.walk_front hnames hslashes]

theorem find_join (h : fs.Reaches base links place) (hpath : isAbsolute path = false) :
    fs.find (join base path) = .ok found ↔
      FileSystem.check (join base path) = .ok () ∧ fs.walk links place (names path) = .ok found := by
  have hwalk := h.walk_join hpath []
  rw [List.append_nil, List.append_nil] at hwalk
  rw [find_eq_ok, hwalk]

end Reaches

theorem isFolder_of_find {path : String} {place : List String} (hfind : fs.find path = .ok place)
    (hfolder : fs.node? place = some .folder) : fs.isFolder path = true := by
  rw [isFolder, nodeAt?, hfind]
  simp [hfolder]

theorem isFolder_dot (h : fs.node? fs.here = some .folder) : fs.isFolder "." = true := by
  have hdot : (!isStep ".") = true := by decide
  have hfind : fs.find "." = .ok fs.here := by
    refine find_eq_ok.mpr ⟨rfl, ?_⟩
    show fs.walk maxLinks fs.here ["."] = _
    rw [walk, if_neg (not_not.mpr h), if_pos hdot, walk]
  exact isFolder_of_find hfind h

theorem exists_find_of_isFile {path : String} (h : fs.isFile path = true) :
    ∃ place, fs.find path = .ok place := by
  rw [isFile, nodeAt?] at h
  cases hfind : fs.find path with
  | error fault =>
    rw [hfind] at h
    cases h
  | ok place => exact ⟨place, rfl⟩

theorem isFile_congr {path path' : String} (h : fs.find path = fs.find path') :
    fs.isFile path = fs.isFile path' := by
  rw [isFile, nodeAt?, h, isFile, nodeAt?]

theorem read_of_find {path : String} {place : List String} {bytes : List UInt8}
    (hfind : fs.find path = .ok place) (hnode : fs.node? place = some (.file bytes)) :
    fs.read path = (Text.Utf8.text bytes).mapError (fun _ => .noText) := by
  rw [read, hfind]
  simp only [bind, Except.bind, hnode]

/-! ## Folders -/

/-- What every file system keeps to: no two entries have the same place, all of them have names that
files can have, and each stands in a folder. -/
structure WellFormed (fs : FileSystem) : Prop where
  distinct : (fs.entries.map Prod.fst).Nodup
  named : ∀ e ∈ fs.entries, e.1 ≠ [] ∧ ∀ n ∈ e.1, IsName n
  parent : ∀ e ∈ fs.entries, fs.node? e.1.dropLast = some .folder

theorem node?_eq_some {place : List String} {node : Node} (h : fs.WellFormed) (hne : place ≠ []) :
    fs.node? place = some node ↔ (place, node) ∈ fs.entries := by
  rw [node?, if_neg hne]
  constructor
  · intro hnode
    obtain ⟨e, he, rfl⟩ := Option.map_eq_some_iff.mp hnode
    obtain rfl : e.1 = place := by simpa using List.find?_some he
    exact List.mem_of_find?_eq_some he
  · intro hmem
    rw [Keyed.get?_of_mem Prod.fst h.distinct hmem]
    rfl

/-- A folder stands on the way to whatever there is below it. -/
theorem folder_of_below (hfs : fs.WellFormed) {place ms : List String} (hne : ms ≠ [])
    (h : fs.node? (place ++ ms) ≠ none) : fs.node? place = some .folder := by
  obtain ⟨n, ms, rfl⟩ := List.exists_cons_of_ne_nil hne
  induction ms using List.reverseRecOn with
  | nil =>
    obtain ⟨node, hnode⟩ := Option.ne_none_iff_exists'.mp h
    simpa using hfs.parent _ ((node?_eq_some hfs (by simp)).mp hnode)
  | append_singleton ms last ih =>
    obtain ⟨node, hnode⟩ := Option.ne_none_iff_exists'.mp h
    have hparent := hfs.parent _ ((node?_eq_some hfs (by simp)).mp hnode)
    rw [← List.cons_append, ← List.append_assoc, List.dropLast_concat] at hparent
    exact ih (by simp) (by simp [hparent])

/-- Where there are no links and no name is too long, names lead to whatever has them. -/
theorem walk_of_below (hfs : fs.WellFormed) {links : Nat} {place ns : List String}
    (hlinks : fs.Unlinked place) (hsize : ∀ n ∈ ns, n.utf8ByteSize ≤ maxName)
    (hnames : ∀ n ∈ ns, IsName n) (h : fs.node? (place ++ ns) ≠ none) :
    fs.walk links place ns = .ok (place ++ ns) := by
  induction ns generalizing place with
  | nil => simp [walk]
  | cons name ns ih =>
    obtain ⟨hname, hnames⟩ := List.forall_mem_cons.mp hnames
    obtain ⟨hlength, hsize⟩ := List.forall_mem_cons.mp hsize
    have hfolder : fs.node? place = some .folder := folder_of_below hfs (by simp) h
    have hbelow : fs.node? (place ++ [name] ++ ns) ≠ none := by simpa using h
    have hthere : fs.node? (place ++ [name]) ≠ none := by
      by_cases hns : ns = []
      · simpa [hns] using hbelow
      · simp [folder_of_below hfs hns hbelow]
    obtain ⟨node, hnode⟩ := Option.ne_none_iff_exists'.mp hthere
    have hnext : fs.walk links place (name :: ns) = fs.walk links (place ++ [name]) ns := by
      rw [walk, if_neg (not_not.mpr hfolder), if_neg (by simp [hname.isStep]), if_neg hname.2.2.1,
        if_neg (Nat.not_lt.mpr hlength), hnode]
      cases node with
      | link target => exact absurd hnode (hlinks [name] target)
      | _ => rfl
    rw [hnext, ih (hlinks.append [name]) hsize hnames hbelow]
    simp

/-- What stands in the folder at a place, in the order of the names. -/
def inner (fs : FileSystem) (place : List String) : List (String × Node) :=
  (fs.entries.filterMap (child? place)).mergeSort (fun a b => decide (a.1 ≤ b.1))

theorem children_of_find {path : String} {place : List String} (h : fs.find path = .ok place) :
    fs.children path = .ok (fs.inner place) := by
  rw [children, h]
  rfl

/-- Entries that are in order already are not sorted. -/
theorem inner_of_pairwise {place : List String} {children : List (String × Node)}
    (h : fs.entries.filterMap (child? place) = children)
    (hsorted : children.Pairwise (fun a b => decide (a.1 ≤ b.1) = true)) :
    fs.inner place = children := by
  rw [inner, h, List.mergeSort_of_pairwise hsorted]

/-- The name under which a place stands in a folder. -/
def nameIn? (folder place : List String) : Option String :=
  if place.dropLast = folder then place.getLast? else none

theorem nameIn?_eq_some {folder place : List String} {name : String} :
    nameIn? folder place = some name ↔ place = folder ++ [name] := by
  rcases List.eq_nil_or_concat place with rfl | ⟨front, last, rfl⟩
  · simp [nameIn?]
  · by_cases hfront : front = folder
    · simp [nameIn?, hfront]
    · simp [nameIn?, hfront]

theorem child?_eq (folder : List String) (e : List String × Node) :
    child? folder e = (nameIn? folder e.1).map (fun name => (name, e.2)) := by
  unfold child? nameIn?
  split <;> rfl

theorem mem_inner {place : List String} (h : fs.WellFormed) {c : String × Node} :
    c ∈ fs.inner place ↔ fs.node? (place ++ [c.1]) = some c.2 := by
  rw [inner, List.mem_mergeSort, List.mem_filterMap, node?_eq_some h (by simp)]
  obtain ⟨name, node⟩ := c
  constructor
  · rintro ⟨⟨folder, node'⟩, he, hchild⟩
    rw [child?_eq] at hchild
    obtain ⟨name', hname, heq⟩ := Option.map_eq_some_iff.mp hchild
    cases heq
    obtain rfl : folder = place ++ [name] := nameIn?_eq_some.mp hname
    exact he
  · intro he
    refine ⟨_, he, ?_⟩
    rw [child?_eq, nameIn?_eq_some.mpr rfl]
    rfl

theorem nodup_inner (h : fs.WellFormed) (place : List String) :
    ((fs.inner place).map Prod.fst).Nodup := by
  have hnames : (fs.entries.filterMap (child? place)).map Prod.fst =
      (fs.entries.map Prod.fst).filterMap (nameIn? place) := by
    rw [List.map_filterMap, List.filterMap_map]
    congr 1
    funext e
    rw [child?_eq, Function.comp_apply]
    cases nameIn? place e.1 <;> rfl
  rw [inner, ((List.mergeSort_perm _ _).map Prod.fst).nodup_iff, hnames]
  refine List.Nodup.filterMap (fun p q name hp hq => ?_) h.distinct
  rw [nameIn?_eq_some.mp hp, nameIn?_eq_some.mp hq]

end LuaStubs.FileSystem
