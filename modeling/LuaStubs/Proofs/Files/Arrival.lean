import LuaStubs.Proofs.Files.Descent

/-! Where the search for the JSON files of a folder comes to.  However the path of the folder is
written, the search arrives at the same steps, unless the path begins with a dot; then none of the
paths that it finds begins like that of the folder. -/
namespace LuaStubs.FileSystem

open LuaStubs.Files

variable {fs : FileSystem}

/-! ## The pattern of a folder -/

/-- A search is what it is from where the plain names at its front lead. -/
theorem expand_congr {s t : Stop} {ps qs : Pattern} (depth : Nat)
    (h : fs.advance s ps = fs.advance t qs) : fs.expand depth ps s = fs.expand depth qs t := by
  cases depth with
  | zero => rfl
  | succ depth => rw [expand, expand, h]

theorem divide_eq {path name last : String} {ns : List String} (hlast : last ≠ "")
    (hnames : names path = name :: (ns ++ [last])) :
    divide path = if name = "" then ("/", (ns ++ [last]).map String.toList)
      else (".", (name :: (ns ++ [last])).map String.toList) := by
  have hne : path ≠ "" := by
    rintro rfl
    simp [names, Text.split] at hnames
  have habsolute := isAbsolute_iff_of_names hne hnames
  have hpieces : Text.split isSlash path.toList =
      name.toList :: (ns ++ [last]).map String.toList := by
    have hmap := congrArg (List.map String.toList) hnames
    simpa [names, Function.comp_def] using hmap
  have hend : ((ns ++ [last]).map String.toList).getLast? ≠ some [] := by
    simpa using hlast
  by_cases hname : name = ""
  · have htop : isAbsolute path = true := habsolute.mpr hname
    obtain ⟨cs, hcs⟩ := isAbsolute_iff.mp htop
    rw [hcs, Text.split_cons_of_mark (by decide)] at hpieces
    have hrest : Text.split isSlash cs = (ns ++ [last]).map String.toList :=
      (List.cons.inj hpieces).2
    rw [if_pos hname, divide, htop, hcs]
    simp only [if_true, List.drop_succ_cons, List.drop_zero, hrest, if_neg hend]
  · have hhere : isAbsolute path = false := Bool.eq_false_iff.mpr (mt habsolute.mp hname)
    have hend' : (name.toList :: (ns ++ [last]).map String.toList).getLast? ≠ some [] := by
      rwa [List.getLast?_cons_of_ne_nil (by simp)]
    rw [if_neg hname, divide, hhere]
    simp only [Bool.false_eq_true, if_false, hpieces, if_neg hend']
    rfl

/-- The pattern for the JSON files below a folder, from where its search begins. -/
theorem search_slash {front name : String} {ns : List String} (hnames : names front = name :: ns)
    (hplain : ∀ c ∈ front.toList, Glob.IsPlain c) :
    fs.search (front ++ "/" ++ "**/*.json") =
      .ok (if name = "" then
          fs.expand maxDepth (ns.map (fun n => Glob.plain n.toList) ++ [[.folders], Glob.json])
            (fs.stop "/")
        else
          fs.expand maxDepth ((name :: ns).map (fun n => Glob.plain n.toList) ++
            [[.folders], Glob.json]) (fs.stop ".")) := by
  have hwhole : names (front ++ "/" ++ "**/*.json") = name :: (ns ++ ["**"] ++ ["*.json"]) := by
    rw [names_slash, hnames, List.append_assoc]
    rfl
  have htext : (front ++ "/" ++ "**/*.json").toList = front.toList ++ '/' :: "**/*.json".toList := by
    simp
  have hpieces : ∀ n ∈ name :: ns, ∀ c ∈ n.toList, Glob.IsPlain c := by
    intro n hn c hc
    rw [← hnames] at hn
    exact hplain c (mem_of_mem_names hn hc)
  have hparse (ms : List String) (hms : ∀ n ∈ ms, ∀ c ∈ n.toList, Glob.IsPlain c) :
      Glob.parse ((ms ++ ["**"] ++ ["*.json"]).map String.toList)
        (front ++ "/" ++ "**/*.json").toList =
      .ok (ms.map (fun n => Glob.plain n.toList) ++ [[.folders], Glob.json]) := by
    rw [htext, List.append_assoc, List.map_append]
    exact Glob.parse_json hms hplain
  rw [search, divide_eq (by decide) hwhole]
  by_cases hname : name = ""
  · rw [if_pos hname, if_pos hname]
    show (Glob.parse ((ns ++ ["**"] ++ ["*.json"]).map String.toList) _).map _ = _
    rw [hparse ns (List.forall_mem_cons.mp hpieces).2]
    rfl
  · rw [if_neg hname, if_neg hname]
    show (Glob.parse (((name :: ns) ++ ["**"] ++ ["*.json"]).map String.toList) _).map _ = _
    rw [hparse (name :: ns) hpieces]
    rfl

/-! ## Arriving -/

/-- A search that has come to `path` is where `root` leads, at the end of the same steps. -/
structure Arrives (fs : FileSystem) (root path : String) (links : Nat) (place : List String) :
    Prop where
  found : fs.Reaches path links place
  meant : fs.Reaches root links place
  steps : Files.steps path = Files.steps root
  check : ∀ rest, isAbsolute rest = false → FileSystem.check (join root rest) = .ok () →
    FileSystem.check (join path rest) = .ok ()

theorem reaches_top (fs : FileSystem) : fs.Reaches "/" maxLinks [] where
  check := rfl
  folder := rfl
  walk rest := by
    have hnames : names "/" = ["", ""] := by decide
    rw [hnames]
    exact walk_slashes rfl (by simp) rest

section

variable {root front start name : String} {ns slashes top place : List String} {links more : Nat}

/-- Where the names of `root` are passed, the search is where they lead. -/
theorem exists_arrives_of_start (hroot : fs.Reaches root links top)
    (hnames : names root = (name :: ns) ++ slashes) (hslashes : ∀ n ∈ slashes, n = "")
    (hname : name ≠ ".") (hstart : fs.Reaches start more place)
    (hfirst : ∀ rest, fs.walk maxLinks (fs.start root) (name :: rest) = fs.walk more place rest)
    (hsteps : steps start = [if name = "" then "/" else name])
    (hfits : check (under start ns) = .ok () ∧ ∀ rest, isAbsolute rest = false →
      check (join root rest) = .ok () → check (join (under start ns) rest) = .ok ()) :
    ∃ path links', fs.Arrives root path links' top ∧
      fs.advance ⟨start, true⟩ (ns.map (fun n => Glob.plain n.toList) ++ [[.folders], Glob.json]) =
        some (⟨path, true⟩, [[.folders], Glob.json]) := by
  have hns : ∀ n ∈ ns, '/' ∉ n.toList := by
    intro n hn
    have hmem : n ∈ names root := by
      rw [hnames]
      simp [hn]
    exact no_slash_of_mem_names hmem
  -- The slashes at the end of `root` are not in the pattern: they lead from `top` to itself.
  have hgo (rest : List String) : fs.walk more place (ns ++ rest) = fs.walk links top rest := by
    rw [← hfirst, ← List.cons_append]
    exact hroot.walk_front hnames hslashes rest
  have hend : fs.walk more place ns = .ok top := by
    have hstop := hgo []
    rwa [List.append_nil, walk] at hstop
  have hhead : (steps start).head? ≠ some "." := by
    rw [hsteps]
    split
    · decide
    · simpa using hname
  have hfolders : Glob.literal? [.folders] = none := rfl
  obtain ⟨links', hreaches, hagree, hadvance⟩ :=
    @Reaches.advance fs start more place ns top hstart hhead hns hend hroot.folder hfits.1 _
      [Glob.json] hfolders
  have hsame : steps (under start ns) = steps root := by
    rw [List.cons_append] at hnames
    rw [steps_under hstart.ne_empty hns, hsteps, steps_eq hroot.ne_empty hnames, List.filter_append,
      filter_isStep_of_empty hslashes, List.append_nil]
    rfl
  refine ⟨_, links', ⟨hreaches, ⟨hroot.check, hroot.folder, fun rest => ?_⟩, hsame, hfits.2⟩, hadvance⟩
  rw [hroot.walk, ← hgo, hagree]

variable (hroot : fs.Reaches root links top) (hnames : names root = names front ++ slashes)
  (hslashes : ∀ n ∈ slashes, n = "")
  (hjoin : ∀ rest, isAbsolute rest = false → join root rest = front ++ "/" ++ rest)
include hroot hnames hjoin

/-- A path that is no longer than the front of `root` goes on where `root` does. -/
theorem check_of_front {path : String} (hne : path ≠ "")
    (h : path.toList.Sublist front.toList) :
    check path = .ok () ∧ ∀ rest, isAbsolute rest = false → check (join root rest) = .ok () →
      check (join path rest) = .ok () := by
  have hshort := h.trans (sublist_of_names hnames)
  refine ⟨check_of_sublist hne hshort hroot.check, fun rest hrest hcheck => ?_⟩
  refine check_of_sublist (join_ne_empty hne hrest) ((join_sublist path hrest).trans ?_) hcheck
  rw [hjoin rest hrest, String.append_assoc, String.toList_append, String.toList_append]
  exact h.append_right _

/-- From the top one slash is enough in front of the first name. -/
theorem check_under_top (hfront : names front = "" :: ns) :
    check (under "/" ns) = .ok () ∧ ∀ rest, isAbsolute rest = false →
      check (join root rest) = .ok () → check (join (under "/" ns) rest) = .ok () := by
  have htext := toList_of_names hfront
  have hslash : Text.ends "/" "/" = true := by decide
  have htop {rest : String} (hrest : isAbsolute rest = false) : join "/" rest = "/" ++ rest := by
    rw [join, if_neg (by simp [hrest]), if_pos (by simp [hslash])]
  cases ns with
  | nil =>
    -- The path at the top itself is longer than what stands before its slash.
    have hnone : front = "" := by
      rw [← String.toList_inj, htext]
      rfl
    refine ⟨rfl, fun rest hrest hcheck => ?_⟩
    rw [hjoin rest hrest, hnone, String.empty_append] at hcheck
    show check (join "/" rest) = .ok ()
    rwa [htop hrest]
  | cons m ms =>
    have hslashless : ∀ n ∈ m :: ms, '/' ∉ n.toList :=
      fun n hn => no_slash_of_mem_names (hfront ▸ List.mem_cons_of_mem _ hn)
    obtain ⟨hm, hms⟩ := List.forall_mem_cons.mp hslashless
    have hsub := under_sublist ("/" ++ m) hms
    refine check_of_front hroot hnames hjoin (under_ne_empty (by decide) hslashless) ?_
    rw [htext, List.flatMap_cons]
    show (under (join "/" m) ms).toList.Sublist _
    rw [htop (isAbsolute_of_no_slash hm)]
    simpa using hsub

include hslashes

theorem exists_arrives_top (hfront : names front = "" :: ns) :
    ∃ path links', fs.Arrives root path links' top ∧
      fs.advance (fs.stop "/") (ns.map (fun n => Glob.plain n.toList) ++ [[.folders], Glob.json]) =
        some (⟨path, true⟩, [[.folders], Glob.json]) := by
  have hall : names root = ("" :: ns) ++ slashes := by rw [hnames, hfront]
  have hstart : fs.start root = [] := by
    rw [start, (isAbsolute_iff_of_names hroot.ne_empty hall).mpr rfl, if_pos rfl]
  have hfirst (rest : List String) :
      fs.walk maxLinks (fs.start root) ("" :: rest) = fs.walk maxLinks [] rest := by
    have hslash : ∀ n ∈ [""], n = "" := by simp
    rw [hstart]
    exact walk_slashes rfl hslash rest
  rw [(reaches_top fs).stop_eq]
  exact exists_arrives_of_start hroot hall hslashes (by decide) (reaches_top fs) hfirst (by decide)
    (check_under_top hroot hnames hjoin hfront)

/-- The first name of a relative path stands for itself. -/
theorem exists_arrives_here (hfront : names front = name :: ns) (hname : name ≠ "")
    (hdot : name ≠ ".") :
    ∃ path links', fs.Arrives root path links' top ∧
      fs.advance (fs.stop ".")
          ((name :: ns).map (fun n => Glob.plain n.toList) ++ [[.folders], Glob.json]) =
        some (⟨path, true⟩, [[.folders], Glob.json]) := by
  have hall : names root = (name :: ns) ++ slashes := by rw [hnames, hfront]
  have hslashless : ∀ n ∈ name :: ns, '/' ∉ n.toList :=
    fun n hn => no_slash_of_mem_names (hfront ▸ hn)
  obtain ⟨hslash, hns⟩ := List.forall_mem_cons.mp hslashless
  have hrelative : isAbsolute root = false :=
    Bool.eq_false_iff.mpr (mt (isAbsolute_iff_of_names hroot.ne_empty hall).mp hname)
  have hstart : fs.start root = fs.here := by rw [start, hrelative, if_neg (by simp)]
  have hstart' : fs.start name = fs.here := by
    rw [start, isAbsolute_of_no_slash hslash, if_neg (by simp)]
  have hend : fs.walk maxLinks fs.here (name :: ns) = .ok top := by
    have hstop := hroot.walk_front hall hslashes []
    rwa [List.append_nil, hstart, walk] at hstop
  obtain ⟨place, hone, hfolder⟩ := exists_first hend (fun _ => hroot.folder)
  have hsub : name.toList.Sublist front.toList := by
    rw [toList_of_names hfront]
    exact List.sublist_append_left _ _
  have hfind : fs.find name = .ok place := by
    refine find_eq_ok.mpr ⟨(check_of_front hroot hnames hjoin hname hsub).1, ?_⟩
    rwa [hstart', names_of_no_slash hslash]
  obtain ⟨more, hreaches⟩ := exists_reaches hfind hfolder
  have hfirst (rest : List String) :
      fs.walk maxLinks (fs.start root) (name :: rest) = fs.walk more place rest := by
    have hgo := hreaches.walk rest
    rwa [hstart', names_of_no_slash hslash, List.singleton_append, ← hstart] at hgo
  have hfits := check_of_front hroot hnames hjoin (under_ne_empty hname hns)
    (show (under name ns).toList.Sublist front.toList by
      rw [toList_of_names hfront]
      exact under_sublist name hns)
  obtain ⟨path, links', harrives, hadvance⟩ := exists_arrives_of_start hroot hall hslashes hdot
    hreaches hfirst (steps_eq hname (names_of_no_slash hslash)) hfits
  refine ⟨path, links', harrives, ?_⟩
  have hhere : isHere "." = true := by decide
  have henter : enter "." name = name := if_pos hhere
  have hthere : fs.isFolder "." = true :=
    isFolder_dot (folder_of_walk (List.cons_ne_nil name ns) hend)
  rw [List.map_cons, List.cons_append, advance, Glob.literal?_plain]
  simp only [stop, henter, hthere, hreaches.isThere, ite_self, if_true, hreaches.isFolder]
  exact hadvance

end

/-- The search of a folder comes to it, unless its path begins with a dot. -/
theorem exists_arrives {root : String} (hfolder : fs.isFolder root = true)
    (hhead : (names root).head? ≠ some ".") (hplain : ∀ c ∈ root.toList, Glob.IsPlain c) :
    ∃ path links place, fs.Arrives root path links place ∧
      fs.search (join root "**/*.json") =
        .ok (fs.expand maxDepth [[.folders], Glob.json] ⟨path, true⟩) := by
  obtain ⟨links, top, hroot⟩ := exists_reaches_of_isFolder hfolder
  obtain ⟨front, slashes, hnames, hslashes, hjoin⟩ := exists_join hroot.ne_empty
  obtain ⟨name, ns, hfront⟩ := List.exists_cons_of_ne_nil (names_ne_nil front)
  have hchars : ∀ c ∈ front.toList, Glob.IsPlain c :=
    fun c hc => hplain c ((sublist_of_names hnames).subset hc)
  rw [hjoin _ (by decide), search_slash hfront hchars]
  by_cases hname : name = ""
  · subst hname
    obtain ⟨path, links', harrives, hadvance⟩ :=
      exists_arrives_top hroot hnames hslashes hjoin hfront
    refine ⟨path, links', top, harrives, ?_⟩
    rw [if_pos rfl, expand_congr maxDepth (hadvance.trans (advance_json _).symm)]
  · have hdot : name ≠ "." := by
      rintro rfl
      rw [hnames, hfront] at hhead
      exact hhead rfl
    obtain ⟨path, links', harrives, hadvance⟩ :=
      exists_arrives_here hroot hnames hslashes hjoin hfront hname hdot
    refine ⟨path, links', top, harrives, ?_⟩
    rw [if_neg hname, expand_congr maxDepth (hadvance.trans (advance_json _).symm)]

/-- A path that leads anywhere has no more names than the search goes through. -/
theorem length_le_maxDepth {base : String} {ms : List String} (h : ∀ n ∈ ms, IsName n)
    (hcheck : check (join base ("/".intercalate ms)) = .ok ()) : ms.length ≤ maxDepth := by
  have hsize := (check_eq_ok.mp hcheck).2.2
  have hjoin := size_le_join base ("/".intercalate ms)
  cases ms with
  | nil => exact Nat.zero_le _
  | cons n rest =>
    obtain ⟨-, hrest⟩ := List.forall_mem_cons.mp h
    have hnames : (pathOf false [n]).utf8ByteSize + 2 * rest.length ≤
        (pathOf false ([n] ++ rest)).utf8ByteSize := size_pathOf_append (by simp) hrest
    rw [pathOf_false, pathOf_false, List.singleton_append] at hnames
    rw [List.length_cons]
    unfold maxDepth
    omega

namespace Arrives

variable {root path : String} {links : Nat} {place found : List String}

/-- The two paths lead to the same places, as long as neither becomes too long. -/
theorem find_join (h : fs.Arrives root path links place) {rest : String}
    (hrest : isAbsolute rest = false) :
    fs.find (join root rest) = .ok found ↔
      FileSystem.check (join root rest) = .ok () ∧ fs.find (join path rest) = .ok found := by
  rw [h.meant.find_join hrest, h.found.find_join hrest]
  constructor
  · rintro ⟨hcheck, hwalk⟩
    exact ⟨hcheck, h.check rest hrest hcheck, hwalk⟩
  · rintro ⟨hcheck, -, hwalk⟩
    exact ⟨hcheck, hwalk⟩

theorem withinLimits (h : fs.Arrives root path links place) (hlimits : fs.WithinLimits root) :
    fs.WithinLimits path where
  names := hlimits.names
  paths ms found hms hwalk hfolder := by
    by_cases hnil : ms = []
    · rw [hnil]
      exact h.found.check
    · have hrelative : isAbsolute (pathOf false ms) = false := isAbsolute_pathOf hnil hms
      rw [h.found.walk, ← h.meant.walk] at hwalk
      have hcheck := hlimits.paths ms found hms hwalk hfolder
      rw [under_eq_join h.meant.ne_empty hnil hms] at hcheck
      rw [under_eq_join h.found.ne_empty hnil hms]
      exact h.check _ hrelative hcheck

/-- A JSON file below `root` is found, under a path that leads to it from `root` by its names. -/
theorem exists_found (h : fs.Arrives root path links place) (hfs : fs.WellFormed)
    (hhead : (Files.steps path).head? ≠ some ".") (hlimits : fs.WithinLimits path) {rest : String}
    (hrest : ∀ n ∈ names rest, IsName n) (hends : Text.ends ".json" rest = true)
    (hfile : fs.isFile (join root rest) = true) :
    ∃ file, .found file ∈ fs.expand maxDepth [[.folders], Glob.json] ⟨path, true⟩ ∧
      fs.isFile file = true ∧ below? root file = some rest := by
  have hne := names_ne_nil rest
  have hwhole := intercalate_names rest
  have hrelative : isAbsolute rest = false := isAbsolute_of_names hrest
  have hjson : IsJson (names rest) := by
    rw [← ends_json_iff hne, hwhole]
    exact hends
  have hunder : under path (names rest) = join path rest := by
    rw [under_eq_join h.found.ne_empty hne hrest, hwhole]
  obtain ⟨place', hroot⟩ := exists_find_of_isFile hfile
  have hfind : fs.find (under path (names rest)) = .ok place' := by
    rw [hunder]
    exact ((h.find_join hrelative).mp hroot).2
  have hlength : (names rest).length ≤ maxDepth := by
    have hcheck := (find_eq_ok.mp hroot).1
    rw [← hwhole] at hcheck
    exact length_le_maxDepth hrest hcheck
  refine ⟨under path (names rest),
    mem_expand_of_find hfs h.found hhead hlimits hjson hrest hlength hfind, ?_, ?_⟩
  · rw [isFile_congr (hfind.trans hroot.symm), hfile]
  · rw [below?_under h.found.ne_empty h.steps hrest, hwhole]

/-- What is found is a file below `root`, if its path from there is not too long. -/
theorem of_found (h : fs.Arrives root path links place) (hfs : fs.WellFormed)
    (hhead : (Files.steps path).head? ≠ some ".") (hlimits : fs.WithinLimits path)
    {file rest : String} (hfound : .found file ∈ fs.expand maxDepth [[.folders], Glob.json] ⟨path, true⟩)
    (hfile : fs.isFile file = true) (hbelow : below? root file = some rest) :
    (∀ n ∈ names rest, IsName n) ∧ Text.ends ".json" rest = true ∧
      (FileSystem.check (join root rest) = .ok () → fs.isFile (join root rest) = true) := by
  obtain ⟨ms, hjson, hms, heq⟩ := found_of_mem_expand hfs h.found hhead hlimits hfound
  obtain rfl := Finding.found.inj heq
  obtain rfl : "/".intercalate ms = rest := by
    rw [below?_under h.found.ne_empty h.steps hms] at hbelow
    exact Option.some.inj hbelow
  have hnames := names_intercalate hjson.ne_nil hms
  have hrelative : isAbsolute (pathOf false ms) = false := isAbsolute_pathOf hjson.ne_nil hms
  refine ⟨by rwa [hnames], (ends_json_iff hjson.ne_nil).mpr hjson, fun hcheck => ?_⟩
  rw [under_eq_join h.found.ne_empty hjson.ne_nil hms] at hfile
  obtain ⟨found, hfind⟩ := exists_find_of_isFile hfile
  have hroot : fs.find (join root ("/".intercalate ms)) = .ok found :=
    (h.find_join hrelative).mpr ⟨hcheck, hfind⟩
  rw [isFile_congr (hroot.trans hfind.symm), hfile]

end Arrives

/-! ## Dots at the beginning -/

/-- Where a search can be: at the beginning, or at a path whose first step is no dot. -/
def IsUndotted (path : String) : Prop := path = "." ∨ (steps path).head? ≠ some "."

section

variable {path name : String}

theorem head?_steps_of_no_slash (hslash : '/' ∉ name.toList) (hdot : name ≠ ".") :
    (steps name).head? ≠ some "." := by
  by_cases hempty : name = ""
  · rw [hempty]
    decide
  · refine mt (head?_steps hempty).mp ?_
    rw [names_of_no_slash hslash]
    simpa using hdot

theorem head?_steps_enter (h : IsUndotted path) (hslash : '/' ∉ name.toList) (hdot : name ≠ ".") :
    (steps (enter path name)).head? ≠ some "." := by
  rcases h with rfl | h
  · exact head?_steps_of_no_slash hslash hdot
  · rw [enter_eq_join h]
    -- Joining to the empty path gives the name itself, which then is the first step.
    by_cases hempty : path = ""
    · have hjoin : join "" name = name := by
        rw [join, if_neg (by simp [isAbsolute_of_no_slash hslash])]
        simp
      rw [hempty, hjoin]
      exact head?_steps_of_no_slash hslash hdot
    · rwa [head?_steps_join hempty (isAbsolute_of_no_slash hslash)]

theorem IsUndotted.enter (h : IsUndotted path) (hslash : '/' ∉ name.toList) :
    IsUndotted (enter path name) := by
  by_cases hdot : name = "."
  · subst hdot
    rcases h with rfl | h
    · exact .inl rfl
    · rw [enter_eq_join h]
      by_cases hempty : path = ""
      · rw [hempty]
        exact .inl rfl
      · exact .inr (by rwa [head?_steps_join hempty (by decide)])
  · exact .inr (head?_steps_enter h hslash hdot)

/-- Names are passed without a dot coming to stand in front. -/
theorem IsUndotted.advance {ns : List String} {s t : Stop} {p : List Glob.Token} {ps qs : Pattern}
    (h : IsUndotted s.path) (hns : ∀ n ∈ ns, '/' ∉ n.toList) (hp : Glob.literal? p = none)
    (hadvance : fs.advance s (ns.map (fun n => Glob.plain n.toList) ++ p :: ps) = some (t, qs)) :
    IsUndotted t.path ∧ qs = p :: ps := by
  induction ns generalizing s with
  | nil =>
    rw [List.map_nil, List.nil_append, FileSystem.advance, hp] at hadvance
    cases hadvance
    exact ⟨h, rfl⟩
  | cons n ns ih =>
    obtain ⟨hn, hns⟩ := List.forall_mem_cons.mp hns
    rw [List.map_cons, List.cons_append, FileSystem.advance, Glob.literal?_plain] at hadvance
    simp only at hadvance
    exact ih (h.enter hn) hns (Option.ite_none_right_eq_some.mp hadvance).2

/-- Nothing that the search finds begins with a dot. -/
theorem head?_of_found (hfs : fs.WellFormed) {depth : Nat} {s : Stop} (h : IsUndotted s.path)
    (hfound : .found path ∈ fs.expand depth [[.folders], Glob.json] s) :
    (steps path).head? ≠ some "." := by
  induction depth generalizing s with
  | zero => cases hfound
  | succ depth ih =>
    rw [expand, advance_json] at hfound
    simp only at hfound
    split at hfound
    · cases hchildren : fs.children s.path with
      | error fault =>
        rw [hchildren] at hfound
        simp at hfound
      | ok inner =>
        rw [hchildren] at hfound
        obtain ⟨place, hfind, hinner⟩ := map_eq_ok.mp hchildren
        have hdotted : dotted [.folders] = [] := by decide
        obtain rfl : fs.inner place = inner := hinner
        simp only [hdotted, List.flatMap_nil, List.nil_append] at hfound
        obtain ⟨⟨n, node⟩, hentry, hvisit⟩ := List.mem_flatMap.mp hfound
        have hname : IsName n := isName_of_node hfs ((mem_inner hfs).mp hentry)
        have hnext := head?_steps_enter h hname.2.2.2 hname.2.1
        rw [visit_folders, entryStop_eq, List.mem_append, List.mem_ite_nil_right,
          List.mem_ite_nil_right, List.mem_singleton] at hvisit
        rcases hvisit with ⟨-, hhere⟩ | ⟨-, hbelow⟩
        · rwa [Finding.found.inj hhere]
        · refine ih ?_ hbelow
          exact .inr hnext
    · cases hfound

/-- No path that a search from the beginning finds begins with a dot. -/
theorem head?_of_search (hfs : fs.WellFormed) {front : String} {ns : List String}
    (hnames : names front = "." :: ns) (hplain : ∀ c ∈ front.toList, Glob.IsPlain c)
    {findings : List Finding} (hsearch : fs.search (front ++ "/" ++ "**/*.json") = .ok findings)
    (hfound : .found path ∈ findings) : (steps path).head? ≠ some "." := by
  rw [search_slash hnames hplain, if_neg (by decide)] at hsearch
  obtain rfl := Except.ok.inj hsearch
  have hslashless : ∀ n ∈ "." :: ns, '/' ∉ n.toList :=
    fun n hn => no_slash_of_mem_names (hnames ▸ hn)
  have hfolders : Glob.literal? [.folders] = none := rfl
  have hstart : IsUndotted (fs.stop ".").path := .inl rfl
  cases hadvance : fs.advance (fs.stop ".")
      (("." :: ns).map (fun n => Glob.plain n.toList) ++ [[.folders], Glob.json]) with
  | none =>
    unfold maxDepth at hfound
    rw [expand, hadvance] at hfound
    cases hfound
  | some reached =>
    obtain ⟨t, qs⟩ := reached
    obtain ⟨ht, rfl⟩ := hstart.advance hslashless hfolders hadvance
    rw [expand_congr maxDepth (hadvance.trans (advance_json t).symm)] at hfound
    exact head?_of_found hfs ht hfound

end

end LuaStubs.FileSystem
