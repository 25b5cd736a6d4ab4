import LuaStubs.Files.Path
import LuaStubs.Proofs.Text.Affix

/-! Paths and the names that they are made of. -/
namespace LuaStubs.Files

open LuaStubs.Text

/-- A name that a file can have. -/
def IsName (name : String) : Prop := name ≠ "" ∧ name ≠ "." ∧ name ≠ ".." ∧ '/' ∉ name.toList

instance (name : String) : Decidable (IsName name) := inferInstanceAs (Decidable (_ ∧ _ ∧ _ ∧ _))

theorem IsName.isStep {name : String} (h : IsName name) : isStep name = true := by
  simp [Files.isStep, h.1, h.2.1]

theorem isSlash_eq_false {name : String} (h : '/' ∉ name.toList) :
    ∀ c ∈ name.toList, isSlash c = false := by
  intro c hc
  have hne : c ≠ '/' := fun heq => h (heq ▸ hc)
  simpa [isSlash] using hne

theorem isAbsolute_iff {path : String} :
    isAbsolute path = true ↔ ∃ cs, path.toList = '/' :: cs := by
  rw [isAbsolute, begins_iff]
  constructor
  · rintro ⟨cs, hcs⟩
    exact ⟨cs, hcs.symm⟩
  · rintro ⟨cs, hcs⟩
    exact ⟨cs, hcs.symm⟩

/-- Nothing stands before the slash that a path begins with. -/
theorem empty_mem_names {path : String} {cs : List Char} (h : path.toList = '/' :: cs) :
    "" ∈ names path := by
  rw [names, h, split_cons_of_mark (by decide)]
  exact List.mem_cons_self

/-- A path none of whose names is empty does not begin with a slash. -/
theorem dropWhile_isSlash {path : String} (h : ∀ name ∈ names path, IsName name) :
    path.toList.dropWhile isSlash = path.toList := by
  cases hpath : path.toList with
  | nil => rfl
  | cons c cs =>
    have hc : ¬ isSlash c = true := by
      intro hslash
      obtain rfl : c = '/' := by simpa [isSlash] using hslash
      exact (h "" (empty_mem_names hpath)).1 rfl
    rw [List.dropWhile_cons_of_neg hc]

theorem names_ne_nil (path : String) : names path ≠ [] := by simp [names, split_ne_nil]

/-- A path is its names with slashes between them. -/
theorem intercalate_names (path : String) : "/".intercalate (names path) = path := by
  have hslash : ∀ c, isSlash c = true ↔ c = '/' := by simp [isSlash]
  have hpieces : (names path).map String.toList = split isSlash path.toList := by
    simp [names, Function.comp_def]
  rw [← String.toList_inj, String.toList_intercalate, hpieces]
  exact intercalate_split hslash path.toList

theorem mem_of_mem_names {path name : String} {c : Char} (h : name ∈ names path)
    (hc : c ∈ name.toList) : c ∈ path.toList := by
  obtain ⟨piece, hpiece, rfl⟩ := List.mem_map.mp h
  have hslash : ∀ c, isSlash c = true ↔ c = '/' := by simp [isSlash]
  rw [← intercalate_split hslash path.toList]
  exact (part_of_mem hpiece).subset (by simpa using hc)

theorem no_slash_of_mem_names {path name : String} (h : name ∈ names path) :
    '/' ∉ name.toList := by
  obtain ⟨piece, hpiece, rfl⟩ := List.mem_map.mp h
  intro hslash
  have hmark := not_mark_of_mem_split hpiece '/' (by simpa using hslash)
  simp [isSlash] at hmark

theorem names_intercalate_of_no_slash {ns : List String} (hne : ns ≠ [])
    (h : ∀ n ∈ ns, '/' ∉ n.toList) : names ("/".intercalate ns) = ns := by
  have hslash : isSlash '/' = true := by decide
  have hpieces : ∀ piece ∈ ns.map String.toList, ∀ c ∈ piece, isSlash c = false := by
    intro piece hpiece
    obtain ⟨n, hn, rfl⟩ := List.mem_map.mp hpiece
    exact isSlash_eq_false (h n hn)
  have hsplit := split_intercalate hslash (by simpa using hne) hpieces
  rw [names, String.toList_intercalate]
  exact (congrArg (List.map String.ofList) hsplit).trans (by simp)

theorem names_intercalate {ns : List String} (hne : ns ≠ []) (h : ∀ n ∈ ns, IsName n) :
    names ("/".intercalate ns) = ns :=
  names_intercalate_of_no_slash hne (fun n hn => (h n hn).2.2.2)

/-! ## Paths by their names -/

/-- The path of these names, from the top or from where relative paths begin. -/
def pathOf (isTop : Bool) (ns : List String) : String :=
  if isTop then "/" ++ "/".intercalate ns else "/".intercalate ns

section

variable {isTop : Bool} {ns ms : List String} {n : String}

theorem pathOf_true (ns : List String) : pathOf true ns = "/" ++ "/".intercalate ns := rfl

theorem pathOf_false (ns : List String) : pathOf false ns = "/".intercalate ns := rfl

theorem names_pathOf (hne : ns ≠ []) (h : ∀ n ∈ ns, IsName n) :
    names (pathOf isTop ns) = if isTop then "" :: ns else ns := by
  cases isTop with
  | false => exact names_intercalate hne h
  | true =>
    have hns := names_intercalate hne h
    unfold names at hns ⊢
    rw [pathOf_true, String.toList_append]
    exact congrArg ("" :: ·) hns

theorem isAbsolute_pathOf (hne : ns ≠ []) (h : ∀ n ∈ ns, IsName n) :
    isAbsolute (pathOf isTop ns) = isTop := by
  cases isTop with
  | true => exact isAbsolute_iff.mpr ⟨("/".intercalate ns).toList, by simp [pathOf_true]⟩
  | false =>
    refine Bool.eq_false_iff.mpr (fun habsolute => ?_)
    obtain ⟨cs, hcs⟩ := isAbsolute_iff.mp habsolute
    have hempty := empty_mem_names hcs
    rw [pathOf_false, names_intercalate hne h] at hempty
    exact (h "" hempty).1 rfl

theorem isAbsolute_of_names {path : String} (h : ∀ n ∈ names path, IsName n) :
    isAbsolute path = false := by
  have hpath : isAbsolute (pathOf false (names path)) = false :=
    isAbsolute_pathOf (names_ne_nil path) h
  rwa [pathOf_false, intercalate_names] at hpath

theorem pathOf_append (hns : ns ≠ []) (hms : ms ≠ []) :
    pathOf isTop (ns ++ ms) = pathOf isTop ns ++ "/" ++ "/".intercalate ms := by
  cases isTop with
  | true =>
    rw [pathOf_true, pathOf_true, String.intercalate_append_of_ne_nil hns hms]
    simp only [String.append_assoc]
  | false => rw [pathOf_false, pathOf_false, String.intercalate_append_of_ne_nil hns hms]

theorem mem_pathOf {c : Char} (h : c ∈ (pathOf isTop ns).toList) :
    c = '/' ∨ ∃ n ∈ ns, c ∈ n.toList := by
  have hnames (h : c ∈ ("/".intercalate ns).toList) : c = '/' ∨ ∃ n ∈ ns, c ∈ n.toList := by
    have hslash : "/".toList = ['/'] := rfl
    rw [String.toList_intercalate, hslash] at h
    simpa using mem_of_mem_intercalate h
  cases isTop with
  | true =>
    rw [pathOf_true, String.toList_append, List.mem_append] at h
    rcases h with h | h
    · exact .inl (by simpa using h)
    · exact hnames h
  | false => exact hnames h

theorem getLast?_names_of_ends {path : String} (h : ends "/" path = true) :
    (names path).getLast? = some "" := by
  obtain ⟨cs, hcs⟩ := ends_iff.mp h
  have hslash : isSlash '/' = true := by decide
  have hsplit : split isSlash path.toList = split isSlash cs ++ [[]] := by
    rw [← hcs]
    exact split_append hslash cs []
  simp [names, hsplit]

/-- The last name of a path is not empty, so nothing is left out when another one follows. -/
theorem getLast?_names_pathOf (hne : ns ≠ []) (h : ∀ n ∈ ns, IsName n) :
    (names (pathOf isTop ns)).getLast? ≠ some "" := by
  have hlast : (names (pathOf isTop ns)).getLast? = ns.getLast? := by
    rw [names_pathOf hne h]
    cases isTop with
    | true => exact List.getLast?_cons_of_ne_nil hne
    | false => rfl
  rw [hlast]
  intro hempty
  exact (h "" (List.mem_of_getLast? hempty)).1 rfl

theorem pathOf_ne_empty (hne : ns ≠ []) (h : ∀ n ∈ ns, IsName n) : pathOf isTop ns ≠ "" := by
  intro hempty
  have hlast : (names (pathOf isTop ns)).getLast? ≠ some "" := getLast?_names_pathOf hne h
  rw [hempty] at hlast
  exact hlast rfl

theorem join_pathOf (hns : ns ≠ []) (hms : ms ≠ []) (h : ∀ n ∈ ns ++ ms, IsName n) :
    join (pathOf isTop ns) ("/".intercalate ms) = pathOf isTop (ns ++ ms) := by
  obtain ⟨hn, hm⟩ := List.forall_mem_append.mp h
  have habsolute : isAbsolute (pathOf false ms) = false := isAbsolute_pathOf hms hm
  have hends : ¬ ends "/" (pathOf isTop ns) = true :=
    fun hends => getLast?_names_pathOf hns hn (getLast?_names_of_ends hends)
  rw [← pathOf_false, join, habsolute, if_neg (by simp), if_neg (by simp [pathOf_ne_empty hns hn, hends]),
    pathOf_append hns hms, pathOf_false]

theorem steps_pathOf (hne : ns ≠ []) (h : ∀ n ∈ ns, IsName n) :
    steps (pathOf isTop ns) = if isTop then "/" :: ns else ns := by
  have hsteps : ns.filter isStep = ns := List.filter_eq_self.mpr (fun n hn => (h n hn).isStep)
  rw [steps, isAbsolute_pathOf hne h, names_pathOf hne h]
  cases isTop with
  | true =>
    have hempty : isStep "" = false := by decide
    simp [hempty, hsteps]
  | false =>
    obtain ⟨n, ns, rfl⟩ := List.exists_cons_of_ne_nil hne
    have hdot : n ≠ "." := (h n List.mem_cons_self).2.1
    simp only [Bool.false_eq_true, if_false, if_neg hdot]
    exact hsteps

theorem below?_pathOf (hns : ns ≠ []) (h : ∀ n ∈ ns ++ ms, IsName n) :
    below? (pathOf isTop ns) (pathOf isTop (ns ++ ms)) = some ("/".intercalate ms) := by
  obtain ⟨hn, -⟩ := List.forall_mem_append.mp h
  rw [below?, steps_pathOf hns hn, steps_pathOf (by simp [hns]) h]
  cases isTop <;> simp

theorem size_pathOf_concat (hns : ns ≠ []) {n : String} (hn : n ≠ "") :
    (pathOf isTop ns).utf8ByteSize + 2 ≤ (pathOf isTop (ns ++ [n])).utf8ByteSize := by
  have hpos : 0 < n.utf8ByteSize :=
    Nat.pos_of_ne_zero (fun hzero => hn (String.utf8ByteSize_eq_zero_iff.mp hzero))
  have hslash : "/".utf8ByteSize = 1 := by decide
  rw [pathOf_append hns (List.cons_ne_nil n []), String.intercalate_singleton,
    String.utf8ByteSize_append, String.utf8ByteSize_append, hslash]
  omega

/-- Each name behind a path makes it longer by a slash and a character at least. -/
theorem size_pathOf_append (hns : ns ≠ []) (h : ∀ n ∈ ms, IsName n) :
    (pathOf isTop ns).utf8ByteSize + 2 * ms.length ≤ (pathOf isTop (ns ++ ms)).utf8ByteSize := by
  induction ms generalizing ns with
  | nil => simp
  | cons n ms ih =>
    obtain ⟨hn, hms⟩ := List.forall_mem_cons.mp h
    have hfirst : (pathOf isTop ns).utf8ByteSize + 2 ≤
        (pathOf isTop (ns ++ [n])).utf8ByteSize := size_pathOf_concat hns hn.1
    have hrest := ih (List.append_ne_nil_of_right_ne_nil ns (List.cons_ne_nil n [])) hms
    rw [List.append_assoc, List.singleton_append] at hrest
    rw [List.length_cons]
    omega

end

/-! ## Joining -/

theorem names_slash (front path : String) :
    names (front ++ "/" ++ path) = names front ++ names path := by
  have hslash : isSlash '/' = true := by decide
  have htext : (front ++ "/" ++ path).toList = front.toList ++ '/' :: path.toList := by simp
  rw [names, htext, split_append hslash, List.map_append]
  rfl

theorem names_slash_end (front : String) : names (front ++ "/") = names front ++ [""] := by
  have hnames := names_slash front ""
  rwa [String.append_empty] at hnames

/-- Slashes at the end of a path add empty names to it. -/
theorem exists_names_slashes (path : String) {slashes : List Char} (h : ∀ c ∈ slashes, c = '/') :
    ∃ rest, (∀ n ∈ rest, n = "") ∧
      names (path ++ String.ofList slashes) = names path ++ rest := by
  induction slashes generalizing path with
  | nil => exact ⟨[], by simp, by simp⟩
  | cons c slashes ih =>
    obtain ⟨rfl, hslashes⟩ := List.forall_mem_cons.mp h
    have htext : path ++ String.ofList ('/' :: slashes) = path ++ "/" ++ String.ofList slashes := by
      rw [← String.toList_inj]
      simp
    obtain ⟨rest, hrest, hnames⟩ := ih (path ++ "/") hslashes
    refine ⟨"" :: rest, List.forall_mem_cons.mpr ⟨rfl, hrest⟩, ?_⟩
    rw [htext, hnames, names_slash_end, List.append_assoc]
    rfl

/-- Paths are joined by one slash, which may stand at the end of the first one already. -/
theorem exists_join {base : String} (hbase : base ≠ "") :
    ∃ front rest, names base = names front ++ rest ∧ (∀ n ∈ rest, n = "") ∧
      ∀ path, isAbsolute path = false → join base path = front ++ "/" ++ path := by
  by_cases hends : ends "/" base = true
  · obtain ⟨cs, hcs⟩ := ends_iff.mp hends
    have heq : base = String.ofList cs ++ "/" := by
      rw [← String.toList_inj, ← hcs]
      simp
    have hnames : names base = names (String.ofList cs) ++ [""] := by rw [heq, names_slash_end]
    refine ⟨String.ofList cs, [""], hnames, by simp, fun path hpath => ?_⟩
    rw [join, if_neg (by simp [hpath]), if_pos (by simp [hends]), heq]
  · refine ⟨base, [], by simp, by simp, fun path hpath => ?_⟩
    rw [join, if_neg (by simp [hpath]), if_neg (by simp [hbase, hends])]

/-- A path that goes on begins as it did. -/
theorem exists_append_of_join (base : String) {path : String} (h : isAbsolute path = false) :
    ∃ rest, join base path = base ++ rest := by
  rw [join, if_neg (by simp [h])]
  split
  · exact ⟨path, rfl⟩
  · exact ⟨"/" ++ path, String.append_assoc⟩

theorem isAbsolute_append {front : String} (h : front ≠ "") (path : String) :
    isAbsolute (front ++ path) = isAbsolute front := by
  obtain ⟨c, cs, hcs⟩ := List.exists_cons_of_ne_nil
    (fun hnil => h (String.toList_inj.mp hnil) : front.toList ≠ [])
  have hslash : "/".toList = ['/'] := rfl
  rw [isAbsolute, isAbsolute, begins, begins, String.toList_append, hcs, hslash]
  rfl

theorem isAbsolute_join {base path : String} (hbase : base ≠ "") (hpath : isAbsolute path = false) :
    isAbsolute (join base path) = isAbsolute base := by
  rw [join, if_neg (by simp [hpath])]
  split
  · exact isAbsolute_append hbase path
  · rw [isAbsolute_append (by simp [hbase]), isAbsolute_append hbase]

theorem isAbsolute_of_no_slash {name : String} (h : '/' ∉ name.toList) :
    isAbsolute name = false := by
  refine Bool.eq_false_iff.mpr (fun habsolute => ?_)
  obtain ⟨cs, hcs⟩ := isAbsolute_iff.mp habsolute
  exact h (by simp [hcs])

theorem names_of_no_slash {name : String} (h : '/' ∉ name.toList) : names name = [name] := by
  rw [names, split_of_no_mark (isSlash_eq_false h)]
  simp

theorem IsName.isAbsolute {name : String} (h : IsName name) : Files.isAbsolute name = false :=
  isAbsolute_of_no_slash h.2.2.2

theorem names_of_isName {name : String} (h : IsName name) : names name = [name] :=
  names_of_no_slash h.2.2.2

/-- A path ends with the name that it goes on with. -/
theorem ends_join {path name : String} (hpath : path ≠ "") (hname : IsName name) :
    ends "/" (join path name) = false := by
  obtain ⟨front, -, -, -, hjoin⟩ := exists_join hpath
  have hlast : (names (join path name)).getLast? = some name := by
    rw [hjoin name hname.isAbsolute, names_slash, names_of_isName hname, List.getLast?_concat]
  refine Bool.eq_false_iff.mpr (fun hends => hname.1 ?_)
  rw [getLast?_names_of_ends hends] at hlast
  exact (Option.some.inj hlast).symm

/-! ## Names below a folder -/

/-- The path that goes on from a folder by these names. -/
def under (path : String) (ns : List String) : String := ns.foldl join path

section

variable {path name : String} {ns : List String}

theorem join_ne_empty (hpath : path ≠ "") {rest : String} (hrest : isAbsolute rest = false) :
    join path rest ≠ "" := by
  obtain ⟨more, hmore⟩ := exists_append_of_join path hrest
  rw [hmore]
  simp [hpath]

theorem exists_append_of_under (hns : ∀ n ∈ ns, '/' ∉ n.toList) :
    ∃ rest, under path ns = path ++ rest := by
  induction ns generalizing path with
  | nil => exact ⟨"", by simp [under]⟩
  | cons n ns ih =>
    obtain ⟨hn, hns⟩ := List.forall_mem_cons.mp hns
    obtain ⟨more, hmore⟩ := exists_append_of_join path (isAbsolute_of_no_slash hn)
    obtain ⟨rest, hrest⟩ := @ih (join path n) hns
    refine ⟨more ++ rest, ?_⟩
    show under (join path n) ns = _
    rw [hrest, hmore, String.append_assoc]

theorem under_ne_empty (hpath : path ≠ "") (hns : ∀ n ∈ ns, '/' ∉ n.toList) : under path ns ≠ "" := by
  obtain ⟨rest, hrest⟩ := @exists_append_of_under path ns hns
  rw [hrest]
  simp [hpath]

/-- A name and what follows it may be joined to a path together. -/
theorem join_join (hpath : path ≠ "") (hname : IsName name) {rest : String}
    (hrest : isAbsolute rest = false) :
    join (join path name) rest = join path (name ++ "/" ++ rest) := by
  obtain ⟨front, -, -, -, hjoin⟩ := exists_join hpath
  have habsolute : isAbsolute (name ++ "/" ++ rest) = false := by
    rw [String.append_assoc, isAbsolute_append hname.1, hname.isAbsolute]
  have hends : ends "/" (join path name) = false := ends_join hpath hname
  have hne : join path name ≠ "" := join_ne_empty hpath hname.isAbsolute
  rw [hjoin _ habsolute, join, if_neg (by simp [hrest]), if_neg (by simp [hends, hne]),
    hjoin name hname.isAbsolute]
  simp only [String.append_assoc]

theorem under_eq_join (hpath : path ≠ "") (hne : ns ≠ []) (h : ∀ n ∈ ns, IsName n) :
    under path ns = join path ("/".intercalate ns) := by
  induction ns generalizing path with
  | nil => exact absurd rfl hne
  | cons n ns ih =>
    obtain ⟨hn, hns⟩ := List.forall_mem_cons.mp h
    by_cases hnil : ns = []
    · rw [hnil, String.intercalate_singleton]
      rfl
    · have hrest : isAbsolute (pathOf false ns) = false := isAbsolute_pathOf hnil hns
      have hbelow : under (join path n) ns = join (join path n) ("/".intercalate ns) :=
        ih (join_ne_empty hpath hn.isAbsolute) hnil hns
      rw [String.intercalate_cons_of_ne_nil hnil, ← pathOf_false, ← join_join hpath hn hrest,
        pathOf_false, ← hbelow]
      rfl

/-! ## Steps below a folder -/

theorem filter_isStep_of_empty {slashes : List String} (h : ∀ n ∈ slashes, n = "") :
    slashes.filter isStep = [] := by
  rw [List.filter_eq_nil_iff]
  rintro n hn
  rw [h n hn]
  decide

/-- Only an absolute path begins with an empty name. -/
theorem isAbsolute_iff_of_names (hpath : path ≠ "") (hnames : names path = name :: ns) :
    isAbsolute path = true ↔ name = "" := by
  constructor
  · intro habsolute
    obtain ⟨cs, hcs⟩ := isAbsolute_iff.mp habsolute
    rw [names, hcs, split_cons_of_mark (by decide), List.map_cons] at hnames
    exact (List.cons.inj hnames).1.symm
  · rintro rfl
    have hne : ns ≠ [] := by
      rintro rfl
      have hempty := intercalate_names path
      rw [hnames, String.intercalate_singleton] at hempty
      exact hpath hempty.symm
    have hwhole : path = "/" ++ "/".intercalate ns := by
      rw [← intercalate_names path, hnames, String.intercalate_cons_of_ne_nil hne, String.empty_append]
    rw [hwhole]
    exact isAbsolute_iff.mpr ⟨("/".intercalate ns).toList, by simp⟩

theorem steps_eq (hpath : path ≠ "") (hnames : names path = name :: ns) :
    steps path = (if name = "" then "/" else name) :: ns.filter isStep := by
  have habsolute := isAbsolute_iff_of_names hpath hnames
  rw [steps, hnames]
  by_cases hempty : name = ""
  · rw [if_pos (habsolute.mpr hempty), if_pos hempty, hempty]
    rfl
  · rw [if_neg (mt habsolute.mp hempty), if_neg hempty]
    by_cases hdot : name = "."
    · simp [hdot]
    · have hstep : isStep name = true := by simp [isStep, hempty, hdot]
      simp [hdot, hstep]

theorem head?_steps (hpath : path ≠ "") :
    (steps path).head? = some "." ↔ (names path).head? = some "." := by
  obtain ⟨n, ns, hnames⟩ := List.exists_cons_of_ne_nil (names_ne_nil path)
  rw [steps_eq hpath hnames, hnames]
  by_cases hempty : n = ""
  · simp [hempty]
  · simp [hempty]

theorem steps_join (hpath : path ≠ "") {rest : String} (hrest : isAbsolute rest = false) :
    steps (join path rest) = steps path ++ (names rest).filter isStep := by
  obtain ⟨front, slashes, hnames, hslashes, hjoin⟩ := exists_join hpath
  obtain ⟨n, ns, hfront⟩ := List.exists_cons_of_ne_nil (names_ne_nil front)
  rw [hfront, List.cons_append] at hnames
  have hwhole : names (join path rest) = n :: (ns ++ names rest) := by
    rw [hjoin rest hrest, names_slash, hfront]
    rfl
  rw [steps_eq (join_ne_empty hpath hrest) hwhole, steps_eq hpath hnames, List.filter_append,
    List.filter_append, filter_isStep_of_empty hslashes, List.append_nil]
  rfl

theorem steps_under (hpath : path ≠ "") (hns : ∀ n ∈ ns, '/' ∉ n.toList) :
    steps (under path ns) = steps path ++ ns.filter isStep := by
  induction ns generalizing path with
  | nil => simp [under]
  | cons n ns ih =>
    obtain ⟨hn, hns⟩ := List.forall_mem_cons.mp hns
    have hrelative : isAbsolute n = false := isAbsolute_of_no_slash hn
    have hfirst : steps (join path n) = steps path ++ [n].filter isStep := by
      rw [steps_join hpath hrelative, names_of_no_slash hn]
    have hbelow := ih (join_ne_empty hpath hrelative) hns
    show steps (under (join path n) ns) = _
    rw [hbelow, hfirst, List.append_assoc, ← List.filter_append]
    rfl

/-- A path that goes on begins with the same step. -/
theorem head?_steps_join (hpath : path ≠ "") {rest : String} (hrest : isAbsolute rest = false) :
    (steps (join path rest)).head? = (steps path).head? := by
  obtain ⟨n, ns, hnames⟩ := List.exists_cons_of_ne_nil (names_ne_nil path)
  rw [steps_join hpath hrest, steps_eq hpath hnames]
  rfl

/-- What has the steps of a folder in front has the rest of its names below it. -/
theorem below?_under {root : String} (hpath : path ≠ "") (hsteps : steps path = steps root)
    (hns : ∀ n ∈ ns, IsName n) : below? root (under path ns) = some ("/".intercalate ns) := by
  have hall : ns.filter isStep = ns := List.filter_eq_self.mpr (fun n hn => (hns n hn).isStep)
  rw [below?, steps_under hpath (fun n hn => (hns n hn).2.2.2), hall, hsteps]
  simp

/-- What lies below a folder begins with the same step. -/
theorem head?_steps_of_below? {root rest : String} (hroot : root ≠ "")
    (h : below? root path = some rest) : (steps path).head? = (steps root).head? := by
  obtain ⟨n, ns, hnames⟩ := List.exists_cons_of_ne_nil (names_ne_nil root)
  rw [below?, Option.ite_none_right_eq_some, List.isPrefixOf_iff_prefix] at h
  obtain ⟨more, hmore⟩ := h.1
  rw [← hmore, steps_eq hroot hnames]
  rfl

/-! ## Lengths -/

/-- Between a path and what it goes on with there is one slash at most. -/
theorem join_sublist (path : String) {rest : String} (hrest : isAbsolute rest = false) :
    (join path rest).toList.Sublist (path.toList ++ '/' :: rest.toList) := by
  rw [join, if_neg (by simp [hrest])]
  split
  · rw [String.toList_append]
    exact (List.sublist_cons_self '/' rest.toList).append_left path.toList
  · simp

theorem size_le_join (base path : String) :
    path.utf8ByteSize ≤ (join base path).utf8ByteSize := by
  rw [join]
  split
  · exact Nat.le_refl _
  · split
    · rw [String.utf8ByteSize_append]
      omega
    · rw [String.utf8ByteSize_append]
      omega

/-- Names that follow one by one add a slash each, or none where one stands already. -/
theorem under_sublist (path : String) (hns : ∀ n ∈ ns, '/' ∉ n.toList) :
    (under path ns).toList.Sublist (path.toList ++ ns.flatMap (fun n => '/' :: n.toList)) := by
  induction ns generalizing path with
  | nil => simp [under]
  | cons n ns ih =>
    obtain ⟨hn, hns⟩ := List.forall_mem_cons.mp hns
    have hfirst : (join path n).toList.Sublist (path.toList ++ '/' :: n.toList) :=
      join_sublist path (isAbsolute_of_no_slash hn)
    have hbelow := (ih (join path n) hns).trans (hfirst.append_right _)
    rw [List.append_assoc] at hbelow
    rw [List.flatMap_cons]
    exact hbelow

theorem toList_of_names (h : names path = name :: ns) :
    path.toList = name.toList ++ ns.flatMap (fun n => '/' :: n.toList) := by
  have hpieces : (names path).map String.toList = name.toList :: ns.map String.toList := by
    rw [h, List.map_cons]
  have hslash : "/".toList = ['/'] := rfl
  rw [← intercalate_names path, String.toList_intercalate, hpieces, hslash]
  by_cases hnil : ns = []
  · simp [hnil]
  · have hrest : ns.map String.toList ≠ [] := by simpa using hnil
    rw [List.intercalate_cons_of_ne_nil hrest, List.append_assoc, List.singleton_append,
      ← flatMap_cons_eq hrest, List.flatMap_map]

/-- A path with further names at its end begins as it is. -/
theorem sublist_of_names {front : String} {more : List String}
    (h : names path = names front ++ more) : front.toList.Sublist path.toList := by
  obtain ⟨n, ns, hfront⟩ := List.exists_cons_of_ne_nil (names_ne_nil front)
  rw [hfront, List.cons_append] at h
  rw [toList_of_names h, toList_of_names hfront, List.flatMap_append, ← List.append_assoc]
  exact List.sublist_append_left _ _

end

end LuaStubs.Files
