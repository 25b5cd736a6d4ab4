import LuaStubs.Proofs.Files.Descent

/-! The trail of a path: where it begins and the names that it passes, without empty names and dots.
Paths with one trail lead to one place. -/
namespace LuaStubs.Files

/-- The steps of a path but for a dot at its beginning. -/
def trail (path : String) : List String := (steps path).filter isStep

section

variable {path rest : String}

theorem trail_eq (path : String) :
    trail path = (if isAbsolute path then ["/"] else []) ++ (names path).filter isStep := by
  have hslash : isStep "/" = true := by decide
  have hdot : isStep "." = false := by decide
  rw [trail, steps]
  by_cases habsolute : isAbsolute path = true
  · simp [habsolute, hslash]
  · rw [if_neg habsolute, if_neg habsolute, List.nil_append]
    cases names path with
    | nil => rfl
    | cons name ns =>
      by_cases hname : name = "."
      · simp [hname, hdot]
      · simp [hname]

theorem trail_of_relative (h : isAbsolute path = false) :
    trail path = (names path).filter isStep := by
  rw [trail_eq, h]
  rfl

theorem trail_of_no_slash (h : '/' ∉ path.toList) : trail path = [path].filter isStep := by
  rw [trail_of_relative (isAbsolute_of_no_slash h), names_of_no_slash h]

/-- A path is followed from where it begins through the names that are steps. -/
theorem trail_inj {q : String} :
    trail path = trail q ↔
      isAbsolute path = isAbsolute q ∧ (names path).filter isStep = (names q).filter isStep := by
  have hnone (p : String) : "/" ∉ (names p).filter isStep :=
    fun h => no_slash_of_mem_names (List.mem_filter.mp h).1 (by decide)
  rw [trail_eq, trail_eq]
  constructor
  · intro h
    cases hp : isAbsolute path <;> cases hq : isAbsolute q <;> rw [hp, hq] at h
    · exact ⟨rfl, h⟩
    · have hmem : "/" ∈ (names path).filter isStep := by
        rw [show (names path).filter isStep = "/" :: (names q).filter isStep from h]
        exact List.mem_cons_self
      exact absurd hmem (hnone path)
    · have hmem : "/" ∈ (names q).filter isStep := by
        rw [show (names q).filter isStep = "/" :: (names path).filter isStep from h.symm]
        exact List.mem_cons_self
      exact absurd hmem (hnone q)
    · exact ⟨rfl, (List.cons.inj h).2⟩
  · rintro ⟨hbegin, hnames⟩
    rw [hbegin, hnames]

theorem trail_join (path : String) (h : isAbsolute rest = false) :
    trail (join path rest) = trail path ++ (names rest).filter isStep := by
  by_cases hempty : path = ""
  · have hjoin : join "" rest = rest := by
      rw [join, if_neg (by simp [h])]
      simp
    rw [hempty, hjoin, trail_of_relative h]
    rfl
  · rw [trail, steps_join hempty h, List.filter_append, List.filter_filter]
    simp [trail]

theorem trail_join_name (path : String) {name : String} (h : '/' ∉ name.toList) :
    trail (join path name) = trail path ++ [name].filter isStep := by
  rw [trail_join path (isAbsolute_of_no_slash h), names_of_no_slash h]

/-- What lies below a folder passes the trail of the folder first. -/
theorem exists_trail_of_below? {root : String} (hroot : root ≠ "") (h : below? root path = some rest) :
    ∃ ns, rest = "/".intercalate ns ∧ trail path = trail root ++ ns ∧
      ∀ n ∈ ns, isStep n = true ∧ '/' ∉ n.toList := by
  rw [below?, Option.ite_none_right_eq_some, List.isPrefixOf_iff_prefix] at h
  obtain ⟨⟨ns, hns⟩, hrest⟩ := h
  obtain ⟨first, more, hfirst⟩ := List.exists_cons_of_ne_nil (names_ne_nil root)
  obtain ⟨name, others, hname⟩ := List.exists_cons_of_ne_nil (names_ne_nil path)
  have hpath : path ≠ "" := by
    rintro rfl
    rw [steps_eq hroot hfirst] at hns
    cases hns
  have hmem : ∀ n ∈ ns, n ∈ others.filter isStep := by
    intro n hn
    rw [steps_eq hroot hfirst, steps_eq hpath hname, List.cons_append] at hns
    rw [← (List.cons.inj hns).2]
    exact List.mem_append_right _ hn
  have hsteps : ∀ n ∈ ns, isStep n = true ∧ '/' ∉ n.toList := by
    intro n hn
    obtain ⟨hother, hstep⟩ := List.mem_filter.mp (hmem n hn)
    exact ⟨hstep, no_slash_of_mem_names (hname ▸ List.mem_cons_of_mem _ hother)⟩
  refine ⟨ns, ?_, ?_, hsteps⟩
  · rw [← Option.some.inj hrest, ← hns, List.drop_left]
  · rw [trail, trail, ← hns, List.filter_append,
      List.filter_eq_self.mpr (fun n hn => (hsteps n hn).1)]

end

end LuaStubs.Files

namespace LuaStubs.FileSystem

open LuaStubs.Files

variable {fs : FileSystem} {links : Nat} {place ns found : List String}

/-- Names that are no steps may be left out of a walk. -/
theorem walk_filter (h : fs.walk links place ns = .ok found) :
    fs.walk links place (ns.filter isStep) = .ok found := by
  induction ns generalizing links place with
  | nil => exact h
  | cons n ns ih =>
    by_cases hn : isStep n = true
    · obtain ⟨links', place', hfirst⟩ := @walk_append fs links place [n] ns found h
      rw [List.filter_cons_of_pos hn, ← List.singleton_append, hfirst]
      refine ih ?_
      rw [← hfirst]
      exact h
    · have hfolder := folder_of_walk (List.cons_ne_nil n ns) h
      rw [walk, if_neg (not_not.mpr hfolder), if_pos (by simpa using hn)] at h
      rw [List.filter_cons_of_neg hn]
      exact ih h

/-- They may be put in where a step follows: what stands before it is a folder. -/
theorem walk_of_filter (hlast : ∀ n, ns.getLast? = some n → isStep n = true)
    (h : fs.walk links place (ns.filter isStep) = .ok found) :
    fs.walk links place ns = .ok found := by
  induction ns generalizing links place with
  | nil => exact h
  | cons n ns ih =>
    by_cases hnil : ns = []
    · have hn : isStep n = true := hlast n (by simp [hnil])
      rwa [hnil, List.filter_cons_of_pos hn, List.filter_nil, ← hnil] at h
    · rw [List.getLast?_cons_of_ne_nil hnil] at hlast
      by_cases hn : isStep n = true
      · rw [List.filter_cons_of_pos hn] at h
        obtain ⟨links', place', hfirst⟩ :=
          @walk_append fs links place [n] (ns.filter isStep) found h
        rw [← List.singleton_append, hfirst]
        refine ih hlast ?_
        rw [← hfirst]
        exact h
      · rw [List.filter_cons_of_neg hn] at h
        have hstep : ns.filter isStep ≠ [] := by
          obtain ⟨front, last, rfl⟩ := (List.eq_nil_or_concat ns).resolve_left hnil
          have hend : isStep last = true := hlast last (by simp)
          simp [hend]
        have hfolder := folder_of_walk hstep h
        rw [walk, if_neg (not_not.mpr hfolder), if_pos (by simpa using hn)]
        exact ih hlast h

section

variable {path q : String}

theorem start_of_trail (h : trail path = trail q) : fs.start path = fs.start q := by
  rw [start, start, (trail_inj.mp h).1]

theorem walk_of_find (h : fs.find path = .ok found) :
    fs.walk maxLinks (fs.start path) ((names path).filter isStep) = .ok found :=
  walk_filter (find_eq_ok.mp h).2

/-- Paths with one trail lead to one place. -/
theorem find_unique (htrail : trail path = trail q) (hpath : fs.find path = .ok found)
    (hq : fs.find q = .ok place) : found = place := by
  have hwalk := walk_of_find hpath
  rw [start_of_trail htrail, (trail_inj.mp htrail).2, walk_of_find hq] at hwalk
  exact (Except.ok.inj hwalk).symm

/-- A path that ends with a step leads where any other path with its trail does, if it is not too
long. -/
theorem find_of_trail (htrail : trail path = trail q) (hpath : fs.find path = .ok found)
    (hlast : ∀ n, (names q).getLast? = some n → isStep n = true) (hcheck : check q = .ok ()) :
    fs.find q = .ok found := by
  have hwalk := walk_of_find hpath
  rw [start_of_trail htrail, (trail_inj.mp htrail).2] at hwalk
  exact find_eq_ok.mpr ⟨hcheck, walk_of_filter hlast hwalk⟩

end

end LuaStubs.FileSystem
