import LuaStubs.Proofs.Files.Arrival
import LuaStubs.Proofs.Files.Trail

/-! What a pattern describes.  A search finds nothing else, and what the pattern of a folder finds is
named like a JSON file. -/
namespace LuaStubs.FileSystem

open LuaStubs.Files

/-- A name has the form of the tokens, and there can be a name like it in a folder or it stands there
in so many letters. -/
def Admits (p : List Glob.Token) (n : String) : Prop :=
  Glob.literal? p = some n ∨ n ∈ dotted p ∨ IsName n ∧ Glob.fits p n.toList = true

/-- The names that lead from where a pattern begins to what it describes. -/
inductive Describes : Pattern → List String → Prop where
  | nil : Describes [] []
  | one {p : List Glob.Token} {ps : Pattern} {n : String} {ns : List String} (hn : Admits p n)
      (hrest : Describes ps ns) : Describes (p :: ps) (n :: ns)
  | skip {p : List Glob.Token} {ps : Pattern} {ns : List String} (hp : Glob.isFolders p = true)
      (hrest : Describes ps ns) : Describes (p :: ps) ns
  | deeper {p : List Glob.Token} {ps : Pattern} {n : String} {ns : List String}
      (hp : Glob.isFolders p = true) (hn : IsName n) (hrest : Describes (p :: ps) ns) :
      Describes (p :: ps) (n :: ns)

namespace Describes

variable {p : List Glob.Token} {ps : Pattern} {ns : List String}

theorem of_dropWhile (h : Describes (ps.dropWhile Glob.isFolders) ns) : Describes ps ns := by
  induction ps with
  | nil => exact h
  | cons q ps ih =>
    by_cases hq : Glob.isFolders q = true
    · rw [List.dropWhile_cons_of_pos hq] at h
      exact .skip hq (ih h)
    · rwa [List.dropWhile_cons_of_neg hq] at h

/-- One pattern for folders describes what several in a row do. -/
theorem cons_of_dropWhile (h : Describes (p :: ps.dropWhile Glob.isFolders) ns) :
    Describes (p :: ps) ns := by
  generalize hqs : p :: ps.dropWhile Glob.isFolders = qs at h
  induction h with
  | nil => cases hqs
  | one hn hrest =>
    cases hqs
    exact .one hn hrest.of_dropWhile
  | skip hp hrest =>
    cases hqs
    exact .skip hp hrest.of_dropWhile
  | deeper hp hn _ ih =>
    cases hqs
    exact .deeper hp hn (ih rfl)

end Describes

/-! ## Searching -/

/-- No plain name of a pattern has a slash in it. -/
def WithoutSlashes (pattern : Pattern) : Prop :=
  ∀ p ∈ pattern, ∀ name, Glob.literal? p = some name → '/' ∉ name.toList

/-- The trail of `found` goes on from that of `path` as the pattern describes. -/
def Leads (pattern : Pattern) (path found : String) : Prop :=
  ∃ ns, Describes pattern ns ∧ trail found = trail path ++ ns.filter isStep

section

variable {fs : FileSystem} {pattern ps : Pattern} {p : List Glob.Token} {path next found name : String}

theorem Leads.refl (path : String) : Leads [] path path := ⟨[], .nil, by simp⟩

theorem Leads.one (hname : Admits p name) (hnext : trail next = trail path ++ [name].filter isStep)
    (h : Leads ps next found) : Leads (p :: ps) path found := by
  obtain ⟨ns, hns, htrail⟩ := h
  refine ⟨name :: ns, .one hname hns, ?_⟩
  rw [htrail, hnext, List.append_assoc, ← List.filter_append, List.singleton_append]

theorem Leads.deeper (hp : Glob.isFolders p = true) (hname : IsName name)
    (hnext : trail next = trail path ++ [name].filter isStep) (h : Leads (p :: ps) next found) :
    Leads (p :: ps) path found := by
  obtain ⟨ns, hns, htrail⟩ := h
  refine ⟨name :: ns, .deeper hp hname hns, ?_⟩
  rw [htrail, hnext, List.append_assoc, ← List.filter_append, List.singleton_append]

theorem trail_enter (h : '/' ∉ name.toList) :
    trail (enter path name) = trail path ++ [name].filter isStep := by
  rw [enter]
  split
  · next hhere =>
    have hempty : trail path = [] := by
      rw [trail, of_decide_eq_true hhere]
      decide
    rw [hempty, trail_of_no_slash h, List.nil_append]
  · exact trail_join_name path h

theorem mem_dotted (h : name ∈ dotted p) :
    (name = ".." ∨ name = ".") ∧ Glob.fits p name.toList = true := by
  rw [dotted] at h
  split at h
  · simpa using List.mem_filter.mp h
  · cases h

/-- Passing plain names. -/
theorem leads_of_advance {s s' : Stop} (hpattern : WithoutSlashes pattern)
    (h : fs.advance s pattern = some (s', ps)) :
    WithoutSlashes ps ∧ (Leads ps s'.path found → Leads pattern s.path found) := by
  induction pattern generalizing s with
  | nil =>
    cases h
    exact ⟨hpattern, id⟩
  | cons q qs ih =>
    obtain ⟨hq, hqs⟩ := List.forall_mem_cons.mp hpattern
    rw [advance] at h
    split at h
    · cases h
      exact ⟨hpattern, id⟩
    · next name hname =>
      rw [Option.ite_none_right_eq_some] at h
      obtain ⟨hps, hleads⟩ := ih hqs h.2
      refine ⟨hps, fun hrest => ?_⟩
      exact (hleads hrest).one (.inl hname) (trail_enter (hq name hname))

theorem isName_of_mem_children (hfs : fs.WellFormed) {inner : List (String × Node)}
    (h : fs.children path = .ok inner) {child : String × Node} (hchild : child ∈ inner) :
    IsName child.1 := by
  obtain ⟨place, hplace, -⟩ := map_eq_ok.mp h
  obtain rfl := Except.ok.inj ((children_of_find hplace).symm.trans h)
  exact isName_of_node hfs ((mem_inner hfs).mp hchild)

section

variable {expand : Pattern → Stop → List Finding} {s : Stop}
variable (hexpand : ∀ ps s, WithoutSlashes ps → .found found ∈ expand ps s → Leads ps s.path found)
variable (hname : IsName name) (hs : trail s.path = trail path ++ [name].filter isStep)
include hexpand hname hs

theorem leads_of_matching (hps : WithoutSlashes ps)
    (h : .found found ∈ matching expand s name p ps) : Leads (p :: ps) path found := by
  rw [matching] at h
  split at h
  · next hfits =>
    have hadmits : Admits p name := .inr (.inr ⟨hname, hfits⟩)
    split at h
    · next hempty =>
      obtain rfl := List.isEmpty_iff.mp hempty
      cases List.mem_singleton.mp h
      exact (Leads.refl s.path).one hadmits hs
    · exact (hexpand ps s hps h).one hadmits hs
  · cases h

theorem leads_of_visit (hpattern : WithoutSlashes (p :: ps))
    (h : .found found ∈ visit expand s name p ps) : Leads (p :: ps) path found := by
  obtain ⟨hp, hps⟩ := List.forall_mem_cons.mp hpattern
  rw [visit] at h
  split at h
  · next hfolders =>
    -- Patterns for folders in a row are searched for as one.
    have hdrop : WithoutSlashes (ps.dropWhile Glob.isFolders) :=
      fun q hq => hps q ((List.dropWhile_suffix _).subset hq)
    have hone {qs : Pattern} (hqs : ps.dropWhile Glob.isFolders = qs)
        (hleads : Leads (p :: qs) path found) : Leads (p :: ps) path found := by
      obtain ⟨ns, hns, htrail⟩ := hleads
      rw [← hqs] at hns
      exact ⟨ns, hns.cons_of_dropWhile, htrail⟩
    split at h
    · next hnone =>
      rw [hnone] at hdrop
      refine hone hnone ?_
      split at h
      · rcases List.mem_cons.mp h with heq | h
        · cases heq
          have hhere : Leads [p] s.path s.path := ⟨[], .skip hfolders .nil, by simp⟩
          exact hhere.deeper hfolders hname hs
        · have hbelow := hexpand [p] s (List.forall_mem_cons.mpr ⟨hp, hdrop⟩) h
          exact hbelow.deeper hfolders hname hs
      · cases h
    · next q qs hqs =>
      rw [hqs] at hdrop
      refine hone hqs ?_
      rcases List.mem_append.mp h with h | h
      · obtain ⟨ns, hns, htrail⟩ :=
          leads_of_matching hexpand hname hs (List.forall_mem_cons.mp hdrop).2 h
        exact ⟨ns, .skip hfolders hns, htrail⟩
      · split at h
        · have hbelow := hexpand (p :: q :: qs) s (List.forall_mem_cons.mpr ⟨hp, hdrop⟩) h
          exact hbelow.deeper hfolders hname hs
        · cases h
  · exact leads_of_matching hexpand hname hs hps h

end

/-- A search finds what its pattern describes. -/
theorem leads_of_mem_expand (hfs : fs.WellFormed) {depth : Nat} {s : Stop}
    (hpattern : WithoutSlashes pattern) (h : .found found ∈ fs.expand depth pattern s) :
    Leads pattern s.path found := by
  induction depth generalizing pattern s with
  | zero => cases h
  | succ depth ih =>
    rw [expand] at h
    split at h
    · cases h
    · next s' hadvance =>
      obtain ⟨-, hleads⟩ := leads_of_advance hpattern hadvance
      cases List.mem_singleton.mp h
      exact hleads (Leads.refl s'.path)
    · next s' p ps hadvance =>
      obtain ⟨hrest, hleads⟩ := leads_of_advance hpattern hadvance
      obtain ⟨-, hps⟩ := List.forall_mem_cons.mp hrest
      refine hleads ?_
      split at h
      · split at h
        · cases List.mem_singleton.mp h
        · next inner hinner =>
          rcases List.mem_append.mp h with h | h
          · obtain ⟨name, hname, hfound⟩ := List.mem_flatMap.mp h
            have hslash : '/' ∉ name.toList := by
              rcases (mem_dotted hname).1 with rfl | rfl <;> decide
            have hnext := trail_join_name s'.path hslash
            split at hfound
            · next hempty =>
              obtain rfl := List.isEmpty_iff.mp hempty
              cases List.mem_singleton.mp hfound
              exact (Leads.refl _).one (.inr (.inl hname)) hnext
            · exact (ih hps hfound).one (.inr (.inl hname)) hnext
          · obtain ⟨child, hchild, hfound⟩ := List.mem_flatMap.mp h
            have hname := isName_of_mem_children hfs hinner hchild
            have hnext : trail (fs.entryStop (enter s'.path child.1) child.2).path =
                trail s'.path ++ [child.1].filter isStep := by
              rw [entryStop_eq]
              exact trail_enter hname.2.2.2
            exact leads_of_visit (fun ps s hps => ih hps) hname hnext hrest hfound
      · cases h

end

/-! ## JSON files -/

section

variable {pre : Pattern} {p : List Glob.Token} {ms ns : List String} {n name : String}

/-- Plain text admits no other name. -/
theorem Admits.eq_of_literal? (h : Admits p n) (hname : Glob.literal? p = some name) : n = name := by
  have hfits (hn : Glob.fits p n.toList = true) : n = name := by
    rw [Glob.eq_plain_of_literal? hname] at hn
    exact String.toList_inj.mp (Glob.fits_plain.mp hn)
  rcases h with h | h | ⟨-, h⟩
  · exact Option.some.inj (h.symm.trans hname)
  · exact hfits (mem_dotted h).2
  · exact hfits h

/-- An empty name and a dot are plain text too. -/
theorem Admits.eq_of_not_isStep (h : Admits p n) (hname : Glob.tokens name.toList = .ok p)
    (hstep : ¬ isStep name = true) : n = name := by
  have hcases : name = "" ∨ name = "." := by simpa [isStep, imp_iff_not_or] using hstep
  have hplain : ∀ c ∈ name.toList, Glob.IsPlain c := by
    rcases hcases with rfl | rfl
    · simp
    · simp [Glob.IsPlain]
  have heq : p = Glob.plain name.toList :=
    Except.ok.inj (hname.symm.trans (Glob.tokens_of_plain hplain))
  exact h.eq_of_literal? (heq ▸ Glob.literal?_plain name)

theorem isName_of_admits (hliteral : Glob.literal? p = none) (hdotted : dotted p = [])
    (h : Admits p n) : IsName n ∧ Glob.fits p n.toList = true := by
  rcases h with h | h | h
  · rw [hliteral] at h
    cases h
  · rw [hdotted] at h
    cases h
  · exact h

theorem json_of_admits (h : Admits Glob.json n) : IsName n ∧ Text.ends ".json" n = true := by
  obtain ⟨hname, hfits⟩ := isName_of_admits rfl rfl h
  exact ⟨hname, Text.ends_iff.mpr (Glob.fits_json.mp hfits)⟩

/-- A pattern that ends as that for JSON files describes nothing else. -/
theorem Describes.json (h : Describes (pre ++ [Glob.json]) ns) :
    ∃ front last, ns = front ++ [last] ∧ IsName last ∧ Text.ends ".json" last = true := by
  have hjson : Glob.isFolders Glob.json = false := by decide
  generalize hqs : pre ++ [Glob.json] = qs at h
  induction h generalizing pre with
  | nil => simp at hqs
  | @one p ps n ns hn hrest ih =>
    cases pre with
    | nil =>
      cases hqs
      cases hrest
      exact ⟨[], n, rfl, json_of_admits hn⟩
    | cons q pre =>
      obtain ⟨front, last, rfl, hlast⟩ := ih (List.cons.inj hqs).2
      exact ⟨n :: front, last, rfl, hlast⟩
  | skip hp hrest ih =>
    cases pre with
    | nil =>
      cases hqs
      rw [hjson] at hp
      cases hp
    | cons q pre => exact ih (List.cons.inj hqs).2
  | @deeper p ps n ns hp hn hrest ih =>
    obtain ⟨front, last, rfl, hlast⟩ := ih hqs
    exact ⟨n :: front, last, rfl, hlast⟩

/-- Below a folder the JSON files are reached by names alone. -/
theorem Describes.isName (h : Describes [[.folders], Glob.json] ns) : ∀ n ∈ ns, IsName n := by
  have hone {ns : List String} (h : Describes [Glob.json] ns) : ∀ n ∈ ns, IsName n := by
    cases h with
    | one hn hrest =>
      cases hrest
      simpa using (json_of_admits hn).1
    | skip hp => cases hp
    | deeper hp => cases hp
  generalize hqs : [[.folders], Glob.json] = qs at h
  induction h with
  | nil => cases hqs
  | one hn hrest =>
    cases hqs
    exact List.forall_mem_cons.mpr ⟨(isName_of_admits rfl rfl hn).1, hone hrest⟩
  | skip hp hrest =>
    cases hqs
    exact hone hrest
  | deeper hp hn hrest ih => exact List.forall_mem_cons.mpr ⟨hn, ih hqs⟩

/-- Where no name of a folder stands for folders, its names take no more steps than there are, and
what follows are names. -/
theorem Describes.isName_below (hnames : List.Forall₂ (fun n p => Glob.tokens n.toList = .ok p) ms pre)
    (hslash : ∀ n ∈ ms, '/' ∉ n.toList) (hstars : "**" ∉ ms)
    (h : Describes (pre ++ [[.folders], Glob.json]) ns) :
    ∃ front below, ns = front ++ below ∧
      (front.filter isStep).length ≤ (ms.filter isStep).length ∧ ∀ n ∈ below, IsName n := by
  induction hnames generalizing ns with
  | nil => exact ⟨[], ns, rfl, by simp, h.isName⟩
  | @cons m p ms pre hp _ ih =>
    obtain ⟨hm, hms⟩ := List.forall_mem_cons.mp hslash
    obtain ⟨hstar, hstars⟩ := List.ne_and_not_mem_of_not_mem_cons hstars
    have hfolders : Glob.isFolders p ≠ true := fun hfolders =>
      hstar (String.toList_inj.mp (Glob.eq_stars_of_isFolders hm hp hfolders)).symm
    cases h with
    | @one _ _ n ns hn hrest =>
      obtain ⟨front, below, rfl, hlength, hbelow⟩ := ih hms hstars hrest
      refine ⟨n :: front, below, rfl, ?_, hbelow⟩
      by_cases hstep : isStep m = true
      · rw [List.filter_cons_of_pos hstep, List.length_cons]
        have hcons : ((n :: front).filter isStep).length ≤ (front.filter isStep).length + 1 := by
          rw [List.filter_cons]
          split <;> simp
        omega
      · rw [hn.eq_of_not_isStep hp hstep, List.filter_cons_of_neg hstep,
          List.filter_cons_of_neg hstep]
        exact hlength
    | skip hp => exact absurd hp hfolders
    | deeper hp => exact absurd hp hfolders

end

/-! ## The pattern of a folder -/

section

variable {fs : FileSystem} {findings : List Finding} {path : String}

theorem withoutSlashes_of_tokens {ms : List String} {pre : Pattern}
    (h : List.Forall₂ (fun n p => Glob.tokens n.toList = .ok p) ms pre)
    (hslash : ∀ n ∈ ms, '/' ∉ n.toList) : WithoutSlashes pre := by
  intro p hp name hname
  obtain ⟨n, hn, htokens⟩ := exists_of_forall₂ h.flip p hp
  exact Glob.no_slash_of_literal? (hslash n hn) htokens hname

theorem leads_of_search (hfs : fs.WellFormed) {pattern start : String} {ms : List String}
    (hdivide : divide pattern = (start, (ms ++ ["**", "*.json"]).map String.toList))
    (hslash : ∀ n ∈ ms, '/' ∉ n.toList) (hsearch : fs.search pattern = .ok findings)
    (hfound : .found path ∈ findings) :
    ∃ pre, List.Forall₂ (fun n p => Glob.tokens n.toList = .ok p) ms pre ∧
      Leads (pre ++ [[.folders], Glob.json]) start path := by
  rw [search, hdivide] at hsearch
  obtain ⟨ps, hparse, rfl⟩ := map_eq_ok.mp hsearch
  obtain ⟨ts, -, hps⟩ := bind_eq_ok.mp hparse
  rw [List.map_append, List.mapM_append] at hps
  obtain ⟨pre, hpre, hps⟩ := bind_eq_ok.mp hps
  obtain rfl : pre ++ [[.folders], Glob.json] = ps := Except.ok.inj hps
  have htokens := List.forall₂_map_left_iff.mp (mapM_eq_ok.mp hpre)
  have hall : WithoutSlashes (pre ++ [[.folders], Glob.json]) := by
    refine List.forall_mem_append.mpr ⟨withoutSlashes_of_tokens htokens hslash, ?_⟩
    rintro p hp name hname
    rcases List.mem_pair.mp hp with rfl | rfl <;> cases hname
  have hleads := leads_of_mem_expand hfs hall hfound
  exact ⟨pre, htokens, hleads⟩

/-- What the pattern for the JSON files below a folder finds goes on from where the path of the folder
begins, as the patterns for its names describe. -/
theorem describes_of_search (hfs : fs.WellFormed) {root : String} (hroot : root ≠ "")
    (hsearch : fs.search (join root "**/*.json") = .ok findings) (hfound : .found path ∈ findings) :
    ∃ before ms pre ns, trail root = before ++ ms.filter isStep ∧ ms ⊆ names root ∧
      List.Forall₂ (fun n p => Glob.tokens n.toList = .ok p) ms pre ∧
      Describes (pre ++ [[.folders], Glob.json]) ns ∧ trail path = before ++ ns.filter isStep := by
  obtain ⟨front, slashes, hnames, hslashes, hjoin⟩ := exists_join hroot
  obtain ⟨name, ms, hfront⟩ := List.exists_cons_of_ne_nil (names_ne_nil front)
  have hwhole : names (front ++ "/" ++ "**/*.json") = name :: (ms ++ ["**"] ++ ["*.json"]) := by
    rw [names_slash, hfront, List.append_assoc]
    rfl
  have htrail : trail root =
      (if isAbsolute root then ["/"] else []) ++ (name :: ms).filter isStep := by
    rw [trail_eq, hnames, hfront, List.filter_append, filter_isStep_of_empty hslashes,
      List.append_nil]
  have hsubset : name :: ms ⊆ names root := by
    rw [hnames, hfront]
    exact List.subset_append_left _ _
  have hslash : ∀ n ∈ name :: ms, '/' ∉ n.toList := fun n hn => no_slash_of_mem_names (hsubset hn)
  have habsolute : isAbsolute root = true ↔ name = "" := by
    rw [hfront, List.cons_append] at hnames
    exact isAbsolute_iff_of_names hroot hnames
  have hdivide := divide_eq (by decide) hwhole
  rw [hjoin _ (by decide)] at hsearch
  by_cases hname : name = ""
  · rw [if_pos hname, List.append_assoc] at hdivide
    obtain ⟨pre, hpre, ns, hns, hpath⟩ :=
      leads_of_search hfs hdivide (List.forall_mem_cons.mp hslash).2 hsearch hfound
    refine ⟨["/"], ms, pre, ns, ?_, List.subset_of_cons_subset hsubset, hpre, hns, hpath⟩
    rw [htrail, if_pos (habsolute.mpr hname), hname]
    rfl
  · rw [if_neg hname, List.append_assoc, ← List.cons_append] at hdivide
    obtain ⟨pre, hpre, ns, hns, hpath⟩ := leads_of_search hfs hdivide hslash hsearch hfound
    refine ⟨[], name :: ms, pre, ns, ?_, hsubset, hpre, hns, hpath⟩
    rw [htrail, if_neg (mt habsolute.mp hname)]

/-- What lies below the folder among what is found: its last name is that of a JSON file, and if no
name of the folder stands for folders, the path goes down all the way. -/
theorem isName_of_below? (hfs : fs.WellFormed) {root rest : String} (hroot : root ≠ "")
    (hsearch : fs.search (join root "**/*.json") = .ok findings) (hfound : .found path ∈ findings)
    (hrest : below? root path = some rest) :
    ∃ ns, rest = "/".intercalate ns ∧ trail path = trail root ++ ns ∧
      (∀ n ∈ ns, isStep n = true ∧ '/' ∉ n.toList) ∧ (ns ≠ [] → IsJson ns) ∧
      ("**" ∉ names root → ∀ n ∈ ns, IsName n) := by
  obtain ⟨before, ms, pre, found, hbefore, hms, hpre, hdescribes, hpath⟩ :=
    describes_of_search hfs hroot hsearch hfound
  obtain ⟨ns, hns, htrail, hsteps⟩ := exists_trail_of_below? hroot hrest
  refine ⟨ns, hns, htrail, hsteps, fun hne => ?_, fun hstars => ?_⟩
  · have hdescribes' : Describes ((pre ++ [[.folders]]) ++ [Glob.json]) found := by
      rwa [List.append_assoc]
    obtain ⟨front, last, rfl, hlast, hjson⟩ := hdescribes'.json
    obtain ⟨front', last', rfl⟩ := (List.eq_nil_or_concat ns).resolve_left hne
    rw [List.concat_eq_append] at htrail ⊢
    have hends : trail path = before ++ front.filter isStep ++ [last] := by
      rw [hpath, List.filter_append, List.append_assoc]
      simp [hlast.isStep]
    rw [htrail, ← List.append_assoc] at hends
    obtain ⟨-, hsame⟩ := List.append_inj' hends rfl
    rw [List.singleton_inj] at hsame
    exact ⟨front', last', rfl, hsame ▸ hjson⟩
  · have hslash : ∀ n ∈ ms, '/' ∉ n.toList := fun n hn => no_slash_of_mem_names (hms hn)
    obtain ⟨front, below, rfl, hlength, hbelow⟩ :=
      hdescribes.isName_below hpre hslash (fun h => hstars (hms h))
    have hall : below.filter isStep = below :=
      List.filter_eq_self.mpr (fun n hn => (hbelow n hn).isStep)
    have hsame : front.filter isStep ++ below = ms.filter isStep ++ ns := by
      rw [hpath, hbefore, List.filter_append, hall, List.append_assoc] at htrail
      exact List.append_cancel_left htrail
    -- The names of the folder take up at least what the patterns for them do.
    rcases List.append_eq_append_iff.mp hsame with ⟨more, -, hmore⟩ | ⟨more, hfront, hmore⟩
    · exact fun n hn => hbelow n (hmore ▸ List.mem_append_right more hn)
    · have hnil : more = [] := by
        rw [hfront, List.length_append] at hlength
        exact List.length_eq_zero_iff.mp (by omega)
      rwa [hmore, hnil]

end

end LuaStubs.FileSystem
