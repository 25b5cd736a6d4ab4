import LuaStubs.Proofs.Repository.Fetching

/-! What a collection may come to when several workers read its files at the same time.  The files are
then done in any order, and the first failure in that order ends the collection; what was read is put
together in the order of the listing all the same. -/
namespace LuaStubs.Repository

/-- A possible result of several workers; `order` is that in which they come to an end with the files. -/
inductive Source.MayYield (s : Source) : Except Failure Docs → Prop
  | unlisted {e : Failure} (hpaths : s.paths = .error e) : s.MayYield (.error e)
  | failed {paths order : List String} {e : Failure} (hpaths : s.paths = .ok paths)
      (horder : order.Perm paths) (he : (s.reading order).result = .error e) : s.MayYield (.error e)
  | read {paths : List String} {ds : List (String × Descriptor)} (hpaths : s.paths = .ok paths)
      (hds : (s.reading paths).result = .ok ds) : s.MayYield (.ok (assemble .empty ds).2)

variable {s s' : Source} {paths : List String} {e : Failure} {result : Except Failure Docs}

/-- One worker takes the files in the order of the listing. -/
theorem collect_mayYield (s : Source) : s.MayYield (collect s).result := by
  cases hpaths : s.paths with
  | error e =>
    rw [(collect_of_unlisted hpaths).1]
    exact .unlisted hpaths
  | ok paths =>
    rw [(collect_of_paths hpaths).1]
    cases hds : (s.reading paths).result with
    | error e => exact .failed hpaths (.refl paths) hds
    | ok ds => exact .read hpaths hds

/-! ## Failures -/

theorem result_reading_eq_error :
    (s.reading paths).result = .error e ↔ paths.findSome? s.failure? = some e := by
  have hrun : (s.reading paths).result.map (List.map Prod.snd) = _ := readAll_result s paths
  rw [← map_eq_error, hrun]
  cases paths.findSome? s.failure? <;> simp

theorem failure?_eq_none_of_reading {ds : List (String × Descriptor)}
    (hds : (s.reading paths).result = .ok ds) : ∀ path ∈ paths, s.failure? path = none := by
  refine List.findSome?_eq_none_iff.mp (Option.eq_none_iff_forall_ne_some.mpr (fun e he => ?_))
  rw [result_reading_eq_error.mpr he] at hds
  cases hds

/-- Whichever file cannot be read, its failure may be the one that is met first. -/
theorem mayYield_error_iff (hpaths : s.paths = .ok paths) :
    s.MayYield (.error e) ↔ ∃ path ∈ paths, s.failure? path = some e := by
  constructor
  · intro h
    cases h with
    | unlisted hunlisted =>
      rw [hpaths] at hunlisted
      cases hunlisted
    | failed hpaths' horder he =>
      obtain rfl := Except.ok.inj (hpaths.symm.trans hpaths')
      obtain ⟨path, hpath, he⟩ := List.exists_of_findSome?_eq_some (result_reading_eq_error.mp he)
      exact ⟨path, horder.subset hpath, he⟩
  · rintro ⟨path, hpath, he⟩
    obtain ⟨before, behind, rfl⟩ := List.append_of_mem hpath
    refine .failed hpaths List.perm_middle.symm (result_reading_eq_error.mpr ?_)
    rw [List.findSome?_cons, he]

/-- Where documentation is a possible result, it is the only one. -/
theorem Source.MayYield.eq_ok {d : Docs} (h : s.MayYield (.ok d)) (h' : s.MayYield result) :
    result = .ok d := by
  cases h with
  | read hpaths hds =>
    cases h' with
    | unlisted hunlisted =>
      rw [hpaths] at hunlisted
      cases hunlisted
    | failed hpaths' horder he =>
      obtain ⟨path, hpath, hfailure⟩ := (mayYield_error_iff hpaths).mp (.failed hpaths' horder he)
      rw [failure?_eq_none_of_reading hds path hpath] at hfailure
      cases hfailure
    | read hpaths' hds' =>
      obtain rfl := Except.ok.inj (hpaths.symm.trans hpaths')
      rw [Except.ok.inj (hds.symm.trans hds')]

/-! ## Two sources -/

/-- Sources with the same descriptor files come to the same, whatever the order. -/
theorem Source.MayYield.congr (h : s.MayYield result) (hsame : s'.paths = s.paths)
    (hfetch : ∀ paths, s.paths = .ok paths → ∀ p ∈ paths, s'.fetch p = s.fetch p) :
    s'.MayYield result := by
  have hreading {paths order : List String} (hpaths : s.paths = .ok paths) (horder : order ⊆ paths) :
      s'.reading order = s.reading order :=
    reading_congr (fun p hp => hfetch paths hpaths p
      (horder ((fetched_reading_front s order).subset hp)))
  cases h with
  | unlisted hpaths => exact .unlisted (hsame.trans hpaths)
  | failed hpaths horder he =>
    rw [← hreading hpaths horder.subset] at he
    exact .failed (hsame.trans hpaths) horder he
  | read hpaths hds =>
    rw [← hreading hpaths (List.Subset.refl _)] at hds
    exact .read (hsame.trans hpaths) hds

end LuaStubs.Repository
