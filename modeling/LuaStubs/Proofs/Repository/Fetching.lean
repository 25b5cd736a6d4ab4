import LuaStubs.Proofs.Repository.Collection
import LuaStubs.Proofs.Results

/-! What a collection fetches: the descriptor files of the listing, each where it stands there, up to
the first one that cannot be read.  Nothing else of a source makes a difference. -/
namespace LuaStubs.Repository

/-- The paths of the files to be read, in the order of the listing. -/
def Source.paths (s : Source) : Except Failure (List String) :=
  s.list.map (fun listing => descriptorPaths listing.entries)

/-- The run over the files at these paths. -/
def Source.reading (s : Source) (paths : List String) : Outcome (List (String × Descriptor)) :=
  readAll s (paths.map (fun p => (p, routeOf p)))

variable {s s' : Source} {paths : List String}

theorem Source.failure?_eq_none {path : String} :
    s.failure? path = none ↔ ∃ found, s.declared path = .ok found := by
  unfold Source.failure?
  cases s.declared path <;> simp

/-! ## Runs -/

theorem fetched_reading_cons (s : Source) (path : String) (rest : List String) :
    (s.reading (path :: rest)).fetched =
      path :: if s.failure? path = none then (s.reading rest).fetched else [] := by
  rw [Source.reading, List.map_cons, readAll_cons]
  unfold Source.failure?
  rcases s.declared path with e | _ | d <;> rfl

/-- Files that can be read are passed by. -/
theorem fetched_reading_append (rest : List String) (h : ∀ p ∈ paths, s.failure? p = none) :
    (s.reading (paths ++ rest)).fetched = paths ++ (s.reading rest).fetched := by
  induction paths with
  | nil => rfl
  | cons p ps ih =>
    obtain ⟨hp, hps⟩ := List.forall_mem_cons.mp h
    rw [List.cons_append, fetched_reading_cons, if_pos hp, ih hps, List.cons_append]

theorem fetched_reading_eq (h : ∀ p ∈ paths, s.failure? p = none) :
    (s.reading paths).fetched = paths := by
  have hall := fetched_reading_append [] h
  rwa [List.append_nil, show (s.reading []).fetched = [] from rfl, List.append_nil] at hall

theorem fetched_reading_front (s : Source) (paths : List String) :
    (s.reading paths).fetched <+: paths := by
  induction paths with
  | nil => exact List.nil_prefix
  | cons p ps ih =>
    rw [fetched_reading_cons, List.cons_prefix_cons]
    split
    · exact ⟨rfl, ih⟩
    · exact ⟨rfl, List.nil_prefix⟩

theorem declared_congr {path : String} (h : s'.fetch path = s.fetch path) :
    s'.declared path = s.declared path := by
  unfold Source.declared
  rw [h]

/-- A run depends on no other files than those it fetches. -/
theorem reading_congr (h : ∀ p ∈ (s.reading paths).fetched, s'.fetch p = s.fetch p) :
    s'.reading paths = s.reading paths := by
  induction paths with
  | nil => rfl
  | cons p ps ih =>
    rw [fetched_reading_cons] at h
    obtain ⟨hp, hps⟩ := List.forall_mem_cons.mp h
    have hdeclared := declared_congr hp
    rw [Source.reading, Source.reading, List.map_cons, readAll_cons, readAll_cons, hdeclared]
    cases hfound : s.declared p with
    | error e => rfl
    | ok found =>
      rw [if_pos (Source.failure?_eq_none.mpr ⟨found, hfound⟩)] at hps
      have hrest : readAll s' (ps.map (fun p => (p, routeOf p))) =
          readAll s (ps.map (fun p => (p, routeOf p))) := ih hps
      rw [hrest]

/-! ## Collections -/

theorem Source.paths_eq_ok :
    s.paths = .ok paths ↔
      ∃ listing, s.list = .ok listing ∧ descriptorPaths listing.entries = paths := map_eq_ok

/-- A collection without a listing fetches nothing. -/
theorem collect_of_unlisted {e : Failure} (h : s.paths = .error e) :
    (collect s).result = .error e ∧ (collect s).fetched = [] := by
  rw [Source.paths, map_eq_error] at h
  rw [collect, h]
  exact ⟨rfl, rfl⟩

/-- A collection is a run over the files of the listing, and puts together what it has read. -/
theorem collect_of_paths (h : s.paths = .ok paths) :
    (collect s).result = (s.reading paths).result.map (fun ds => (assemble .empty ds).2) ∧
      (collect s).fetched = (s.reading paths).fetched := by
  obtain ⟨listing, hlist, rfl⟩ := Source.paths_eq_ok.mp h
  rw [Source.reading, ← selected_eq, collect, hlist]
  dsimp only
  cases (readAll s (selected listing.entries)).result with
  | error e => exact ⟨rfl, rfl⟩
  | ok ds => exact ⟨rfl, rfl⟩

/-- The descriptor files are fetched in the order of the listing, each as often as it is listed, up to
the first one that cannot be read, and nothing else is; without a listing nothing is.  A source with
the same descriptor files listed, which has the same to say of those that are fetched, comes to the
same, whatever else it lists and holds. -/
theorem collect_fetches (s : Source) :
    (∀ e, s.paths = .error e → (collect s).fetched = []) ∧
    (∀ paths, s.paths = .ok paths →
      (collect s).fetched <+: paths ∧
      ((∀ p ∈ paths, s.failure? p = none) → (collect s).fetched = paths) ∧
      ∀ before p behind, paths = before ++ p :: behind → (∀ q ∈ before, s.failure? q = none) →
        s.failure? p ≠ none → (collect s).fetched = before ++ [p]) ∧
    ∀ s' : Source, s'.paths = s.paths → (∀ p ∈ (collect s).fetched, s'.fetch p = s.fetch p) →
      (collect s').result = (collect s).result ∧ (collect s').fetched = (collect s).fetched := by
  refine ⟨fun e he => (collect_of_unlisted he).2, fun paths hpaths => ?_, fun s' hsame hfetch => ?_⟩
  · rw [(collect_of_paths hpaths).2]
    refine ⟨fetched_reading_front s paths, fetched_reading_eq, ?_⟩
    rintro before p behind rfl hbefore hp
    rw [fetched_reading_append _ hbefore, fetched_reading_cons, if_neg hp]
  · cases hpaths : s.paths with
    | error e =>
      obtain ⟨hresult, hfetched⟩ := collect_of_unlisted hpaths
      obtain ⟨hresult', hfetched'⟩ := collect_of_unlisted (hsame.trans hpaths)
      exact ⟨hresult'.trans hresult.symm, hfetched'.trans hfetched.symm⟩
    | ok paths =>
      obtain ⟨hresult, hfetched⟩ := collect_of_paths hpaths
      obtain ⟨hresult', hfetched'⟩ := collect_of_paths (hsame.trans hpaths)
      rw [hfetched] at hfetch
      have hreading := reading_congr hfetch
      rw [hresult, hresult', hfetched, hfetched', hreading]
      exact ⟨rfl, rfl⟩

/-- A listing of these paths, the first of which is a folder. -/
def listingOf (folder : String) (paths : List String) : Listing :=
  ⟨⟨.tree, folder⟩ :: paths.map (fun p => ⟨.blob, p⟩), false⟩

/-- A source with a file that has no content and one that is no class; `other` is all else it holds. -/
def offering (list : Except Failure Listing) (other : Except Failure (Option String)) : Source where
  list := list
  fetch path :=
    if path = "Classes/A.json" then .ok none
    else if path = "Structs/B.json" then .ok (some "\x7b")
    else other

def sampleOffer : Source :=
  offering (.ok (listingOf "Classes"
    ["Classes/A.json", "package.json", "Classes/A.json", "Structs/B.json", "Classes/C.json"]))
    (.error (.fetch "Classes/C.json" "404 Not Found"))

/-- It differs in all that is not fetched. -/
def sampleVariant : Source :=
  offering (.ok (listingOf "Structs"
    ["Classes/A.json", "Classes/A.json", "Structs/B.json", "_Template.json", "Classes/C.json"]))
    (.ok (some "[]"))

/-- One file is fetched twice and one is never reached. -/
theorem collect_fetches_sample :
    (collect (offering (.error (.listing "HTTP 404")) (.ok none))).fetched = [] ∧
    (collect (offering (.ok (listingOf "Classes" ["Classes/A.json", "Classes/A.json"]))
      (.ok none))).fetched = ["Classes/A.json", "Classes/A.json"] ∧
    sampleOffer.paths = .ok
      ["Classes/A.json", "Classes/A.json", "Structs/B.json", "Classes/C.json"] ∧
    sampleOffer.failure? "Classes/A.json" = none ∧ sampleOffer.failure? "Structs/B.json" ≠ none ∧
    (collect sampleOffer).fetched = ["Classes/A.json", "Classes/A.json", "Structs/B.json"] ∧
    (collect sampleVariant).result = (collect sampleOffer).result ∧
    (collect sampleVariant).fetched = (collect sampleOffer).fetched := by
  have hunlisted := (collect_fetches (offering (.error (.listing "HTTP 404")) (.ok none))).1
  have hwhole := (collect_fetches (offering (.ok (listingOf "Classes"
    ["Classes/A.json", "Classes/A.json"])) (.ok none))).2.1
  obtain ⟨-, hlisted, htwo⟩ := collect_fetches sampleOffer
  have hpaths : sampleOffer.paths = .ok
      (["Classes/A.json", "Classes/A.json"] ++ "Structs/B.json" :: ["Classes/C.json"]) := by decide
  have hempty : ∀ p ∈ ["Classes/A.json", "Classes/A.json"], sampleOffer.failure? p = none :=
    List.forall_mem_cons.mpr ⟨rfl, List.forall_mem_singleton.mpr rfl⟩
  have hbroken : sampleOffer.failure? "Structs/B.json" ≠ none := by decide
  have hfetched := (hlisted _ hpaths).2.2 _ _ _ rfl hempty hbroken
  have hsame : ∀ p ∈ (collect sampleOffer).fetched, sampleVariant.fetch p = sampleOffer.fetch p := by
    rw [hfetched]
    simp [sampleOffer, sampleVariant, offering]
  exact ⟨hunlisted _ rfl, (hwhole _ (by decide)).2.1 (by decide), hpaths, rfl, hbroken, hfetched,
    htwo sampleVariant (by decide) hsame⟩

end LuaStubs.Repository
