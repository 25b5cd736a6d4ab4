import LuaStubs.Proofs.Keyed
import LuaStubs.Repository.Collection

/-! What a collection comes to, said file by file: which paths of a listing count, what each of them
declares, and the documentation that these declarations make up. -/
namespace LuaStubs.Repository

open Text (begins begins_iff ends ends_iff)

/-! ## Paths -/

/-- A JSON file without an underscore in front: the enums, or in a folder of classes. -/
def IsDescriptor (path : String) : Prop :=
  ".json".toList <:+ path.toList ∧ ¬ "_".toList <+: path.toList ∧
    (path = "Enums.json" ∨ "StaticClasses".toList <+: path.toList ∨
      "Classes".toList <+: path.toList ∨ "Structs".toList <+: path.toList)

instance (path : String) : Decidable (IsDescriptor path) :=
  inferInstanceAs (Decidable (_ ∧ _ ∧ (_ ∨ _ ∨ _ ∨ _)))

/-- The paths of the descriptor files in a listing, in its order. -/
def descriptorPaths (entries : List Entry) : List String :=
  (entries.filter (fun e => e.kind = .blob ∧ IsDescriptor e.path)).map Entry.path

def routeOf (path : String) : Route :=
  if path = "Enums.json" then .enums else .class (begins "StaticClasses" path)

theorem route?_eq (path : String) :
    route? path = if IsDescriptor path then some (routeOf path) else none := by
  unfold route? IsDescriptor routeOf enumsPath
  simp only [← ends_iff, ← begins_iff]
  cases ends ".json" path with
  | false => simp
  | true =>
    cases begins "_" path with
    | true => simp
    | false =>
      by_cases he : path = "Enums.json"
      · simp [he]
      · cases begins "StaticClasses" path <;> cases begins "Classes" path <;>
          cases begins "Structs" path <;> simp [he]

/-- The files that are read are those with a descriptor's path. -/
theorem selected_eq (entries : List Entry) :
    selected entries = (descriptorPaths entries).map (fun p => (p, routeOf p)) := by
  induction entries with
  | nil => rfl
  | cons e es ih =>
    unfold selected descriptorPaths at ih ⊢
    by_cases hk : e.kind = .blob
    · by_cases hd : IsDescriptor e.path
      · simpa [hk, hd, route?_eq] using ih
      · simpa [hk, hd, route?_eq] using ih
    · simpa [hk] using ih

/-! ## Declarations -/

/-- What the file at a path declares: nothing if it has no content. -/
def Source.declared (s : Source) (path : String) : Except Failure (Option Descriptor) :=
  match s.fetch path with
  | .error e => .error e
  | .ok none => .ok none
  | .ok (some text) =>
    if path = "Enums.json" then
      match EnumTable.read text with
      | .ok enums => .ok (some (.enums enums))
      | .error fault => .error (.decode path fault.message)
    else
      match Class.decoder.run text with
      | .ok c => .ok (some (.class { c with isStatic := begins "StaticClasses" path }))
      | .error problem => .error (.decode path (problem.message .text))

/-- Why the file at a path declares nothing at all. -/
def Source.failure? (s : Source) (path : String) : Option Failure :=
  match s.declared path with
  | .error e => some e
  | .ok _ => none

/-- All that is declared at these paths, in order. -/
def Source.declarations (s : Source) (paths : List String) : List Descriptor :=
  paths.filterMap (fun p => (s.declared p).toOption.join)

def Descriptor.class? : Descriptor → Option Class
  | .enums _ => none
  | .class c => some c

def Descriptor.table? : Descriptor → Option (List Enum)
  | .enums table => some table
  | .class _ => none

/-- Documentation made up of declarations: the last table of enums, and for each name of a class, in
the order of first mention, the last class of that name. -/
structure Comprises (declarations : List Descriptor) (d : Docs) : Prop where
  enums : d.enums = (declarations.filterMap Descriptor.table?).getLast?.getD []
  names : d.classes.map Class.name =
    ((declarations.filterMap Descriptor.class?).map Class.name).eraseDups
  distinct : (d.classes.map Class.name).Nodup
  latest : ∀ c ∈ d.classes,
    ((declarations.filterMap Descriptor.class?).filter (fun x => x.name = c.name)).getLast? = some c

/-- What collecting from a source comes to, path by path in the order of the listing: the failure of the
listing, or the failure of the first path that has one, or the documentation that all paths make up. -/
def Source.Yields (s : Source) (result : Except Failure Docs) : Prop :=
  match s.list with
  | .error e => result = .error e
  | .ok listing =>
    match (descriptorPaths listing.entries).findSome? s.failure? with
    | some e => result = .error e
    | none => ∃ d, result = .ok d ∧ Comprises (s.declarations (descriptorPaths listing.entries)) d

/-! ## The run -/

/-- One file of a run: it is fetched, and the run goes on if it could be read. -/
theorem readAll_cons (s : Source) (path : String) (rest : List (String × Route)) :
    readAll s ((path, routeOf path) :: rest) =
      Outcome.report [processing path] (Outcome.fetching path
        (match s.declared path with
        | .error e => .fail e
        | .ok none => (readAll s rest).report [skipping path]
        | .ok (some d) => (readAll s rest).map (fun ds => (path, d) :: ds))) := by
  rw [readAll]
  unfold Source.declared
  cases s.fetch path with
  | error e => simp
  | ok content =>
    cases content with
    | none => simp
    | some text =>
      by_cases he : path = "Enums.json"
      · cases ht : EnumTable.read text <;> simp [routeOf, he, readDescriptor, ht]
      · cases hc : Class.decoder.run text <;> simp [routeOf, he, readDescriptor, hc]

theorem readAll_cons_result (s : Source) (path : String) (rest : List (String × Route)) :
    (readAll s ((path, routeOf path) :: rest)).result =
      match s.declared path with
      | .error e => .error e
      | .ok none => (readAll s rest).result
      | .ok (some d) => (readAll s rest).result.map (fun ds => (path, d) :: ds) := by
  rw [readAll_cons]
  rcases s.declared path with e | _ | d <;> rfl

/-- A run ends at the first failure; otherwise it has read every declaration. -/
theorem readAll_result (s : Source) (paths : List String) :
    (readAll s (paths.map (fun p => (p, routeOf p)))).result.map (List.map Prod.snd) =
      match paths.findSome? s.failure? with
      | some e => .error e
      | none => .ok (s.declarations paths) := by
  induction paths with
  | nil => rfl
  | cons p ps ih =>
    rw [List.map_cons, readAll_cons_result, List.findSome?_cons]
    cases hd : s.declared p with
    | error e =>
      have hf : s.failure? p = some e := by simp [Source.failure?, hd]
      simp [hf, Except.map]
    | ok found =>
      have hf : s.failure? p = none := by simp [Source.failure?, hd]
      simp only [hf]
      cases found with
      | none =>
        have hds : s.declarations (p :: ps) = s.declarations ps := by
          simp [Source.declarations, hd, Except.toOption]
        rw [hds]
        exact ih
      | some d =>
        have hds : s.declarations (p :: ps) = d :: s.declarations ps := by
          simp [Source.declarations, hd, Except.toOption]
        have hmap (r : Except Failure (List (String × Descriptor))) :
            (r.map (fun ds => (p, d) :: ds)).map (List.map Prod.snd) =
              (r.map (List.map Prod.snd)).map (fun ds => d :: ds) := by
          cases r <;> rfl
        rw [hds, hmap, ih]
        cases ps.findSome? s.failure? <;> rfl

theorem add_class (d : Docs) (path : String) (c : Class) :
    add d path (.class c) =
      (if (d.insertClass c).2 then [replacing path c.name] else [], d.insert c) := rfl

theorem assemble_cons (d : Docs) (path : String) (descriptor : Descriptor)
    (rest : List (String × Descriptor)) :
    assemble d ((path, descriptor) :: rest) =
      ((add d path descriptor).1 ++ (assemble (add d path descriptor).2 rest).1,
        (assemble (add d path descriptor).2 rest).2) := rfl

/-- The classes that are put together. -/
theorem classes_assemble (d : Docs) (ds : List (String × Descriptor)) :
    (assemble d ds).2.classes =
      Keyed.putAll Class.name d.classes ((ds.map Prod.snd).filterMap Descriptor.class?) := by
  induction ds generalizing d with
  | nil => rfl
  | cons x rest ih =>
    obtain ⟨path, descriptor⟩ := x
    rw [assemble_cons, ih]
    cases descriptor with
    | enums table => rfl
    | «class» c =>
      rw [add_class, Docs.insert_eq]
      rfl

/-- The enums that are put together. -/
theorem enums_assemble (d : Docs) (ds : List (String × Descriptor)) :
    (assemble d ds).2.enums =
      ((ds.map Prod.snd).filterMap Descriptor.table?).getLast?.getD d.enums := by
  induction ds generalizing d with
  | nil => rfl
  | cons x rest ih =>
    obtain ⟨path, descriptor⟩ := x
    rw [assemble_cons, ih]
    cases descriptor with
    | enums table =>
      have htable : Descriptor.table? (.enums table) = some table := rfl
      rw [List.map_cons, List.filterMap_cons_some htable, List.getLast?_cons]
      simp [add]
    | «class» c =>
      rw [add_class, Docs.insert_eq, List.map_cons, List.filterMap_cons_none rfl]

theorem comprises_assemble (ds : List (String × Descriptor)) :
    Comprises (ds.map Prod.snd) (assemble .empty ds).2 where
  enums := enums_assemble .empty ds
  names := by
    rw [classes_assemble]
    exact Keyed.map_putAll_nil Class.name _
  distinct := by
    rw [classes_assemble]
    exact Keyed.nodup_map_putAll Class.name _ (by simp [Docs.empty])
  latest c hc := by
    rw [classes_assemble] at hc
    exact Keyed.getLast?_of_mem_putAll Class.name hc

/-- Declarations make up one documentation only. -/
theorem Comprises.unique {declarations : List Descriptor} {d d' : Docs}
    (h : Comprises declarations d) (h' : Comprises declarations d') : d = d' := by
  have hclasses : d.classes = d'.classes :=
    Keyed.eq_of_map_eq Class.name (h.names.trans h'.names.symm)
      (fun n => ((declarations.filterMap Descriptor.class?).filter (fun x => x.name = n)).getLast?)
      h.latest h'.latest
  have henums : d.enums = d'.enums := h.enums.trans h'.enums.symm
  cases d
  cases d'
  simp_all

theorem Source.Yields.unique {s : Source} {r r' : Except Failure Docs} (h : s.Yields r)
    (h' : s.Yields r') : r = r' := by
  unfold Source.Yields at h h'
  cases hl : s.list with
  | error e =>
    simp only [hl] at h h'
    rw [h, h']
  | ok listing =>
    simp only [hl] at h h'
    cases hf : (descriptorPaths listing.entries).findSome? s.failure? with
    | some e =>
      simp only [hf] at h h'
      rw [h, h']
    | none =>
      simp only [hf] at h h'
      obtain ⟨d, rfl, hd⟩ := h
      obtain ⟨d', rfl, hd'⟩ := h'
      rw [hd.unique hd']

theorem collect_yields (s : Source) : s.Yields (collect s).result := by
  unfold Source.Yields collect
  cases hl : s.list with
  | error e => rfl
  | ok listing =>
    have hrun := readAll_result s (descriptorPaths listing.entries)
    rw [← selected_eq] at hrun
    simp only
    cases hr : (readAll s (selected listing.entries)).result with
    | error e =>
      rw [hr] at hrun
      cases hf : (descriptorPaths listing.entries).findSome? s.failure? with
      | some e' =>
        simp only [hf] at hrun
        simpa [Except.map] using hrun
      | none =>
        simp only [hf] at hrun
        cases hrun
    | ok ds =>
      rw [hr] at hrun
      cases hf : (descriptorPaths listing.entries).findSome? s.failure? with
      | some e =>
        simp only [hf] at hrun
        cases hrun
      | none =>
        simp only [hf] at hrun
        refine ⟨(assemble .empty ds).2, rfl, ?_⟩
        rw [← Except.ok.inj hrun]
        exact comprises_assemble ds

/-- A collection has the result that its files call for, and no other. -/
theorem collect_result_iff (s : Source) (result : Except Failure Docs) :
    (collect s).result = result ↔ s.Yields result := by
  constructor
  · rintro rfl
    exact collect_yields s
  · exact (collect_yields s).unique

end LuaStubs.Repository
