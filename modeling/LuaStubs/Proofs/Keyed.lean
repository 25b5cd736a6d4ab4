import LuaStubs.Keyed
import Mathlib.Data.List.Induction

/-! Tables as histories.  A table filled from nothing holds the keys of its arrivals, each once and in
the order of first arrivals, and under each key the last arrival. -/
namespace LuaStubs.Keyed

variable {α κ : Type} [DecidableEq κ]

theorem get?_putAll (key : α → κ) (k : κ) (table arrivals : List α) :
    get? key k (putAll key table arrivals) =
      ((arrivals.filter (fun x => key x = k)).getLast?).or (get? key k table) := by
  induction arrivals generalizing table with
  | nil => simp
  | cons x xs ih =>
    rw [putAll_cons, ih]
    by_cases h : key x = k
    · have hget : get? key k (put key x table) = some x := h ▸ get?_put_self key x table
      rw [hget, List.filter_cons_of_pos (by simpa using h), List.getLast?_cons]
      cases (xs.filter (fun x => key x = k)).getLast? <;> simp
    · rw [get?_put_of_ne key x table (Ne.symm h), List.filter_cons_of_neg (by simpa using h)]

/-- A key that comes last is new or has its place already. -/
theorem eraseDups_concat (keys : List κ) (k : κ) :
    (keys ++ [k]).eraseDups = if k ∈ keys then keys.eraseDups else keys.eraseDups ++ [k] := by
  rw [List.eraseDups_append]
  by_cases h : k ∈ keys
  · simp [h, List.cons_removeAll]
  · simp [h, List.cons_removeAll, List.eraseDups_cons]

theorem map_putAll_nil (key : α → κ) (arrivals : List α) :
    (putAll key [] arrivals).map key = (arrivals.map key).eraseDups := by
  induction arrivals using List.reverseRecOn with
  | nil => rfl
  | append_singleton xs x ih =>
    have hput : putAll key [] (xs ++ [x]) = put key x (putAll key [] xs) := by
      rw [putAll_append, putAll_cons, putAll_nil]
    rw [hput, map_put, ih, List.map_append, List.map_singleton, eraseDups_concat]
    simp only [List.mem_eraseDups]

theorem nodup_map_put (key : α → κ) (x : α) {table : List α} (h : (table.map key).Nodup) :
    ((put key x table).map key).Nodup := by
  rw [map_put]
  by_cases hx : key x ∈ table.map key
  · rwa [if_pos hx]
  · rw [if_neg hx]
    exact List.nodup_append.mpr ⟨h, by simp, by
      intro a ha b hb
      rw [List.mem_singleton.mp hb]
      exact fun e => hx (e ▸ ha)⟩

theorem nodup_map_putAll (key : α → κ) (arrivals : List α) {table : List α}
    (h : (table.map key).Nodup) : ((putAll key table arrivals).map key).Nodup := by
  induction arrivals generalizing table with
  | nil => exact h
  | cons x xs ih => exact ih (nodup_map_put key x h)

theorem put_of_not_mem (key : α → κ) (x : α) {table : List α} (h : key x ∉ table.map key) :
    put key x table = table ++ [x] := by
  induction table with
  | nil => rfl
  | cons y ys ih =>
    rw [List.map_cons, List.mem_cons, not_or] at h
    rw [put, if_neg (Ne.symm h.1), ih h.2]
    rfl

theorem contains_iff (key : α → κ) (k : κ) (table : List α) :
    contains key k table = true ↔ k ∈ table.map key := by
  simp [contains]

theorem length_put (key : α → κ) (x : α) (table : List α) :
    (put key x table).length = table.length + if contains key (key x) table then 0 else 1 := by
  induction table with
  | nil => rfl
  | cons y ys ih =>
    by_cases h : key y = key x
    · simp [put, contains, h]
    · have hcontains : contains key (key x) (y :: ys) = contains key (key x) ys := by
        simp [contains, h]
      rw [put, if_neg h, hcontains, List.length_cons, ih, List.length_cons]
      omega

/-- Entries of other keys stay where they are and as they are. -/
theorem getElem?_put_of_ne (key : α → κ) {x y : α} (h : key y ≠ key x) (table : List α) (i : Nat) :
    (put key x table)[i]? = some y ↔ table[i]? = some y := by
  induction table generalizing i with
  | nil =>
    have hne : x ≠ y := fun heq => h (heq ▸ rfl)
    cases i <;> simp [put, hne]
  | cons z zs ih =>
    by_cases hz : key z = key x
    · have hx : x ≠ y := fun heq => h (heq ▸ rfl)
      have hzy : z ≠ y := fun heq => h (heq ▸ hz)
      cases i <;> simp [put, hz, hx, hzy]
    · cases i with
      | zero => simp [put, hz]
      | succ i => simpa [put, hz] using ih i

/-- Arrivals whose keys do not repeat are the table. -/
theorem putAll_nil_of_nodup (key : α → κ) {arrivals : List α} (h : (arrivals.map key).Nodup) :
    putAll key [] arrivals = arrivals := by
  induction arrivals using List.reverseRecOn with
  | nil => rfl
  | append_singleton xs x ih =>
    rw [List.map_append, List.nodup_append] at h
    have hnew : key x ∉ xs.map key := fun hx => h.2.2 _ hx _ (by simp) rfl
    rw [putAll_append, ih h.1, putAll_cons, putAll_nil, put_of_not_mem key x hnew]

/-- Where keys do not repeat, what is in the table is what is found under its key. -/
theorem get?_of_mem (key : α → κ) {table : List α} (h : (table.map key).Nodup) {x : α}
    (hx : x ∈ table) : get? key (key x) table = some x := by
  induction table with
  | nil => cases hx
  | cons y ys ih =>
    rw [List.map_cons, List.nodup_cons] at h
    rcases List.mem_cons.mp hx with rfl | hx
    · simp [get?]
    · have hne : key y ≠ key x := fun e => h.1 (e ▸ List.mem_map_of_mem hx)
      have hget : get? key (key x) (y :: ys) = get? key (key x) ys := by simp [get?, hne]
      rw [hget]
      exact ih h.2 hx

/-- Where keys do not repeat, the order of the entries makes no difference to what is found. -/
theorem get?_perm (key : α → κ) {s t : List α} (h : (s.map key).Nodup) (hperm : s.Perm t) (k : κ) :
    get? key k s = get? key k t := by
  cases hs : get? key k s with
  | some x =>
    obtain rfl : key x = k := by simpa using List.find?_some hs
    have hx : x ∈ t := hperm.subset (List.mem_of_find?_eq_some hs)
    exact (get?_of_mem key ((hperm.map key).nodup_iff.mp h) hx).symm
  | none =>
    refine (List.find?_eq_none.mpr (fun x hx => ?_)).symm
    exact List.find?_eq_none.mp hs x (hperm.symm.subset hx)

/-- In a table filled from nothing each entry is the last arrival of its key. -/
theorem getLast?_of_mem_putAll (key : α → κ) {arrivals : List α} {x : α}
    (hx : x ∈ putAll key [] arrivals) :
    (arrivals.filter (fun y => key y = key x)).getLast? = some x := by
  have hnodup : ((putAll key [] arrivals).map key).Nodup :=
    nodup_map_putAll key arrivals (by simp)
  have hget := get?_of_mem key hnodup hx
  rw [get?_putAll] at hget
  simpa [get?] using hget

/-- Entries that are changed under their keys are changed in the table. -/
theorem putAll_map (key : α → κ) {f : α → α}
    (hkey : ∀ x, key (f x) = key x) (table arrivals : List α) :
    putAll key (table.map f) (arrivals.map f) = (putAll key table arrivals).map f := by
  have hput (x : α) (table : List α) : put key (f x) (table.map f) = (put key x table).map f := by
    induction table with
    | nil => rfl
    | cons y ys ih =>
      rw [List.map_cons, put, put, hkey, hkey, ih]
      split <;> rfl
  induction arrivals generalizing table with
  | nil => rfl
  | cons x xs ih => rw [List.map_cons, putAll_cons, putAll_cons, hput, ih]

omit [DecidableEq κ] in
/-- A table is known by its keys in order and by what each key leads to. -/
theorem eq_of_map_eq (key : α → κ) {s t : List α} (hkeys : s.map key = t.map key)
    (find : κ → Option α) (hs : ∀ x ∈ s, find (key x) = some x)
    (ht : ∀ x ∈ t, find (key x) = some x) : s = t := by
  induction s generalizing t with
  | nil => exact (List.map_eq_nil_iff.mp hkeys.symm).symm
  | cons x xs ih =>
    cases t with
    | nil => simp at hkeys
    | cons y ys =>
      rw [List.map_cons, List.map_cons, List.cons.injEq] at hkeys
      have hx := hs x List.mem_cons_self
      have hy := ht y List.mem_cons_self
      rw [hkeys.1, hy] at hx
      rw [ih hkeys.2 (fun z hz => hs z (List.mem_cons_of_mem _ hz))
        (fun z hz => ht z (List.mem_cons_of_mem _ hz)), Option.some.inj hx]

/-! ## Merges -/

/-- The table holds the keys of the arrivals, each once and where it first arrived, and under each key
the last arrival. -/
structure Merges (key : α → κ) (arrivals table : List α) : Prop where
  distinct : (table.map key).Nodup
  names : table.map key = (arrivals.map key).eraseDups
  latest : ∀ x ∈ table, (arrivals.filter (fun y => key y = key x)).getLast? = some x

theorem merges_putAll (key : α → κ) (arrivals : List α) :
    Merges key arrivals (putAll key [] arrivals) where
  distinct := nodup_map_putAll key arrivals (by simp)
  names := map_putAll_nil key arrivals
  latest _ hx := getLast?_of_mem_putAll key hx

namespace Merges

variable {key : α → κ} {arrivals table : List α}

/-- There is one such table. -/
theorem eq_putAll (h : Merges key arrivals table) : table = putAll key [] arrivals :=
  eq_of_map_eq key (h.names.trans (map_putAll_nil key arrivals).symm)
    (fun k => (arrivals.filter (fun y => key y = k)).getLast?) h.latest
    (fun _ hx => getLast?_of_mem_putAll key hx)

theorem get?_eq (h : Merges key arrivals table) (k : κ) :
    get? key k table = (arrivals.filter (fun x => key x = k)).getLast? := by
  rw [h.eq_putAll, get?_putAll]
  simp [get?]

/-- The last arrivals that have a key decide what is under it. -/
theorem get?_append {before last behind : List α}
    (h : Merges key (before ++ (last ++ behind)) table) {k : κ} (hk : k ∈ last.map key)
    (hbehind : k ∉ behind.map key) :
    get? key k table = (last.filter (fun x => key x = k)).getLast? := by
  have hnone : behind.filter (fun x => key x = k) = [] := by
    refine List.filter_eq_nil_iff.mpr (fun x hx hxk => hbehind ?_)
    exact List.mem_map.mpr ⟨x, hx, by simpa using hxk⟩
  have hsome : ∃ x, (last.filter (fun x => key x = k)).getLast? = some x := by
    obtain ⟨x, hx, rfl⟩ := List.mem_map.mp hk
    have hmem : x ∈ last.filter (fun y => key y = key x) := List.mem_filter.mpr ⟨hx, by simp⟩
    exact ⟨_, List.getLast?_eq_some_getLast (List.ne_nil_of_mem hmem)⟩
  obtain ⟨x, hx⟩ := hsome
  rw [h.get?_eq, List.filter_append, List.filter_append, hnone, List.append_nil,
    List.getLast?_append, hx]
  rfl

end Merges

end LuaStubs.Keyed
