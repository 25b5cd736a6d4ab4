/-! Lists read as tables.  The position of a key is that of its first arrival and its value that of
its last: `put` overwrites in place or appends, `putAll` folds `put` over a list of arrivals. -/
namespace LuaStubs.Keyed

variable {α κ : Type} [DecidableEq κ]

/-- Overwrites the first entry with the key of `x`, or appends `x`. -/
def put (key : α → κ) (x : α) : List α → List α
  | [] => [x]
  | y :: ys => if key y = key x then x :: ys else y :: put key x ys

/-- Overwrites the first entry with the key of `x`, if there is one. -/
def replace? (key : α → κ) (x : α) : List α → Option (List α)
  | [] => none
  | y :: ys => if key y = key x then some (x :: ys) else (replace? key x ys).map (fun zs => y :: zs)

def putAll (key : α → κ) (table arrivals : List α) : List α :=
  arrivals.foldl (fun t x => put key x t) table

def get? (key : α → κ) (k : κ) (table : List α) : Option α :=
  table.find? (fun x => key x = k)

def contains (key : α → κ) (k : κ) (table : List α) : Bool :=
  table.any (fun x => key x = k)

@[simp] theorem putAll_nil (key : α → κ) (table : List α) : putAll key table [] = table := rfl

@[simp] theorem putAll_cons (key : α → κ) (table : List α) (x : α) (xs : List α) :
    putAll key table (x :: xs) = putAll key (put key x table) xs := rfl

theorem putAll_append (key : α → κ) (table xs ys : List α) :
    putAll key table (xs ++ ys) = putAll key (putAll key table xs) ys := by
  simp [putAll]

/-- The keys stay where they are; a new key goes to the end. -/
theorem map_put (key : α → κ) (x : α) (table : List α) :
    (put key x table).map key =
      if key x ∈ table.map key then table.map key else table.map key ++ [key x] := by
  induction table with
  | nil => simp [put]
  | cons y ys ih =>
    by_cases h : key y = key x
    · simp [put, h]
    · have h' : ¬ key x = key y := fun e => h e.symm
      by_cases hm : key x ∈ ys.map key <;> simp_all [put]

/-- What cannot be overwritten is appended. -/
theorem put_eq_getD (key : α → κ) (x : α) (table : List α) :
    put key x table = (replace? key x table).getD (table ++ [x]) := by
  induction table with
  | nil => rfl
  | cons y ys ih =>
    by_cases h : key y = key x
    · rw [put, replace?, if_pos h, if_pos h, Option.getD_some]
    · rw [put, replace?, if_neg h, if_neg h, ih]
      cases replace? key x ys <;> rfl

theorem isSome_replace? (key : α → κ) (x : α) (table : List α) :
    (replace? key x table).isSome = contains key (key x) table := by
  induction table with
  | nil => rfl
  | cons y ys ih =>
    rw [contains, List.any_cons, ← contains, ← ih, replace?]
    by_cases h : key y = key x <;> simp [h]

theorem get?_put_self (key : α → κ) (x : α) (table : List α) :
    get? key (key x) (put key x table) = some x := by
  induction table with
  | nil => simp [put, get?]
  | cons y ys ih => by_cases h : key y = key x <;> simp_all [put, get?]

theorem get?_put_of_ne (key : α → κ) (x : α) (table : List α) {k : κ} (hk : k ≠ key x) :
    get? key k (put key x table) = get? key k table := by
  have hk' : ¬ key x = k := fun e => hk e.symm
  induction table with
  | nil => simp [put, get?, hk']
  | cons y ys ih =>
    by_cases h : key y = key x
    · simp_all [put, get?]
    · by_cases hy : key y = k <;> simp_all [put, get?]

end LuaStubs.Keyed
