import LuaStubs.Proofs.Json.Tree
import LuaStubs.Json.Decoder

/-! Decoders as functions on values.  A schema says which values are read, and as what.  A decoder
reads a schema if it takes every tree whose value the schema has; it is sound for the schema if it
takes no other tree. -/
namespace LuaStubs.Json

abbrev Schema (α : Type) := Json → Option α

/-- The value of the first member of that name. -/
def value? (name : String) (members : List (String × Json)) : Option Json :=
  (Keyed.get? Prod.fst name members).map Prod.snd

/-- None of the names occurs twice. -/
def Unrepeated (names : List String) (members : List (String × Json)) : Prop :=
  ∀ name ∈ names, (members.map Prod.fst).count name ≤ 1

instance (names : List String) (members : List (String × Json)) :
    Decidable (Unrepeated names members) :=
  inferInstanceAs (Decidable (∀ name ∈ names, (members.map Prod.fst).count name ≤ 1))

theorem unrepeated_of_nodup (names : List String) {members : List (String × Json)}
    (h : (members.map Prod.fst).Nodup) : Unrepeated names members :=
  fun name _ => List.nodup_iff_count.mp h name

/-- What is made of the members of an object. -/
abbrev MemberSchema (α : Type) := List (String × Json) → Option α

namespace Schema

variable {α β : Type}

def string : Schema String
  | .string s => some s
  | _ => none

def bool : Schema Bool
  | .bool b => some b
  | _ => none

/-- `null` or a value. -/
def nullable (g : Schema α) : Schema (Option α)
  | .null => some none
  | j => (g j).map some

def list (g : Schema α) : Schema (List α)
  | .array items => items.mapM g
  | _ => none

/-- Any object. -/
def members : Schema (List (String × Json))
  | .object members => some members
  | _ => none

def required (name : String) (g : Schema α) : MemberSchema α :=
  fun members => (value? name members).bind g

def withDefault (name : String) (g : Schema α) (default : α) : MemberSchema α := fun members =>
  match value? name members with
  | some j => g j
  | none => some default

def optional (name : String) (g : Schema α) : MemberSchema (Option α) :=
  withDefault name (nullable g) none

/-- An object in which none of the names is repeated. -/
def object (names : List String) (g : MemberSchema α) : Schema α
  | .object members => if Unrepeated names members then g members else none
  | _ => none

theorem object_eq_some {names : List String} {g : MemberSchema α}
    {members : List (String × Json)} {a : α} :
    object names g (.object members) = some a ↔ Unrepeated names members ∧ g members = some a := by
  by_cases h : Unrepeated names members <;> simp [object, h]

end Schema

namespace Decoder

variable {α : Type} {d : Decoder α} {g : Schema α}

theorem run_eq_ok {text : String} {a : α} :
    d.run text = .ok a ↔
      d (Document.ofText text).root = .ok a ∧ (Document.ofText text).extra = none := by
  constructor
  · intro h
    obtain ⟨a', ha, h⟩ := bind_eq_ok.mp h
    cases hextra : (Document.ofText text).extra with
    | none =>
      simp only [hextra] at h
      cases h
      exact ⟨ha, rfl⟩
    | some spot =>
      simp only [hextra] at h
      cases h
  · rintro ⟨ha, hextra⟩
    refine bind_eq_ok.mpr ⟨a, ha, ?_⟩
    simp only [hextra]
    rfl

/-- Takes every tree whose value the schema has. -/
def Reads (d : Decoder α) (g : Schema α) : Prop :=
  ∀ ⦃t : Tree⦄ ⦃j : Json⦄ ⦃a : α⦄, t.full = .ok j → g j = some a → d t = .ok a

/-- A text of one value, which the schema has. -/
theorem Reads.run (h : d.Reads g) {text : String} {j : Json} {a : α} (htext : json.run text = .ok j)
    (ha : g j = some a) : d.run text = .ok a := by
  obtain ⟨hroot, hextra⟩ := run_eq_ok.mp htext
  exact run_eq_ok.mpr ⟨h hroot ha, hextra⟩

/-- Takes no tree but those whose value the schema has. -/
def Sound (d : Decoder α) (g : Schema α) : Prop :=
  ∀ ⦃t : Tree⦄ ⦃a : α⦄, d t = .ok a → ∃ j, t.full = .ok j ∧ g j = some a

theorem reads_string : string.Reads Schema.string := by
  intro t j s hfull hs
  cases j with
  | string s' =>
    cases hs
    obtain ⟨start, stop, rfl⟩ := Tree.isTreeOf_of_full hfull
    rfl
  | _ => cases hs

theorem sound_string : string.Sound Schema.string := by
  intro t s h
  cases t with
  | string start stop v =>
    obtain rfl : v = .ok s := h
    exact ⟨.string s, rfl, rfl⟩
  | _ => cases h

theorem nullable_of_ne_null {t : Tree} (h : ∀ start stop, t ≠ .null start stop) :
    nullable d t = (d t).map some := by
  cases t with
  | null start stop => exact absurd rfl (h start stop)
  | _ => rfl

theorem Reads.nullable (h : d.Reads g) : (nullable d).Reads (Schema.nullable g) := by
  intro t j a hfull ha
  by_cases hnull : j = .null
  · subst hnull
    cases ha
    obtain ⟨start, stop, rfl⟩ := Tree.isTreeOf_of_full hfull
    rfl
  · have hg : Schema.nullable g j = (g j).map some := by
      cases j with
      | null => exact absurd rfl hnull
      | _ => rfl
    rw [hg] at ha
    obtain ⟨a', ha', rfl⟩ := Option.map_eq_some_iff.mp ha
    rw [nullable_of_ne_null, h hfull ha']
    · rfl
    · rintro start stop rfl
      cases hfull
      exact hnull rfl

theorem Sound.nullable (h : d.Sound g) : (nullable d).Sound (Schema.nullable g) := by
  intro t a ha
  by_cases hnull : ∃ start stop, t = .null start stop
  · obtain ⟨start, stop, rfl⟩ := hnull
    cases ha
    exact ⟨.null, rfl, rfl⟩
  · rw [nullable_of_ne_null (fun start stop heq => hnull ⟨start, stop, heq⟩)] at ha
    obtain ⟨a', ha', rfl⟩ := map_eq_ok.mp ha
    obtain ⟨j, hfull, hj⟩ := h ha'
    refine ⟨j, hfull, ?_⟩
    cases j with
    | null => exact absurd (Tree.isTreeOf_of_full hfull) hnull
    | _ => simp [Schema.nullable, hj]

theorem Reads.list (h : d.Reads g) : (list d).Reads (Schema.list g) := by
  intro t j as hfull has
  cases j with
  | array items =>
    obtain ⟨start, level, ts, spot, rfl, hlevel, hitems⟩ := Tree.isTreeOf_of_full hfull
    have hstep (t : Tree) (j : Json) (a : α) (hfull : t.full = .ok j) (ha : g j = some a) :
        d t = .ok a := h hfull ha
    have htrees := forall₂_trans hstep (Tree.fullItems_eq_ok.mp hitems) (mapM_eq_some.mp has)
    show (Tree.checkLevel start level >>= _) = _
    rw [Tree.checkLevel_eq_ok.mpr hlevel]
    show (ts.mapM d >>= _) = _
    rw [mapM_eq_ok.mpr htrees]
    rfl
  | _ => cases has

theorem Sound.list (h : d.Sound g) : (list d).Sound (Schema.list g) := by
  intro t as has
  cases t with
  | array start level ts stop =>
    obtain ⟨_, hlevel, has⟩ := bind_eq_ok.mp has
    obtain ⟨as', hitems, has⟩ := bind_eq_ok.mp has
    obtain ⟨spot, hstop, has⟩ := bind_eq_ok.mp has
    cases has
    obtain ⟨items, hfull, hg⟩ :=
      exists_between ((mapM_eq_ok.mp hitems).imp (fun _ _ ha => h ha))
    refine ⟨.array items, ?_, mapM_eq_some.mpr hg⟩
    exact Tree.full_array_eq_ok.mpr ⟨Tree.checkLevel_eq_ok.mp hlevel,
      ⟨spot, Tree.closed_eq_ok.mp hstop⟩, items, Tree.fullItems_eq_ok.mpr hfull, rfl⟩
  | _ => cases has

theorem reads_map : map.Reads Schema.members := by
  intro t j ms hfull hms
  cases j with
  | object members =>
    cases hms
    obtain ⟨start, level, ts, spot, rfl, hlevel, hmembers⟩ := Tree.isTreeOf_of_full hfull
    show (Tree.checkLevel start level >>= _) = _
    rw [Tree.checkLevel_eq_ok.mpr hlevel]
    show (Tree.fullMembers ts >>= _) = _
    rw [hmembers]
    rfl
  | _ => cases hms

theorem sound_map : map.Sound Schema.members := by
  intro t ms hms
  cases t with
  | object start level ts stop =>
    obtain ⟨_, hlevel, hms⟩ := bind_eq_ok.mp hms
    obtain ⟨members, hmembers, hms⟩ := bind_eq_ok.mp hms
    obtain ⟨spot, hstop, hms⟩ := bind_eq_ok.mp hms
    cases hms
    exact ⟨.object ms, Tree.full_object_eq_ok.mpr ⟨Tree.checkLevel_eq_ok.mp hlevel,
      ⟨spot, Tree.closed_eq_ok.mp hstop⟩, ms, hmembers, rfl⟩, rfl⟩
  | _ => cases hms

/-- Another reading of the same values. -/
theorem Reads.map {β : Type} (f : α → β) (h : d.Reads g) :
    Reads (fun t => (d t).map f) (fun j => (g j).map f) := by
  intro t j b hfull hb
  obtain ⟨a, ha, rfl⟩ := Option.map_eq_some_iff.mp hb
  simp only [h hfull ha]
  rfl

theorem Sound.map {β : Type} (f : α → β) (h : d.Sound g) :
    Sound (fun t => (d t).map f) (fun j => (g j).map f) := by
  intro t b hb
  obtain ⟨a, ha, rfl⟩ := map_eq_ok.mp hb
  obtain ⟨j, hfull, hj⟩ := h ha
  exact ⟨j, hfull, by simp only [hj, Option.map_some]⟩

/-- Takes the trees whose values the schema has, and no others. -/
structure Denotes (d : Decoder α) (g : Schema α) : Prop where
  reads : d.Reads g
  sound : d.Sound g

theorem denotes_string : string.Denotes Schema.string := ⟨reads_string, sound_string⟩

theorem denotes_map : map.Denotes Schema.members := ⟨reads_map, sound_map⟩

theorem Denotes.list (h : d.Denotes g) : (list d).Denotes (Schema.list g) :=
  ⟨h.reads.list, h.sound.list⟩

theorem Denotes.map {β : Type} (f : α → β) (h : d.Denotes g) :
    Denotes (fun t => (d t).map f) (fun j => (g j).map f) :=
  ⟨h.reads.map f, h.sound.map f⟩

end Decoder

end LuaStubs.Json
