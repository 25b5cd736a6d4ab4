import LuaStubs.Proofs.Keyed
import LuaStubs.Proofs.Json.Schema
import Mathlib.Data.List.Nodup

/-! Decoders of objects.  The members are sorted into those that are asked for and the others; what
the fields make of a record is what their schema makes of the members. -/
namespace LuaStubs.Json

/-- The members with one of these names. -/
def asked (names : List String) (members : List (String × Json)) : List (String × Json) :=
  members.filter (fun m => m.1 ∈ names)

def unasked (names : List String) (members : List (String × Json)) : List (String × Json) :=
  members.filter (fun m => m.1 ∉ names)

section

variable {names : List String} {m : String × Json} (members : List (String × Json))

theorem asked_cons (h : m.1 ∈ names) : asked names (m :: members) = m :: asked names members := by
  simp [asked, h]

theorem asked_cons_of_not_mem (h : m.1 ∉ names) :
    asked names (m :: members) = asked names members := by
  simp [asked, h]

theorem unasked_cons (h : m.1 ∈ names) : unasked names (m :: members) = unasked names members := by
  simp [unasked, h]

theorem unasked_cons_of_not_mem (h : m.1 ∉ names) :
    unasked names (m :: members) = m :: unasked names members := by
  simp [unasked, h]

end

/-- A name and the tree of a member. -/
def Shows (k : String × Tree) (m : String × Json) : Prop := k.1 = m.1 ∧ k.2.full = .ok m.2

/-- The record of an object's members; those not asked for are kept in a close reading. -/
structure Record.Of (close : Bool) (names : List String) (r : Record)
    (members : List (String × Json)) : Prop where
  known : List.Forall₂ Shows r.known (asked names members)
  others : close = true → r.others = unasked names members

theorem value?_asked {names : List String} {name : String} (h : name ∈ names)
    (members : List (String × Json)) : value? name (asked names members) = value? name members := by
  unfold value? Keyed.get? asked
  rw [List.find?_filter]
  congr 2
  funext m
  by_cases hm : m.1 = name
  · simp [hm, h]
  · simp [hm]

theorem find?_shows {ks : List (String × Tree)} {members : List (String × Json)}
    (h : List.Forall₂ Shows ks members) (name : String) :
    (value? name members = none ∧ (ks.find? (fun m => m.1 = name)).map Prod.snd = none) ∨
    ∃ j t, value? name members = some j ∧
      (ks.find? (fun m => m.1 = name)).map Prod.snd = some t ∧ t.full = .ok j := by
  induction h with
  | nil => exact .inl ⟨rfl, rfl⟩
  | @cons k m ks members hkm _ ih =>
    obtain ⟨hname, hfull⟩ := hkm
    by_cases hm : m.1 = name
    · exact .inr ⟨m.2, k.2, by simp [value?, Keyed.get?, hm], by simp [hname, hm], hfull⟩
    · have hvalue : value? name (m :: members) = value? name members := by
        simp [value?, Keyed.get?, hm]
      have hfind : List.find? (fun m => decide (m.1 = name)) (k :: ks) =
          ks.find? (fun m => decide (m.1 = name)) := by simp [hname, hm]
      rw [hvalue, hfind]
      exact ih

/-- A name that is asked for leads to its member. -/
theorem Record.Of.tree? {close : Bool} {names : List String} {r : Record}
    {members : List (String × Json)} (h : r.Of close names members) {name : String}
    (hname : name ∈ names) :
    (value? name members = none ∧ r.tree? name = none) ∨
    ∃ j t, value? name members = some j ∧ r.tree? name = some t ∧ t.full = .ok j := by
  have hfind := find?_shows h.known name
  rwa [value?_asked hname] at hfind

namespace Fields

variable {α β : Type} {names : List String} {close : Bool}

/-- The fields make of a record what the schema makes of the members, and the values of those
members pass the checks. -/
structure Reads (f : Fields α) (close : Bool) (names : List String) (g : MemberSchema α) : Prop where
  check : ∀ s ∈ f.slots, ∀ {members : List (String × Json)} {a : α} {j : Json} {t : Tree},
    g members = some a → value? s.name members = some j → t.full = .ok j → s.check t = .ok ()
  read : ∀ {r : Record} {members : List (String × Json)} {a : α}, r.Of close names members →
    g members = some a → f.read r = .ok a

/-- The fields take no other record, and the checks no tree without a value. -/
structure Sound (f : Fields α) (names : List String) (g : MemberSchema α) : Prop where
  check : ∀ s ∈ f.slots, ∀ {t : Tree}, s.check t = .ok () → ∃ j, t.full = .ok j
  read : ∀ {r : Record} {members : List (String × Json)} {a : α}, r.Of true names members →
    f.read r = .ok a → g members = some a

theorem checking_eq_ok {d : Decoder α} {t : Tree} : checking d t = .ok () ↔ ∃ a, d t = .ok a := by
  unfold checking
  constructor
  · intro h
    obtain ⟨a, ha, -⟩ := bind_eq_ok.mp h
    exact ⟨a, ha⟩
  · rintro ⟨a, ha⟩
    rw [ha]
    rfl

theorem reads_const (a : α) : (const a).Reads close names (fun _ => some a) where
  check s hs := by cases hs
  read _ ha := by
    cases ha
    rfl

theorem sound_const (a : α) : (const a).Sound names (fun _ => some a) where
  check s hs := by cases hs
  read _ ha := by
    cases ha
    rfl

theorem Reads.apply {f : Fields (α → β)} {a : Unit → Fields α} {g : MemberSchema (α → β)}
    {h : MemberSchema α} (hf : f.Reads close names g) (ha : (a ()).Reads close names h) :
    (apply f a).Reads close names (fun members => (g members).bind (fun k => (h members).map k)) where
  check s hs := by
    intro members b j t hb hvalue hfull
    obtain ⟨k, hk, hb⟩ := Option.bind_eq_some_iff.mp hb
    obtain ⟨x, hx, -⟩ := Option.map_eq_some_iff.mp hb
    rcases List.mem_append.mp hs with hs | hs
    · exact hf.check s hs hk hvalue hfull
    · exact ha.check s hs hx hvalue hfull
  read hr hb := by
    obtain ⟨k, hk, hb⟩ := Option.bind_eq_some_iff.mp hb
    obtain ⟨x, hx, rfl⟩ := Option.map_eq_some_iff.mp hb
    simp only [Fields.apply, hf.read hr hk, ha.read hr hx]
    rfl

theorem Sound.apply {f : Fields (α → β)} {a : Unit → Fields α} {g : MemberSchema (α → β)}
    {h : MemberSchema α} (hf : f.Sound names g) (ha : (a ()).Sound names h) :
    (apply f a).Sound names (fun members => (g members).bind (fun k => (h members).map k)) where
  check s hs := by
    rcases List.mem_append.mp hs with hs | hs
    · exact hf.check s hs
    · exact ha.check s hs
  read hr hb := by
    obtain ⟨k, hk, hb⟩ := bind_eq_ok.mp hb
    obtain ⟨x, hx, hb⟩ := bind_eq_ok.mp hb
    cases hb
    simp only [hf.read hr hk, ha.read hr hx, Option.bind_some, Option.map_some]

theorem Reads.map {f : Fields α} {g : MemberSchema α} (k : α → β) (hf : f.Reads close names g) :
    (map k f).Reads close names (fun members => (g members).map k) where
  check s hs := by
    intro members b j t hb hvalue hfull
    obtain ⟨x, hx, -⟩ := Option.map_eq_some_iff.mp hb
    exact hf.check s hs hx hvalue hfull
  read hr hb := by
    obtain ⟨x, hx, rfl⟩ := Option.map_eq_some_iff.mp hb
    simp only [Fields.map, hf.read hr hx]
    rfl

theorem Reads.congr {f : Fields α} {g h : MemberSchema α} (hf : f.Reads close names g)
    (heq : ∀ members, g members = h members) : f.Reads close names h := by
  obtain rfl : g = h := funext heq
  exact hf

theorem Sound.map {f : Fields α} {g : MemberSchema α} (k : α → β) (hf : f.Sound names g) :
    (map k f).Sound names (fun members => (g members).map k) where
  check s hs := hf.check s hs
  read hr hb := by
    obtain ⟨x, hx, rfl⟩ := map_eq_ok.mp hb
    simp only [hf.read hr hx, Option.map_some]

/-! ## Single members -/

theorem reads_required {name : String} (hname : name ∈ names) {d : Decoder α} {g : Schema α}
    (h : d.Reads g) : (required name d).Reads close names (Schema.required name g) where
  check s hs := by
    intro members a j t ha hvalue hfull
    obtain rfl := List.mem_singleton.mp hs
    obtain ⟨j', hj', ha⟩ := Option.bind_eq_some_iff.mp ha
    obtain rfl : j' = j := Option.some.inj (hj'.symm.trans hvalue)
    exact checking_eq_ok.mpr ⟨a, h hfull ha⟩
  read hr ha := by
    obtain ⟨j, hj, ha⟩ := Option.bind_eq_some_iff.mp ha
    rcases hr.tree? hname with ⟨hnone, -⟩ | ⟨j', t, hj', ht, hfull⟩
    · rw [hnone] at hj
      cases hj
    · obtain rfl : j' = j := Option.some.inj (hj'.symm.trans hj)
      simp only [required, ht]
      exact h hfull ha

theorem sound_required {name : String} (hname : name ∈ names) {d : Decoder α} {g : Schema α}
    (h : d.Sound g) : (required name d).Sound names (Schema.required name g) where
  check s hs := by
    intro t ht
    obtain rfl := List.mem_singleton.mp hs
    obtain ⟨a, ha⟩ := checking_eq_ok.mp ht
    obtain ⟨j, hfull, -⟩ := h ha
    exact ⟨j, hfull⟩
  read hr ha := by
    rcases hr.tree? hname with ⟨-, hnone⟩ | ⟨j, t, hj, ht, hfull⟩
    · simp only [required, hnone] at ha
      cases ha
    · simp only [required, ht] at ha
      obtain ⟨j', hfull', ha⟩ := h ha
      obtain rfl : j' = j := Except.ok.inj (hfull'.symm.trans hfull)
      rw [Schema.required, hj]
      exact ha

theorem reads_withDefault {name : String} (hname : name ∈ names) {d : Decoder α} {g : Schema α}
    (h : d.Reads g) (default : α) :
    (withDefault name d default).Reads close names (Schema.withDefault name g default) where
  check s hs := by
    intro members a j t ha hvalue hfull
    obtain rfl := List.mem_singleton.mp hs
    simp only [Schema.withDefault, hvalue] at ha
    exact checking_eq_ok.mpr ⟨a, h hfull ha⟩
  read hr ha := by
    rcases hr.tree? hname with ⟨hnone, htree⟩ | ⟨j, t, hj, ht, hfull⟩
    · simp only [Schema.withDefault, hnone] at ha
      cases ha
      simp only [withDefault, htree]
    · simp only [Schema.withDefault, hj] at ha
      simp only [withDefault, ht]
      exact h hfull ha

theorem sound_withDefault {name : String} (hname : name ∈ names) {d : Decoder α} {g : Schema α}
    (h : d.Sound g) (default : α) :
    (withDefault name d default).Sound names (Schema.withDefault name g default) where
  check s hs := by
    intro t ht
    obtain rfl := List.mem_singleton.mp hs
    obtain ⟨a, ha⟩ := checking_eq_ok.mp ht
    obtain ⟨j, hfull, -⟩ := h ha
    exact ⟨j, hfull⟩
  read hr ha := by
    rcases hr.tree? hname with ⟨hnone, htree⟩ | ⟨j, t, hj, ht, hfull⟩
    · simp only [withDefault, htree] at ha
      cases ha
      simp only [Schema.withDefault, hnone]
    · simp only [withDefault, ht] at ha
      obtain ⟨j', hfull', ha⟩ := h ha
      obtain rfl : j' = j := Except.ok.inj (hfull'.symm.trans hfull)
      simp only [Schema.withDefault, hj, ha]

theorem reads_optional {name : String} (hname : name ∈ names) {d : Decoder α} {g : Schema α}
    (h : d.Reads g) : (optional name d).Reads close names (Schema.optional name g) :=
  reads_withDefault hname h.nullable none

theorem sound_optional {name : String} (hname : name ∈ names) {d : Decoder α} {g : Schema α}
    (h : d.Sound g) : (optional name d).Sound names (Schema.optional name g) :=
  sound_withDefault hname h.nullable none

/-! ## Objects -/

def slotNames (f : Fields α) : List String := f.slots.map Slot.name

theorem slot?_eq_some {f : Fields α} {name : String} {s : Slot} (h : f.slot? name = some s) :
    s ∈ f.slots ∧ s.name = name :=
  ⟨List.mem_of_find?_eq_some h, by simpa using List.find?_some h⟩

theorem slot?_eq_none {f : Fields α} {name : String} :
    f.slot? name = none ↔ name ∉ f.slotNames := by
  simp [slot?, slotNames]

theorem exists_slot {f : Fields α} {name : String} (h : name ∈ f.slotNames) :
    ∃ s, f.slot? name = some s := by
  cases hs : f.slot? name with
  | some s => exact ⟨s, rfl⟩
  | none => exact absurd h (slot?_eq_none.mp hs)

theorem any_name_eq_false {known : List (String × Tree)} {name : String} :
    known.any (fun m => m.1 = name) = false ↔ name ∉ known.map Prod.fst := by
  constructor
  · intro h hmem
    obtain ⟨m, hm, rfl⟩ := List.mem_map.mp hmem
    simpa using List.any_eq_false.mp h m hm
  · intro h
    refine List.any_eq_false.mpr (fun m hm hname => h ?_)
    rw [← of_decide_eq_true hname]
    exact List.mem_map_of_mem hm

/-- Members that are all in order are sorted, provided that no name that is asked for repeats. -/
theorem collect_of_stands {f : Fields α} {other : Tree → Except Problem (Option Json)}
    (hother : ∀ {t j}, t.full = .ok j → other t = .ok (if close then some j else none))
    {ms : List (Key × Tree)} {members : List (String × Json)}
    (hms : List.Forall₂ Tree.Stands ms members)
    (hcheck : ∀ m ∈ asked f.slotNames members, ∀ s ∈ f.slots, s.name = m.1 →
      ∀ {t}, t.full = .ok m.2 → s.check t = .ok ())
    (known : List (String × Tree)) (others : List (String × Json))
    (hnodup : (known.map Prod.fst ++ (asked f.slotNames members).map Prod.fst).Nodup) :
    ∃ ks os, collect f other known others ms = .ok (known ++ ks, os) ∧
      List.Forall₂ Shows ks (asked f.slotNames members) ∧
      (close = true → os = others ++ unasked f.slotNames members) := by
  induction hms generalizing known others with
  | nil => exact ⟨[], others, by simp [collect], .nil, by simp [unasked]⟩
  | @cons k m ms members hkm hms ih =>
    obtain ⟨key, t⟩ := k
    obtain ⟨name, j⟩ := m
    obtain ⟨hkey, hfull⟩ := hkm
    simp only at hkey hfull
    by_cases hname : name ∈ f.slotNames
    · rw [asked_cons members hname] at hcheck hnodup ⊢
      rw [unasked_cons members hname]
      obtain ⟨s, hs⟩ := exists_slot hname
      obtain ⟨hmem, hsname⟩ := slot?_eq_some hs
      have hpass : s.check t = .ok () := hcheck (name, j) List.mem_cons_self s hmem hsname hfull
      have hfresh : name ∉ known.map Prod.fst := fun hmem =>
        (List.nodup_append.mp hnodup).2.2 name hmem name List.mem_cons_self rfl
      have hnew := any_name_eq_false.mpr hfresh
      obtain ⟨ks, os, hcollect, hks, hos⟩ := ih
        (fun m hm => hcheck m (List.mem_cons_of_mem _ hm)) (known ++ [(name, t)]) others
        (by simpa using hnodup)
      refine ⟨(name, t) :: ks, os, ?_, .cons ⟨rfl, hfull⟩ hks, hos⟩
      simp only [collect, hkey, hs, hnew, hpass, bind, Except.bind]
      simpa using hcollect
    · rw [asked_cons_of_not_mem members hname] at hcheck hnodup ⊢
      rw [unasked_cons_of_not_mem members hname]
      have hs : f.slot? name = none := slot?_eq_none.mpr hname
      cases close with
      | true =>
        obtain ⟨ks, os, hcollect, hks, hos⟩ := ih hcheck known (others ++ [(name, j)]) hnodup
        refine ⟨ks, os, ?_, hks, fun hclose => by simpa using hos hclose⟩
        simp only [collect, hkey, hs, hother hfull, bind, Except.bind]
        exact hcollect
      | false =>
        obtain ⟨ks, os, hcollect, hks, -⟩ := ih hcheck known others hnodup
        refine ⟨ks, os, ?_, hks, fun hclose => nomatch hclose⟩
        simp only [collect, hkey, hs, hother hfull, bind, Except.bind]
        exact hcollect

/-- Members that have been sorted in a close reading are all in order, and no name that is asked for
repeats. -/
theorem stands_of_collect {f : Fields α}
    (hcheck : ∀ s ∈ f.slots, ∀ {t}, s.check t = .ok () → ∃ j, t.full = .ok j)
    {known known' : List (String × Tree)} {others others' : List (String × Json)}
    {ms : List (Key × Tree)} (hknown : (known.map Prod.fst).Nodup)
    (h : collect f (fun t => t.full.map some) known others ms = .ok (known', others')) :
    ∃ members ks, List.Forall₂ Tree.Stands ms members ∧ known' = known ++ ks ∧
      List.Forall₂ Shows ks (asked f.slotNames members) ∧
      others' = others ++ unasked f.slotNames members ∧ (known'.map Prod.fst).Nodup := by
  induction ms generalizing known others with
  | nil =>
    cases h
    exact ⟨[], [], .nil, by simp, .nil, by simp [unasked], hknown⟩
  | cons m ms ih =>
    obtain ⟨key, t⟩ := m
    obtain ⟨name, hkey, h⟩ := bind_eq_ok.mp h
    cases hs : f.slot? name with
    | some s =>
      obtain ⟨hmem, hsname⟩ := slot?_eq_some hs
      have hname : name ∈ f.slotNames := hsname ▸ List.mem_map_of_mem hmem
      simp only [hs] at h
      cases hnew : known.any (fun m => m.1 = name) with
      | true => simp only [hnew, if_true] at h; cases h
      | false =>
        simp only [hnew] at h
        obtain ⟨_, hpass, h⟩ := bind_eq_ok.mp h
        obtain ⟨j, hfull⟩ := hcheck s hmem hpass
        have hknown' : ((known ++ [(name, t)]).map Prod.fst).Nodup := by
          have hconcat := List.Nodup.concat (any_name_eq_false.mp hnew) hknown
          rw [List.concat_eq_append] at hconcat
          rwa [List.map_append]
        obtain ⟨members, ks, hms, hks, hshows, hothers, hnodup⟩ := ih hknown' h
        refine ⟨(name, j) :: members, (name, t) :: ks, .cons ⟨hkey, hfull⟩ hms, ?_, ?_, ?_, hnodup⟩
        · rw [hks, List.append_assoc]
          rfl
        · rw [asked_cons members hname]
          exact .cons ⟨rfl, hfull⟩ hshows
        · rw [unasked_cons members hname]
          exact hothers
    | none =>
      have hname : name ∉ f.slotNames := slot?_eq_none.mp hs
      simp only [hs] at h
      obtain ⟨o, ho, h⟩ := bind_eq_ok.mp h
      obtain ⟨j, hfull, rfl⟩ := map_eq_ok.mp ho
      obtain ⟨members, ks, hms, hks, hshows, hothers, hnodup⟩ := ih hknown h
      refine ⟨(name, j) :: members, ks, .cons ⟨hkey, hfull⟩ hms, hks, ?_, ?_, hnodup⟩
      · rw [asked_cons_of_not_mem members hname]
        exact hshows
      · rw [unasked_cons_of_not_mem members hname, hothers, List.append_assoc]
        rfl

theorem map_fst_shows {ks : List (String × Tree)} {members : List (String × Json)}
    (h : List.Forall₂ Shows ks members) : ks.map Prod.fst = members.map Prod.fst := by
  induction h with
  | nil => rfl
  | cons hkm _ ih => rw [List.map_cons, List.map_cons, hkm.1, ih]

theorem nodup_asked {names : List String} {members : List (String × Json)} :
    ((asked names members).map Prod.fst).Nodup ↔ Unrepeated names members := by
  have hasked : (asked names members).map Prod.fst =
      (members.map Prod.fst).filter (fun name => name ∈ names) := by
    rw [asked, List.filter_map]
    rfl
  rw [hasked, List.nodup_iff_count]
  constructor
  · intro h name hname
    have hcount := h name
    rwa [List.count_filter (by simpa using hname)] at hcount
  · intro h name
    by_cases hname : name ∈ names
    · rw [List.count_filter (by simpa using hname)]
      exact h name hname
    · rw [List.count_eq_zero_of_not_mem (by simp [hname])]
      exact Nat.zero_le 1

/-- A name that does not repeat leads to its member. -/
theorem value?_of_mem {members : List (String × Json)} (h : (members.map Prod.fst).Nodup)
    {m : String × Json} (hm : m ∈ members) : value? m.1 members = some m.2 := by
  rw [value?, Keyed.get?_of_mem Prod.fst h hm]
  rfl

section

variable {f : Fields α} {g : MemberSchema α}

/-- An object whose members the schema takes. -/
theorem Reads.ofObject (h : f.Reads close f.slotNames g)
    {other : Tree → Except Problem (Option Json)}
    (hother : ∀ {t j}, t.full = .ok j → other t = .ok (if close then some j else none))
    {ms : List (Key × Tree)} {members : List (String × Json)}
    (hms : List.Forall₂ Tree.Stands ms members)
    (hnodup : ((asked f.slotNames members).map Prod.fst).Nodup) {a : α} (ha : g members = some a)
    {start spot : Spot} {level : Nat} (hlevel : level ≤ Tree.maxLevel) :
    f.ofObject other start level ms (.ok spot) = .ok a := by
  have hcheck : ∀ m ∈ asked f.slotNames members, ∀ s ∈ f.slots, s.name = m.1 →
      ∀ {t}, t.full = .ok m.2 → s.check t = .ok () := by
    intro m hm s hs hname t hfull
    have hvalue := value?_of_mem hnodup hm
    rw [value?_asked (hname ▸ List.mem_map_of_mem hs), ← hname] at hvalue
    exact h.check s hs ha hvalue hfull
  obtain ⟨ks, os, hcollect, hks, hos⟩ := collect_of_stands hother hms hcheck [] [] hnodup
  have hof : Record.Of close f.slotNames ⟨ks, os, spot⟩ members := ⟨hks, hos⟩
  unfold Fields.ofObject
  rw [Tree.checkLevel_eq_ok.mpr hlevel]
  show (collect f other [] [] ms >>= _) = _
  rw [hcollect]
  exact h.read hof ha

theorem Reads.decoder (h : f.Reads true f.slotNames g) (name : String) :
    (f.decoder name).Reads (Schema.object f.slotNames g) := by
  intro t j a hfull ha
  cases j with
  | object members =>
    obtain ⟨start, level, ms, spot, rfl, hlevel, hms⟩ := Tree.isTreeOf_of_full hfull
    obtain ⟨hnodup, ha⟩ := Schema.object_eq_some.mp ha
    refine h.ofObject ?_ (Tree.fullMembers_eq_ok.mp hms) (nodup_asked.mpr hnodup) ha hlevel
    intro t j hfull
    rw [hfull]
    rfl
  | _ => cases ha

theorem Sound.decoder (h : f.Sound f.slotNames g) (name : String) :
    (f.decoder name).Sound (Schema.object f.slotNames g) := by
  intro t a ha
  cases t with
  | object start level ms stop =>
    obtain ⟨_, hlevel, ha⟩ := bind_eq_ok.mp ha
    obtain ⟨⟨known, others⟩, hcollect, ha⟩ := bind_eq_ok.mp ha
    obtain ⟨spot, hstop, ha⟩ := bind_eq_ok.mp ha
    obtain ⟨members, ks, hms, hknown, hks, hothers, hnodup⟩ :=
      stands_of_collect h.check (by simp) hcollect
    obtain rfl : known = ks := hknown
    refine ⟨.object members, ?_, ?_⟩
    · exact Tree.full_object_eq_ok.mpr ⟨Tree.checkLevel_eq_ok.mp hlevel,
        ⟨spot, Tree.closed_eq_ok.mp hstop⟩, members, Tree.fullMembers_eq_ok.mpr hms, rfl⟩
    · have hof : Record.Of true f.slotNames ⟨known, others, spot⟩ members := ⟨hks, fun _ => hothers⟩
      rw [map_fst_shows hks, nodup_asked] at hnodup
      exact Schema.object_eq_some.mpr ⟨hnodup, h.read hof ha⟩
  | _ => cases ha

end

/-! ## Both directions -/

/-- The fields take the records of the members that the schema takes, and no others. -/
structure Denotes (f : Fields α) (names : List String) (g : MemberSchema α) : Prop where
  reads : f.Reads true names g
  sound : f.Sound names g

theorem Denotes.congr {f : Fields α} {g h : MemberSchema α} (hf : f.Denotes names g)
    (heq : ∀ members, g members = h members) : f.Denotes names h := by
  obtain rfl : g = h := funext heq
  exact hf

theorem denotes_const (a : α) : (const a).Denotes names (fun _ => some a) :=
  ⟨reads_const a, sound_const a⟩

theorem Denotes.apply {f : Fields (α → β)} {a : Unit → Fields α} {g : MemberSchema (α → β)}
    {h : MemberSchema α} (hf : f.Denotes names g) (ha : (a ()).Denotes names h) :
    (apply f a).Denotes names (fun members => (g members).bind (fun k => (h members).map k)) :=
  ⟨hf.reads.apply ha.reads, hf.sound.apply ha.sound⟩

theorem Denotes.map {f : Fields α} {g : MemberSchema α} (k : α → β) (hf : f.Denotes names g) :
    (map k f).Denotes names (fun members => (g members).map k) :=
  ⟨hf.reads.map k, hf.sound.map k⟩

section

variable {name : String} (hname : name ∈ names) {d : Decoder α} {g : Schema α} (h : d.Denotes g)
include hname h

theorem denotes_required : (required name d).Denotes names (Schema.required name g) :=
  ⟨reads_required hname h.reads, sound_required hname h.sound⟩

theorem denotes_withDefault (default : α) :
    (withDefault name d default).Denotes names (Schema.withDefault name g default) :=
  ⟨reads_withDefault hname h.reads default, sound_withDefault hname h.sound default⟩

theorem denotes_optional : (optional name d).Denotes names (Schema.optional name g) :=
  ⟨reads_optional hname h.reads, sound_optional hname h.sound⟩

end

theorem Denotes.decoder {f : Fields α} {g : MemberSchema α} (h : f.Denotes f.slotNames g)
    (name : String) : (f.decoder name).Denotes (Schema.object f.slotNames g) :=
  ⟨h.reads.decoder name, h.sound.decoder name⟩

end Fields

end LuaStubs.Json
