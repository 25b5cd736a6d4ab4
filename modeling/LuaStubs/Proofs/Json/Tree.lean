import LuaStubs.Proofs.Results
import LuaStubs.Json.Tree

/-! The trees of texts that are in order throughout. -/
namespace LuaStubs.Json.Tree

theorem fullItems_eq_ok {ts : List Tree} {items : List Json} :
    fullItems ts = .ok items ↔ List.Forall₂ (fun t j => t.full = .ok j) ts items := by
  induction ts generalizing items with
  | nil => simp [fullItems, eq_comm]
  | cons t ts ih =>
    rw [fullItems]
    constructor
    · intro h
      obtain ⟨j, hj, h⟩ := bind_eq_ok.mp h
      obtain ⟨js, hjs, h⟩ := bind_eq_ok.mp h
      cases h
      exact .cons hj (ih.mp hjs)
    · intro h
      cases h with
      | cons hj hjs => rw [hj, ih.mpr hjs]; rfl

/-- A member and the tree it stands for. -/
def Stands (m : Key × Tree) (n : String × Json) : Prop := m.1.text = .ok n.1 ∧ m.2.full = .ok n.2

theorem fullMembers_eq_ok {ms : List (Key × Tree)} {members : List (String × Json)} :
    fullMembers ms = .ok members ↔ List.Forall₂ Stands ms members := by
  induction ms generalizing members with
  | nil => simp [fullMembers, eq_comm]
  | cons m ms ih =>
    obtain ⟨key, t⟩ := m
    rw [fullMembers]
    constructor
    · intro h
      obtain ⟨name, hname, h⟩ := bind_eq_ok.mp h
      obtain ⟨j, hj, h⟩ := bind_eq_ok.mp h
      obtain ⟨rest, hrest, h⟩ := bind_eq_ok.mp h
      cases h
      exact .cons ⟨hname, hj⟩ (ih.mp hrest)
    · intro h
      cases h with
      | @cons _ n _ rest hn hrest =>
        obtain ⟨name, j⟩ := n
        obtain ⟨hname, hj⟩ := hn
        simp only at hname hj
        rw [hname, hj, ih.mpr hrest]
        rfl

theorem checkLevel_eq_ok {start : Spot} {level : Nat} :
    checkLevel start level = .ok () ↔ level ≤ maxLevel := by
  unfold checkLevel
  split
  · next h => exact ⟨fun h' => (nomatch h'), fun h' => absurd h (by omega)⟩
  · next h => exact ⟨fun _ => by omega, fun _ => rfl⟩

theorem closed_eq_ok {stop : Except Fault Spot} {spot : Spot} :
    closed stop = .ok spot ↔ stop = .ok spot := mapError_eq_ok

theorem full_array_eq_ok {start : Spot} {level : Nat} {ts : List Tree} {stop : Except Fault Spot}
    {j : Json} :
    full (.array start level ts stop) = .ok j ↔
      level ≤ maxLevel ∧ (∃ spot, stop = .ok spot) ∧
        ∃ items, fullItems ts = .ok items ∧ j = .array items := by
  rw [full]
  constructor
  · intro h
    obtain ⟨_, hlevel, h⟩ := bind_eq_ok.mp h
    obtain ⟨items, hitems, h⟩ := bind_eq_ok.mp h
    obtain ⟨spot, hstop, h⟩ := bind_eq_ok.mp h
    cases h
    exact ⟨checkLevel_eq_ok.mp hlevel, ⟨spot, closed_eq_ok.mp hstop⟩, items, hitems, rfl⟩
  · rintro ⟨hlevel, ⟨spot, rfl⟩, items, hitems, rfl⟩
    rw [checkLevel_eq_ok.mpr hlevel, hitems]
    rfl

theorem full_object_eq_ok {start : Spot} {level : Nat} {ms : List (Key × Tree)}
    {stop : Except Fault Spot} {j : Json} :
    full (.object start level ms stop) = .ok j ↔
      level ≤ maxLevel ∧ (∃ spot, stop = .ok spot) ∧
        ∃ members, fullMembers ms = .ok members ∧ j = .object members := by
  rw [full]
  constructor
  · intro h
    obtain ⟨_, hlevel, h⟩ := bind_eq_ok.mp h
    obtain ⟨members, hmembers, h⟩ := bind_eq_ok.mp h
    obtain ⟨spot, hstop, h⟩ := bind_eq_ok.mp h
    cases h
    exact ⟨checkLevel_eq_ok.mp hlevel, ⟨spot, closed_eq_ok.mp hstop⟩, members, hmembers, rfl⟩
  · rintro ⟨hlevel, ⟨spot, rfl⟩, members, hmembers, rfl⟩
    rw [checkLevel_eq_ok.mpr hlevel, hmembers]
    rfl

/-! ## Trees by their values -/

/-- What the tree of a value is. -/
def IsTreeOf (t : Tree) : Json → Prop
  | .null => ∃ start stop, t = .null start stop
  | .bool b => ∃ start stop, t = .bool start stop b
  | .number n => ∃ start stop, t = .number start stop (.ok n)
  | .string s => ∃ start stop, t = .string start stop (.ok s)
  | .array items => ∃ start level ts spot, t = .array start level ts (.ok spot) ∧
      level ≤ maxLevel ∧ fullItems ts = .ok items
  | .object members => ∃ start level ms spot, t = .object start level ms (.ok spot) ∧
      level ≤ maxLevel ∧ fullMembers ms = .ok members

theorem isTreeOf_of_full {t : Tree} {j : Json} (h : t.full = .ok j) : t.IsTreeOf j := by
  cases t with
  | null start stop =>
    cases h
    exact ⟨start, stop, rfl⟩
  | bool start stop b =>
    cases h
    exact ⟨start, stop, rfl⟩
  | number start stop v =>
    obtain ⟨n, rfl, rfl⟩ := map_eq_ok.mp h
    exact ⟨start, stop, rfl⟩
  | string start stop v =>
    obtain ⟨s, rfl, rfl⟩ := map_eq_ok.mp h
    exact ⟨start, stop, rfl⟩
  | array start level ts stop =>
    obtain ⟨hlevel, ⟨spot, rfl⟩, items, hitems, rfl⟩ := full_array_eq_ok.mp h
    exact ⟨start, level, ts, spot, rfl, hlevel, hitems⟩
  | object start level ms stop =>
    obtain ⟨hlevel, ⟨spot, rfl⟩, members, hmembers, rfl⟩ := full_object_eq_ok.mp h
    exact ⟨start, level, ms, spot, rfl, hlevel, hmembers⟩
  | broken => cases h

end LuaStubs.Json.Tree
