import LuaStubs.Proofs.Json.Fields
import LuaStubs.Proofs.Json.Layout

/-! Skimming finds nothing wrong where a close reading does not, so decoders that skim what they do
not ask for read the same objects as those that keep it. -/
namespace LuaStubs.Json

namespace Tree

theorem skimItems_eq_ok {ts : List Tree} (h : ∀ t ∈ ts, t.skim = .ok ()) :
    skimItems ts = .ok () := by
  induction ts with
  | nil => rfl
  | cons t ts ih =>
    obtain ⟨ht, hts⟩ := List.forall_mem_cons.mp h
    rw [skimItems, ht]
    exact ih hts

theorem skimMembers_eq_ok {ms : List (Key × Tree)} (h : ∀ m ∈ ms, m.2.skim = .ok ()) :
    skimMembers ms = .ok () := by
  induction ms with
  | nil => rfl
  | cons m ms ih =>
    obtain ⟨key, t⟩ := m
    obtain ⟨ht, hms⟩ := List.forall_mem_cons.mp h
    rw [skimMembers, show t.skim = .ok () from ht]
    exact ih hms

theorem skim_of_full {t : Tree} {j : Json} (h : t.full = .ok j) : t.skim = .ok () := by
  induction j using Json.induction generalizing t with
  | null =>
    obtain ⟨start, stop, rfl⟩ := isTreeOf_of_full h
    rfl
  | bool b =>
    obtain ⟨start, stop, rfl⟩ := isTreeOf_of_full h
    rfl
  | number n =>
    obtain ⟨start, stop, rfl⟩ := isTreeOf_of_full h
    rfl
  | string s =>
    obtain ⟨start, stop, rfl⟩ := isTreeOf_of_full h
    rfl
  | array items ih =>
    obtain ⟨start, level, ts, spot, rfl, -, hitems⟩ := isTreeOf_of_full h
    have hall : ∀ t ∈ ts, t.skim = .ok () := by
      intro t ht
      obtain ⟨j, hj, hfull⟩ := exists_of_forall₂ (fullItems_eq_ok.mp hitems) t ht
      exact ih j hj hfull
    rw [skim, skimItems_eq_ok hall]
    rfl
  | object members ih =>
    obtain ⟨start, level, ms, spot, rfl, -, hmembers⟩ := isTreeOf_of_full h
    have hall : ∀ m ∈ ms, m.2.skim = .ok () := by
      intro m hm
      obtain ⟨n, hn, -, hfull⟩ := exists_of_forall₂ (fullMembers_eq_ok.mp hmembers) m hm
      exact ih n hn hfull
    rw [skim, skimMembers_eq_ok hall]
    rfl

end Tree

theorem Decoder.reads_bool : Decoder.bool.Reads Schema.bool := by
  intro t j b hfull hb
  cases j with
  | bool b' =>
    cases hb
    obtain ⟨start, stop, rfl⟩ := Tree.isTreeOf_of_full hfull
    rfl
  | _ => cases hb

namespace Fields

variable {α : Type} {names : List String} {close : Bool}

/-- In an object such a member is an optional one. -/
theorem reads_optionalMember {name : String} (hname : name ∈ names) {d : Decoder α}
    {g : Schema α} (h : d.Reads g) :
    (optionalMember name d).Reads close names (Schema.optional name g) :=
  have hoptional : (optional name d).Reads close names (Schema.optional name g) :=
    reads_optional hname h
  ⟨fun s hs => by
    obtain rfl := List.mem_singleton.mp hs
    exact hoptional.check _ (List.mem_singleton_self _), hoptional.read⟩

theorem Reads.looseDecoder {f : Fields α} {g : MemberSchema α} (h : f.Reads false f.slotNames g)
    (name : String) : (f.looseDecoder name).Reads (Schema.object f.slotNames g) := by
  intro t j a hfull ha
  cases j with
  | object members =>
    obtain ⟨start, level, ms, spot, rfl, hlevel, hms⟩ := Tree.isTreeOf_of_full hfull
    obtain ⟨hnodup, ha⟩ := Schema.object_eq_some.mp ha
    refine h.ofObject ?_ (Tree.fullMembers_eq_ok.mp hms) (nodup_asked.mpr hnodup) ha hlevel
    intro t j hfull
    rw [Tree.skim_of_full hfull]
    rfl
  | _ => cases ha

theorem positions_eq_ok {total : Nat} {name : String} {spot : Spot} {slots : List Slot}
    {items : List Tree} (hlength : items.length = slots.length)
    (hcheck : ∀ p ∈ slots.zip items, p.1.check p.2 = .ok ()) (known : List (String × Tree)) :
    positions total name (.ok spot) known slots items =
      .ok (known ++ (slots.map Slot.name).zip items, spot) := by
  induction slots generalizing known items with
  | nil =>
    obtain rfl := List.eq_nil_of_length_eq_zero hlength
    rw [List.map_nil, List.zip_nil_left, List.append_nil]
    rfl
  | cons s slots ih =>
    cases items with
    | nil => cases hlength
    | cons t items =>
      obtain ⟨hs, hslots⟩ := List.forall_mem_cons.mp hcheck
      have hrest := ih (Nat.succ.inj hlength) hslots (known ++ [(s.name, t)])
      rw [positions, show s.check t = .ok () from hs]
      rw [List.append_assoc] at hrest
      exact hrest

theorem forall₂_shows_zip {ts : List Tree} {js : List Json}
    (h : List.Forall₂ (fun t j => t.full = .ok j) ts js) (names : List String) :
    List.Forall₂ Shows (names.zip ts) (names.zip js) := by
  induction h generalizing names with
  | nil => simp
  | cons hj _ ih =>
    cases names with
    | nil => exact .nil
    | cons name names => exact .cons ⟨rfl, hj⟩ (ih names)

/-- A list of values is read as the object that has them under the names of the slots. -/
theorem Reads.looseDecoder_list {f : Fields α} {g : MemberSchema α}
    (h : f.Reads false f.slotNames g) (hnodup : f.slotNames.Nodup) (name : String) {t : Tree}
    {js : List Json} {a : α} (hfull : t.full = .ok (.array js)) (hlength : js.length = f.slots.length)
    (ha : g (f.slotNames.zip js) = some a) : f.looseDecoder name t = .ok a := by
  obtain ⟨start, level, ts, spot, rfl, hlevel, hitems⟩ := Tree.isTreeOf_of_full hfull
  have hstands := Tree.fullItems_eq_ok.mp hitems
  have hts : ts.length = f.slots.length := hstands.length_eq.trans hlength
  have hnames : (f.slotNames.zip js).map Prod.fst = f.slotNames :=
    List.map_fst_zip (by rw [slotNames, List.length_map]; exact Nat.le_of_eq hlength.symm)
  have hcheck : ∀ p ∈ f.slots.zip ts, p.1.check p.2 = .ok () := by
    intro p hp
    obtain ⟨i, hi, rfl⟩ := List.getElem_of_mem hp
    rw [List.length_zip] at hi
    rw [List.getElem_zip]
    have hmem : (f.slots[i].name, js[i]) ∈ f.slotNames.zip js := by
      refine List.mem_iff_getElem.mpr ⟨i, by simp [slotNames]; omega, ?_⟩
      simp [slotNames]
    have hvalue := value?_of_mem (by rw [hnames]; exact hnodup) hmem
    exact h.check _ (List.getElem_mem _) ha hvalue (hstands.get (by omega) (by omega))
  have hasked : asked f.slotNames (f.slotNames.zip js) = f.slotNames.zip js :=
    List.filter_eq_self.mpr (fun m hm => by simpa using (List.of_mem_zip hm).1)
  have hof : Record.Of false f.slotNames ⟨f.slotNames.zip ts, [], spot⟩ (f.slotNames.zip js) :=
    ⟨by rw [hasked]; exact forall₂_shows_zip hstands _, fun hclose => absurd hclose (by decide)⟩
  unfold Fields.looseDecoder
  dsimp only
  rw [Tree.checkLevel_eq_ok.mpr hlevel]
  show (positions f.slots.length name (.ok spot) [] f.slots ts >>= _) = _
  rw [positions_eq_ok hts hcheck]
  exact h.read hof ha

end Fields

end LuaStubs.Json
