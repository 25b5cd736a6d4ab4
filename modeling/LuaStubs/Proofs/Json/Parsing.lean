import LuaStubs.Proofs.Json.Reading
import LuaStubs.Proofs.Json.Schema

/-! Only texts of the grammar are read: what a tree stands for is spelled by the text that it has
been read from. -/
namespace LuaStubs.Json

theorem Cursor.exists_skipBlanks (c : Cursor) :
    ∃ gap, Blank gap ∧ c.rest = gap ++ c.skipBlanks.rest := by
  obtain ⟨rest, p⟩ := c
  unfold skipBlanks
  dsimp only
  induction rest generalizing p with
  | nil => exact ⟨[], blank_nil, rfl⟩
  | cons x xs ih =>
    by_cases hx : isBlank x = true
    · obtain ⟨gap, hgap, hrest⟩ := ih (p.after x)
      refine ⟨x :: gap, List.forall_mem_cons.mpr ⟨hx, hgap⟩, ?_⟩
      rw [skipBlanks.go, if_pos hx, List.cons_append, ← hrest]
    · exact ⟨[], blank_nil, by rw [skipBlanks.go, if_neg hx]; rfl⟩

theorem Cursor.next_rest {c : Cursor} {x : Char} {xs : List Char} (h : c.rest = x :: xs) :
    c.next.rest = xs := by
  unfold next
  rw [h]

namespace Tree

/-! ## Values and entries of a text -/

/-- A text that begins with blanks and a spelled value, and goes on with `tail`. -/
def Takes (level : Nat) (cs : List Char) (j : Json) (tail : List Char) : Prop :=
  ∃ gap body, Blank gap ∧ Spells (maxLevel - level) body j ∧ cs = gap ++ (body ++ tail)

theorem takes_of_skipBlanks {level : Nat} {c : Cursor} {body tail : List Char} {j : Json}
    (h : Spells (maxLevel - level) body j) (hc : c.skipBlanks.rest = body ++ tail) :
    Takes level c.rest j tail := by
  obtain ⟨gap, hgap, hrest⟩ := c.exists_skipBlanks
  exact ⟨gap, body, hgap, h, by rw [hrest, hc]⟩

theorem Takes.of_skipBlanks {level : Nat} {c : Cursor} {j : Json} {tail : List Char}
    (h : Takes level c.skipBlanks.rest j tail) : Takes level c.rest j tail := by
  obtain ⟨gap, hgap, hrest⟩ := c.exists_skipBlanks
  obtain ⟨gap', body, hgap', hbody, hc⟩ := h
  exact ⟨gap ++ gap', body, hgap.append hgap', hbody, by rw [hrest, hc, List.append_assoc]⟩

/-- A text that begins with entries, which commas part, and their closing bracket. -/
def Entries {α β : Type} (holds : α → Prop) (chars : α → List Char) (value : α → β) (close : Char)
    (cs : List Char) (values : List β) (tail : List Char) : Prop :=
  ∃ es : List α, es ≠ [] ∧ (∀ e ∈ es, holds e) ∧ es.map value = values ∧
    cs = [','].intercalate (es.map chars) ++ close :: tail

section Entries

variable {α β : Type} {holds : α → Prop} {chars : α → List Char} {value : α → β} {close : Char}
  {e : α} {tail : List Char}

theorem entries_last (he : holds e) :
    Entries holds chars value close (chars e ++ close :: tail) [value e] tail :=
  ⟨[e], by simp, by simpa using he, rfl, by simp⟩

theorem Entries.cons (he : holds e) {cs : List Char} {values : List β}
    (h : Entries holds chars value close cs values tail) :
    Entries holds chars value close (chars e ++ ',' :: cs) (value e :: values) tail := by
  obtain ⟨es, hne, hes, rfl, rfl⟩ := h
  refine ⟨e :: es, by simp, List.forall_mem_cons.mpr ⟨he, hes⟩, rfl, ?_⟩
  rw [List.map_cons, List.intercalate_cons_of_ne_nil (by simpa using hne)]
  simp

end Entries

def IsItem (level : Nat) (p : Padded) : Prop := p.IsPadded ∧ Spells (maxLevel - level) p.body p.value

def IsMember (level : Nat) (m : Labelled) : Prop :=
  m.IsLabelled ∧ Spells (maxLevel - level) m.item.body m.item.value

/-- A text of items up to their closing bracket. -/
def TakesItems (level : Nat) : List Char → List Json → List Char → Prop :=
  Entries (IsItem level) Padded.chars Padded.value ']'

def TakesMembers (level : Nat) : List Char → List (String × Json) → List Char → Prop :=
  Entries (IsMember level) Labelled.chars Labelled.member '\x7d'

/-- A value and the blanks behind it make an item. -/
theorem Takes.exists_item {level : Nat} {cs : List Char} {j : Json} {c : Cursor}
    (h : Takes level cs j c.rest) :
    ∃ p, IsItem level p ∧ p.value = j ∧ cs = p.chars ++ c.skipBlanks.rest := by
  obtain ⟨gap, body, hgap, hbody, rfl⟩ := h
  obtain ⟨after, hafter, hrest⟩ := c.exists_skipBlanks
  refine ⟨⟨gap, body, after, j⟩, ⟨⟨hgap, hafter⟩, hbody⟩, rfl, ?_⟩
  rw [hrest, Padded.chars, List.append_assoc, List.append_assoc]

/-- A name, a colon and an item make a member. -/
theorem exists_member {level : Nat} {c d : Cursor} {name : String} {xs ys tail : List Char}
    (hquote : c.skipBlanks.rest = '"' :: xs)
    (hname : readString c.skipBlanks.next = .ok (.ok name, d))
    (hcolon : d.skipBlanks.rest = ':' :: ys) {p : Padded} (hp : IsItem level p)
    (hitem : ys = p.chars ++ tail) :
    ∃ m, IsMember level m ∧ m.member = (name, p.value) ∧ c.rest = m.chars ++ tail := by
  obtain ⟨before, hbefore, hc⟩ := c.exists_skipBlanks
  obtain ⟨ws, hws, hspells⟩ := spelled_of_readString hname
  obtain ⟨between, hbetween, hd⟩ := d.exists_skipBlanks
  rw [Cursor.next_rest hquote] at hws
  refine ⟨⟨before, ws, name, between, p⟩, ⟨⟨hbefore, hbetween, hspells, hp.1⟩, hp.2⟩, rfl, ?_⟩
  rw [hc, hquote, hws, hd, hcolon, hitem]
  simp [Labelled.chars, Labelled.body]

/-! ## Single values -/

theorem rest_of_readWord {start : Spot} {letters : List Char} {value : Spot → Tree} {c c' : Cursor}
    {t : Tree} (h : readWord start letters value c = (t, .ok c')) :
    c.rest = letters ++ c'.rest ∧ ∃ s, t = value s := by
  induction letters generalizing c with
  | nil =>
    cases h
    exact ⟨rfl, _, rfl⟩
  | cons x xs ih =>
    rw [readWord] at h
    split at h
    · cases h
    · next y ys hrest =>
      split at h
      · next hy =>
        obtain ⟨hnext, hvalue⟩ := ih h
        rw [Cursor.next_rest hrest] at hnext
        exact ⟨by rw [hrest, hy, hnext]; rfl, hvalue⟩
      · cases h

theorem takes_of_readWord {level : Nat} {start : Spot} {x : Char} {xs letters : List Char}
    {value : Spot → Tree} {c c' : Cursor} {t : Tree} {j j' : Json}
    (hrest : c.skipBlanks.rest = x :: xs)
    (h : readWord start letters value c.skipBlanks.next = (t, .ok c'))
    (hspells : Spells (maxLevel - level) (x :: letters) j') (hvalue : ∀ s, (value s).full = .ok j')
    (hfull : t.full = .ok j) : Takes level c.rest j c'.rest := by
  obtain ⟨hword, s, rfl⟩ := rest_of_readWord h
  rw [Cursor.next_rest hrest] at hword
  obtain rfl : j' = j := by simpa [hvalue s] using hfull
  exact takes_of_skipBlanks hspells (by rw [hrest, hword]; rfl)

theorem spells_of_readNumber {start : Spot} {c c' : Cursor} {t : Tree} {j : Json} {n : Nat}
    (h : readNumber start c = (t, .ok c')) (hfull : t.full = .ok j) :
    ∃ body, c.rest = body ++ c'.rest ∧ Spells n body j := by
  unfold readNumber at h
  split at h
  · cases h
  · next numeral rest hscan =>
    cases h
    obtain ⟨v, hv, rfl⟩ := map_eq_ok.mp hfull
    obtain ⟨body, hbody, hspells⟩ := Numeral.spells_of_scan hscan
    refine ⟨body, hbody, .number n hspells ?_⟩
    unfold Numeral.read at hv
    split at hv
    · next v' hvalue =>
      cases hv
      exact hvalue
    · cases hv
    · cases hv

theorem sub_eq_succ {level : Nat} (h : level + 1 ≤ maxLevel) :
    maxLevel - level = maxLevel - (level + 1) + 1 := by omega

theorem spells_of_takesItems {level : Nat} (hlevel : level + 1 ≤ maxLevel) {cs tail : List Char}
    {js : List Json} (h : TakesItems (level + 1) cs js tail) :
    ∃ body, Spells (maxLevel - level) body (.array js) ∧ '[' :: cs = body ++ tail := by
  obtain ⟨ps, hne, hps, rfl, rfl⟩ := h
  rw [sub_eq_succ hlevel]
  exact ⟨_, .items hne (fun p hp => (hps p hp).1) (fun p hp => (hps p hp).2), by simp⟩

theorem spells_of_takesMembers {level : Nat} (hlevel : level + 1 ≤ maxLevel) {cs tail : List Char}
    {js : List (String × Json)} (h : TakesMembers (level + 1) cs js tail) :
    ∃ body, Spells (maxLevel - level) body (.object js) ∧ '\x7b' :: cs = body ++ tail := by
  obtain ⟨ms, hne, hms, rfl, rfl⟩ := h
  rw [sub_eq_succ hlevel]
  exact ⟨_, .members hne (fun m hm => (hms m hm).1) (fun m hm => (hms m hm).2), by simp⟩

/-! ## One more step of fuel -/

/-- What is read with so much fuel is spelled. -/
structure Sound (fuel : Nat) : Prop where
  value : ∀ {level : Nat} {c c' : Cursor} {t : Tree} {j : Json},
    readValue fuel level c = (t, .ok c') → t.full = .ok j → Takes level c.rest j c'.rest
  items : ∀ {level : Nat} {c c' : Cursor} {ts : List Tree} {js : List Json},
    readItems fuel level c.skipBlanks = (ts, .ok c') → fullItems ts = .ok js →
    TakesItems level c.rest js c'.rest
  members : ∀ {level : Nat} {c c' : Cursor} {ms : List (Key × Tree)} {js : List (String × Json)},
    readMembers fuel level c.skipBlanks = (ms, .ok c') → fullMembers ms = .ok js →
    TakesMembers level c.rest js c'.rest

section Succ

variable {fuel level : Nat} (ih : Sound fuel) {c c' : Cursor}
include ih

theorem takesItems_of_readItems {ts : List Tree} {js : List Json}
    (h : readItems (fuel + 1) level c.skipBlanks = (ts, .ok c')) (hfull : fullItems ts = .ok js) :
    TakesItems level c.rest js c'.rest := by
  rw [readItems] at h
  split at h
  · cases h
  · next t d hread =>
    have htakes {j : Json} (hj : t.full = .ok j) := (ih.value hread hj).of_skipBlanks.exists_item
    dsimp only at h
    split at h
    · cases h
    · next rest hclose =>
      cases h
      obtain ⟨j, hj, hfull⟩ := bind_eq_ok.mp hfull
      cases hfull
      obtain ⟨p, hp, rfl, hcs⟩ := htakes hj
      rw [hcs, hclose, Cursor.next_rest hclose]
      exact entries_last hp
    · next rest hcomma =>
      split at h
      · cases h
      · cases hmore : readItems fuel level d.skipBlanks.next.skipBlanks with
        | mk ts' stop =>
          rw [hmore] at h
          cases h
          obtain ⟨j, hj, hfull⟩ := bind_eq_ok.mp hfull
          obtain ⟨js', hjs, hfull⟩ := bind_eq_ok.mp hfull
          cases hfull
          obtain ⟨p, hp, rfl, hcs⟩ := htakes hj
          have hrest := ih.items hmore hjs
          rw [Cursor.next_rest hcomma] at hrest
          rw [hcs, hcomma]
          exact hrest.cons hp
    · cases h

theorem takesMembers_of_readMembers {ms : List (Key × Tree)} {js : List (String × Json)}
    (h : readMembers (fuel + 1) level c.skipBlanks = (ms, .ok c'))
    (hfull : fullMembers ms = .ok js) : TakesMembers level c.rest js c'.rest := by
  rw [readMembers] at h
  split at h
  · next xs hquote =>
    split at h
    · cases h
    · next name d hname =>
      dsimp only at h
      split at h
      · cases h
      · next ys hcolon =>
        split at h
        · cases h
        · next t e hread =>
          have hmember {k : String} {j : Json} (hk : name = .ok k) (hj : t.full = .ok j) :
              ∃ m, IsMember level m ∧ m.member = (k, j) ∧
                c.rest = m.chars ++ e.skipBlanks.rest := by
            have htakes := ih.value hread hj
            rw [Cursor.next_rest hcolon] at htakes
            obtain ⟨p, hp, rfl, hys⟩ := htakes.exists_item
            exact exists_member hquote (hk ▸ hname) hcolon hp hys
          split at h
          · cases h
          · next rest hclose =>
            cases h
            obtain ⟨k, hk, hfull⟩ := bind_eq_ok.mp hfull
            obtain ⟨j, hj, hfull⟩ := bind_eq_ok.mp hfull
            cases hfull
            obtain ⟨m, hm, hkj, hcs⟩ := hmember hk hj
            rw [hcs, hclose, Cursor.next_rest hclose, ← hkj]
            exact entries_last hm
          · next rest hcomma =>
            split at h
            · cases h
            · cases h
            · cases hmore : readMembers fuel level e.skipBlanks.next.skipBlanks with
              | mk ms' stop =>
                rw [hmore] at h
                cases h
                obtain ⟨k, hk, hfull⟩ := bind_eq_ok.mp hfull
                obtain ⟨j, hj, hfull⟩ := bind_eq_ok.mp hfull
                obtain ⟨js', hjs, hfull⟩ := bind_eq_ok.mp hfull
                cases hfull
                obtain ⟨m, hm, hkj, hcs⟩ := hmember hk hj
                have hrest := ih.members hmore hjs
                rw [Cursor.next_rest hcomma] at hrest
                rw [hcs, hcomma, ← hkj]
                exact hrest.cons hm
          · cases h
      · cases h
  · cases h

theorem takes_of_bracket {xs : List Char} (hrest : c.skipBlanks.rest = '[' :: xs) {t : Tree}
    {j : Json} (h : readValue (fuel + 1) level c = (t, .ok c')) (hfull : t.full = .ok j) :
    Takes level c.rest j c'.rest := by
  obtain ⟨gap, hgap, hnext⟩ := c.skipBlanks.next.exists_skipBlanks
  rw [Cursor.next_rest hrest] at hnext
  rw [readValue] at h
  simp only [hrest, Char.reduceEq, if_false, if_true] at h
  split at h
  · cases h
  · next rest hclose =>
    cases h
    obtain ⟨hlevel, -, js, hjs, rfl⟩ := full_array_eq_ok.mp hfull
    cases hjs
    have hspells : Spells (maxLevel - level) ('[' :: (gap ++ [']'])) (.array []) := by
      rw [sub_eq_succ hlevel]
      exact .noItems _ hgap
    refine takes_of_skipBlanks hspells ?_
    rw [hrest, hnext, hclose, Cursor.next_rest hclose]
    simp
  · cases hmore : readItems fuel (level + 1) c.skipBlanks.next.skipBlanks with
    | mk ts stop =>
      rw [hmore] at h
      cases h
      obtain ⟨hlevel, -, js, hjs, rfl⟩ := full_array_eq_ok.mp hfull
      have hitems := ih.items hmore hjs
      rw [Cursor.next_rest hrest] at hitems
      obtain ⟨body, hspells, hbody⟩ := spells_of_takesItems hlevel hitems
      exact takes_of_skipBlanks hspells (by rw [hrest, hbody])

theorem takes_of_brace {xs : List Char} (hrest : c.skipBlanks.rest = '\x7b' :: xs) {t : Tree}
    {j : Json} (h : readValue (fuel + 1) level c = (t, .ok c')) (hfull : t.full = .ok j) :
    Takes level c.rest j c'.rest := by
  obtain ⟨gap, hgap, hnext⟩ := c.skipBlanks.next.exists_skipBlanks
  rw [Cursor.next_rest hrest] at hnext
  rw [readValue] at h
  simp only [hrest, Char.reduceEq, if_false, if_true] at h
  split at h
  · cases h
  · next rest hclose =>
    cases h
    obtain ⟨hlevel, -, js, hjs, rfl⟩ := full_object_eq_ok.mp hfull
    cases hjs
    have hspells : Spells (maxLevel - level) ('\x7b' :: (gap ++ ['\x7d'])) (.object []) := by
      rw [sub_eq_succ hlevel]
      exact .noMembers _ hgap
    refine takes_of_skipBlanks hspells ?_
    rw [hrest, hnext, hclose, Cursor.next_rest hclose]
    simp
  · cases hmore : readMembers fuel (level + 1) c.skipBlanks.next.skipBlanks with
    | mk ms stop =>
      rw [hmore] at h
      cases h
      obtain ⟨hlevel, -, js, hjs, rfl⟩ := full_object_eq_ok.mp hfull
      have hmembers := ih.members hmore hjs
      rw [Cursor.next_rest hrest] at hmembers
      obtain ⟨body, hspells, hbody⟩ := spells_of_takesMembers hlevel hmembers
      exact takes_of_skipBlanks hspells (by rw [hrest, hbody])

theorem takes_of_readValue {t : Tree} {j : Json} (h : readValue (fuel + 1) level c = (t, .ok c'))
    (hfull : t.full = .ok j) : Takes level c.rest j c'.rest := by
  cases hrest : c.skipBlanks.rest with
  | nil =>
    rw [readValue] at h
    simp only [hrest] at h
    cases h
  | cons x xs =>
    by_cases hbracket : x = '['
    · subst hbracket
      exact takes_of_bracket ih hrest h hfull
    by_cases hbrace : x = '\x7b'
    · subst hbrace
      exact takes_of_brace ih hrest h hfull
    rw [readValue] at h
    simp only [hrest, hbracket, hbrace, if_false] at h
    split at h
    · next hx =>
      exact takes_of_readWord (hx ▸ hrest) h (.null _) (fun _ => rfl) hfull
    split at h
    · next hx =>
      exact takes_of_readWord (hx ▸ hrest) h (.yes _) (fun _ => rfl) hfull
    split at h
    · next hx =>
      exact takes_of_readWord (hx ▸ hrest) h (.no _) (fun _ => rfl) hfull
    split at h
    · next hx =>
      split at h
      · next value d hread =>
        cases h
        obtain ⟨s, rfl, rfl⟩ := map_eq_ok.mp hfull
        obtain ⟨ws, hws, hspells⟩ := spelled_of_readString hread
        rw [Cursor.next_rest hrest] at hws
        exact takes_of_skipBlanks (.string _ hspells) (by rw [hrest, hx, hws]; simp)
      · cases h
    split at h
    · obtain ⟨body, hbody, hspells⟩ := spells_of_readNumber h hfull
      exact takes_of_skipBlanks hspells hbody
    · cases h

end Succ

theorem sound (fuel : Nat) : Sound fuel := by
  -- values, items and members are read by one another, each time with less fuel
  induction fuel with
  | zero =>
    constructor
    · intro level c c' t j h
      rw [readValue] at h
      cases h
    · intro level c c' ts js h
      rw [readItems] at h
      cases h
    · intro level c c' ms js h
      rw [readMembers] at h
      cases h
  | succ fuel ih =>
    exact ⟨takes_of_readValue ih, takesItems_of_readItems ih, takesMembers_of_readMembers ih⟩

/-! ## Texts that break off -/

/-- A tree with a fault in it. -/
def Fails (t : Tree) : Prop := ∀ j, t.full ≠ .ok j

theorem fails_broken (start : Spot) (fault : Fault) : Fails (.broken start fault) :=
  fun _ h => nomatch h

theorem fails_array (start : Spot) (level : Nat) (ts : List Tree) (fault : Fault) :
    Fails (.array start level ts (.error fault)) := by
  intro j h
  obtain ⟨-, ⟨_, hstop⟩, -⟩ := full_array_eq_ok.mp h
  cases hstop

theorem fails_object (start : Spot) (level : Nat) (ms : List (Key × Tree)) (fault : Fault) :
    Fails (.object start level ms (.error fault)) := by
  intro j h
  obtain ⟨-, ⟨_, hstop⟩, -⟩ := full_object_eq_ok.mp h
  cases hstop

theorem fails_of_readWord {start : Spot} {letters : List Char} {value : Spot → Tree} {c : Cursor}
    {t : Tree} {fault : Fault} (h : readWord start letters value c = (t, .error fault)) :
    Fails t := by
  induction letters generalizing c with
  | nil => cases h
  | cons x xs ih =>
    rw [readWord] at h
    split at h
    · cases h
      exact fails_broken _ _
    · split at h
      · exact ih h
      · cases h
        exact fails_broken _ _

theorem fails_of_readNumber {start : Spot} {c : Cursor} {t : Tree} {fault : Fault}
    (h : readNumber start c = (t, .error fault)) : Fails t := by
  unfold readNumber at h
  split at h
  · cases h
    exact fails_broken _ _
  · cases h

theorem fails_of_readValue {fuel level : Nat} {c : Cursor} {t : Tree} {fault : Fault}
    (h : readValue fuel level c = (t, .error fault)) : Fails t := by
  unfold readValue at h
  split at h
  · cases h
    exact fails_broken _ _
  dsimp only at h
  split at h
  · cases h
    exact fails_broken _ _
  split at h
  · exact fails_of_readWord h
  split at h
  · exact fails_of_readWord h
  split at h
  · exact fails_of_readWord h
  split at h
  · split at h
    · cases h
    · cases h
      exact fails_broken _ _
  split at h
  · split at h
    · cases h
      exact fails_array _ _ _ _
    · cases h
    · obtain ⟨rfl, hstop⟩ := Prod.mk.inj h
      rw [hstop]
      exact fails_array _ _ _ _
  split at h
  · split at h
    · cases h
      exact fails_object _ _ _ _
    · cases h
    · obtain ⟨rfl, hstop⟩ := Prod.mk.inj h
      rw [hstop]
      exact fails_object _ _ _ _
  split at h
  · exact fails_of_readNumber h
  · cases h
    exact fails_broken _ _

end Tree

/-! ## Texts -/

theorem isText_of_ofText {text : String} {j : Json}
    (hfull : (Document.ofText text).root.full = .ok j)
    (hextra : (Document.ofText text).extra = none) : IsText text j := by
  cases hread : Tree.readValue (2 * (Cursor.ofText text).size + 1) 0 (Cursor.ofText text) with
  | mk t stop =>
    unfold Document.ofText at hfull hextra
    simp only [hread] at hfull hextra
    cases stop with
    | error fault => exact absurd hfull (Tree.fails_of_readValue hread j)
    | ok c =>
      dsimp only at hfull hextra
      split at hextra
      · next hend =>
        simp only [hend] at hfull
        obtain ⟨before, body, hbefore, hbody, htext⟩ := (Tree.sound _).value hread hfull
        obtain ⟨after, hafter, hrest⟩ := c.exists_skipBlanks
        rw [hend, List.append_nil] at hrest
        exact ⟨before, body, after, hbefore, hbody, hafter, by rw [← hrest, ← htext]; rfl⟩
      · cases hextra

/-- The texts of the grammar are read as the values that they spell, and no others are read. -/
theorem Decoder.json_run_eq_ok {text : String} {j : Json} :
    Decoder.json.run text = .ok j ↔ IsText text j := by
  rw [Decoder.run_eq_ok]
  constructor
  · rintro ⟨hfull, hextra⟩
    exact isText_of_ofText hfull hextra
  · intro h
    obtain ⟨t, ht, hfull⟩ := Document.ofText_of_isText h
    rw [ht]
    exact ⟨hfull, rfl⟩

/-- What a decoder reads, by the values that it is defined on. -/
theorem Decoder.Denotes.run_eq_ok {α : Type} {d : Decoder α} {g : Schema α} (h : d.Denotes g)
    {text : String} {a : α} : d.run text = .ok a ↔ ∃ j, IsText text j ∧ g j = some a := by
  rw [Decoder.run_eq_ok]
  constructor
  · rintro ⟨ha, hextra⟩
    obtain ⟨j, hfull, hj⟩ := h.sound ha
    exact ⟨j, isText_of_ofText hfull hextra, hj⟩
  · rintro ⟨j, htext, hj⟩
    obtain ⟨t, ht, hfull⟩ := Document.ofText_of_isText htext
    rw [ht]
    exact ⟨h.reads hfull hj, rfl⟩

end LuaStubs.Json
