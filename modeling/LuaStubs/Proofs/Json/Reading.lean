import LuaStubs.Proofs.Json.Tree
import LuaStubs.Proofs.Json.Layout

/-! A text that spells a value is read as that value, however it is laid out. -/
namespace LuaStubs.Json

/-! ## Blanks -/

/-- A text that does not begin with a blank. -/
def Starts (cs : List Char) : Prop := ∀ c ∈ cs.head?, Cursor.isBlank c = false

theorem starts_nil : Starts [] := fun c hc => by cases hc

theorem Cursor.skipBlanks_append {blanks rest : List Char} (hblank : Blank blanks)
    (hrest : Starts rest) (p : Place) : ∃ q, Cursor.skipBlanks ⟨blanks ++ rest, p⟩ = ⟨rest, q⟩ := by
  unfold skipBlanks
  dsimp only
  induction blanks generalizing p with
  | nil =>
    refine ⟨p, ?_⟩
    cases rest with
    | nil => rfl
    | cons c cs =>
      have hc := hrest c rfl
      simp [skipBlanks.go, hc]
  | cons c cs ih =>
    obtain ⟨q, hq⟩ := ih (fun d hd => hblank d (List.mem_cons_of_mem _ hd)) (p.after c)
    have hc := hblank c List.mem_cons_self
    exact ⟨q, by simpa [skipBlanks.go, hc] using hq⟩

theorem Cursor.skipBlanks_of_starts {rest : List Char} (hrest : Starts rest) (p : Place) :
    Cursor.skipBlanks ⟨rest, p⟩ = ⟨rest, p⟩ := by
  unfold skipBlanks
  cases rest with
  | nil => rfl
  | cons c cs =>
    have hc := hrest c rfl
    simp [skipBlanks.go, hc]

/-- The marks between and behind entries. -/
def Mark (c : Char) : Prop := c = ',' ∨ c = ':' ∨ c = ']' ∨ c = '\x7d'

theorem Mark.starts {c : Char} (h : Mark c) (rest : List Char) : Starts (c :: rest) := by
  intro x hx
  obtain rfl : c = x := by simpa using hx
  rcases h with rfl | rfl | rfl | rfl <;> decide

theorem Mark.endsNumber {c : Char} (h : Mark c) (rest : List Char) :
    Numeral.EndsNumber (c :: rest) := by
  intro x hx
  obtain rfl : c = x := by simpa using hx
  rcases h with rfl | rfl | rfl | rfl <;> decide

theorem endsNumber_append {blanks : List Char} (hblank : Blank blanks) {rest : List Char}
    (hrest : Numeral.EndsNumber rest) : Numeral.EndsNumber (blanks ++ rest) := by
  cases blanks with
  | nil => exact hrest
  | cons c cs =>
    intro x hx
    obtain rfl : c = x := by simpa using hx
    have hc := hblank c List.mem_cons_self
    simp only [Cursor.isBlank, Bool.or_eq_true, decide_eq_true_eq] at hc
    rcases hc with ((rfl | rfl) | rfl) | rfl <;> decide

/-! ## Beginnings -/

/-- The characters with which a value begins. -/
def Opens (c : Char) : Prop :=
  c = 'n' ∨ c = 't' ∨ c = 'f' ∨ c = '"' ∨ c = '[' ∨ c = '\x7b' ∨ c = '-' ∨
    (Numeral.digit? c).isSome = true

theorem Opens.isBlank {c : Char} (h : Opens c) : Cursor.isBlank c = false := by
  rcases h with rfl | rfl | rfl | rfl | rfl | rfl | rfl | h
  all_goals try decide
  cases hblank : Cursor.isBlank c with
  | false => rfl
  | true =>
    simp only [Cursor.isBlank, Bool.or_eq_true, decide_eq_true_eq] at hblank
    rcases hblank with ((rfl | rfl) | rfl) | rfl <;> simp [Numeral.digit?] at h

theorem Opens.ne_bracket {c : Char} (h : Opens c) : c ≠ ']' ∧ c ≠ '\x7d' := by
  constructor <;> rintro rfl <;> revert h <;> unfold Opens <;> decide

theorem Opens.starts {c : Char} (h : Opens c) (rest : List Char) : Starts (c :: rest) := by
  intro x hx
  obtain rfl : c = x := by simpa using hx
  exact h.isBlank

/-- A text that begins as a value does. -/
def Begins (cs : List Char) : Prop := ∃ c rest, cs = c :: rest ∧ Opens c

theorem Begins.append {cs : List Char} (h : Begins cs) (tail : List Char) : Begins (cs ++ tail) := by
  obtain ⟨c, rest, rfl, hc⟩ := h
  exact ⟨c, rest ++ tail, rfl, hc⟩

theorem Begins.starts {cs : List Char} (h : Begins cs) : Starts cs := by
  obtain ⟨c, rest, rfl, hc⟩ := h
  exact hc.starts rest

theorem Begins.length_pos {cs : List Char} (h : Begins cs) : 0 < cs.length := by
  obtain ⟨c, rest, rfl, -⟩ := h
  simp

theorem Numeral.Spells.exists_cons {cs : List Char} {t : Numeral} (h : Spells cs t) :
    ∃ c rest, cs = c :: rest ∧ (c = '-' ∨ (digit? c).isSome = true) := by
  obtain ⟨hrun, -, fs, es, -, -, rfl⟩ := h
  obtain ⟨d, ds, hds⟩ := List.exists_cons_of_ne_nil hrun.1
  have hd := digit?_digitChar d (hrun.2 d (by simp [hds]))
  cases ht : t.negative with
  | true => exact ⟨'-', _, rfl, .inl rfl⟩
  | false => exact ⟨Nat.digitChar d, _, by rw [hds]; rfl, .inr (by rw [hd]; rfl)⟩

theorem Spells.begins {n : Nat} {cs : List Char} {j : Json} (h : Spells n cs j) : Begins cs := by
  cases h with
  | number n ht hv =>
    obtain ⟨c, rest, rfl, hc⟩ := ht.exists_cons
    exact ⟨c, rest, rfl, by rcases hc with hc | hc <;> simp [Opens, hc]⟩
  | _ => exact ⟨_, _, rfl, by simp [Opens]⟩

/-! ## Single values -/

theorem Labelled.body_append (m : Labelled) (tail : List Char) :
    m.body ++ tail =
      '"' :: (m.written ++ '"' :: (m.between ++ ':' :: (m.item.chars ++ tail))) := by
  simp [Labelled.body]

theorem Labelled.item_length_lt (m : Labelled) : m.item.body.length < m.body.length := by
  simp [Labelled.body, Padded.chars]
  omega

namespace Tree

/-- A tree that is read up to `tail` and found to be `j`. -/
def Finds (j : Json) (tail : List Char) (r : Reading) : Prop :=
  ∃ q, r.2 = .ok ⟨tail, q⟩ ∧ r.1.full = .ok j

theorem Finds.exists {j : Json} {tail : List Char} {r : Reading} (h : Finds j tail r) :
    ∃ t q, r = (t, .ok ⟨tail, q⟩) ∧ t.full = .ok j := by
  obtain ⟨q, hrest, hfull⟩ := h
  exact ⟨r.1, q, Prod.ext rfl hrest, hfull⟩

theorem readValue_blanks {blanks rest : List Char} (hblank : Blank blanks) (hrest : Starts rest)
    (fuel level : Nat) (p : Place) :
    ∃ q, readValue (fuel + 1) level ⟨blanks ++ rest, p⟩ = readValue (fuel + 1) level ⟨rest, q⟩ := by
  obtain ⟨q, hq⟩ := Cursor.skipBlanks_append hblank hrest p
  refine ⟨q, ?_⟩
  rw [readValue, readValue, hq, Cursor.skipBlanks_of_starts hrest]

theorem readValue_string {ws : List Char} {s : String} (h : Text.Spells ws s.toList)
    (fuel level : Nat) (tail : List Char) (p : Place) :
    Finds (.string s) tail (readValue (fuel + 1) level ⟨'"' :: (ws ++ ['"']) ++ tail, p⟩) := by
  obtain ⟨q, hq⟩ := readString_spelled h tail (p.after '"')
  have hstarts : Starts ('"' :: (ws ++ '"' :: tail)) := Opens.starts (by simp [Opens]) _
  rw [List.cons_append, List.append_assoc, List.singleton_append, readValue,
    Cursor.skipBlanks_of_starts hstarts]
  simp only [Cursor.next, hq]
  exact ⟨q, rfl, rfl⟩

theorem readValue_number {cs : List Char} {t : Numeral} {v : Number} (ht : Numeral.Spells cs t)
    (hv : t.value = .ok v) (fuel level : Nat) {tail : List Char}
    (htail : Numeral.EndsNumber tail) (p : Place) :
    Finds (.number v) tail (readValue (fuel + 1) level ⟨cs ++ tail, p⟩) := by
  obtain ⟨q, hscan⟩ := ht.scan htail p
  obtain ⟨c, rest, rfl, hc⟩ := ht.exists_cons
  have hopen : Opens c := by rcases hc with hc | hc <;> simp [Opens, hc]
  have hnot : c ≠ 'n' ∧ c ≠ 't' ∧ c ≠ 'f' ∧ c ≠ '"' ∧ c ≠ '[' ∧ c ≠ '\x7b' := by
    refine ⟨?_, ?_, ?_, ?_, ?_, ?_⟩ <;> rintro rfl <;> simp [Numeral.digit?] at hc
  obtain ⟨hn, ht, hf, hquote, hlist, hobject⟩ := hnot
  have hread : t.read ⟨tail, q⟩ = .ok v := by rw [Numeral.read, hv]
  rw [List.cons_append, readValue, Cursor.skipBlanks_of_starts (hopen.starts _)]
  simp only [hn, ht, hf, hquote, hlist, hobject, if_false, hc, if_true]
  rw [readNumber, ← List.cons_append, hscan]
  simp only [hread]
  exact ⟨q, rfl, rfl⟩

/-! ## Entries -/

/-- A text of a value that is read at some level, whatever follows. -/
structure ReadsAt (level : Nat) (cs : List Char) (j : Json) : Prop where
  begins : Begins cs
  finds : ∀ (fuel : Nat) (tail : List Char) (p : Place), Numeral.EndsNumber tail →
    2 * cs.length < fuel → Finds j tail (readValue fuel level ⟨cs ++ tail, p⟩)

theorem readsAt_intro {level n : Nat} {cs : List Char} {j : Json} (hspells : Spells n cs j)
    (h : ∀ (fuel : Nat) (tail : List Char) (p : Place), Numeral.EndsNumber tail →
      2 * cs.length ≤ fuel → Finds j tail (readValue (fuel + 1) level ⟨cs ++ tail, p⟩)) :
    ReadsAt level cs j := by
  refine ⟨hspells.begins, fun fuel tail p htail hfuel => ?_⟩
  obtain ⟨fuel, rfl⟩ : ∃ f, fuel = f + 1 := ⟨fuel - 1, by omega⟩
  exact h fuel tail p htail (by omega)

theorem ReadsAt.finds_blanks {level : Nat} {cs : List Char} {j : Json} (h : ReadsAt level cs j)
    {gap : List Char} (hgap : Blank gap) {fuel : Nat} {tail : List Char} (p : Place)
    (htail : Numeral.EndsNumber tail) (hfuel : 2 * cs.length < fuel) :
    Finds j tail (readValue fuel level ⟨gap ++ (cs ++ tail), p⟩) := by
  obtain ⟨fuel, rfl⟩ : ∃ f, fuel = f + 1 := ⟨fuel - 1, by omega⟩
  obtain ⟨q, hq⟩ := readValue_blanks hgap (h.begins.append tail).starts fuel level p
  rw [hq]
  exact h.finds (fuel + 1) tail q htail hfuel

/-- What stands behind an entry: further entries, each behind a comma, and the closing bracket. -/
def following {α : Type} (chars : α → List Char) (close : Char) (entries : List α)
    (tail : List Char) : List Char :=
  entries.flatMap (fun e => ',' :: chars e) ++ close :: tail

theorem following_cons {α : Type} (chars : α → List Char) (close : Char) (e : α) (es : List α)
    (tail : List Char) :
    following chars close (e :: es) tail = ',' :: (chars e ++ following chars close es tail) := by
  simp [following]

theorem intercalate_append {α : Type} (chars : α → List Char) (close : Char) (e : α) (es : List α)
    (tail : List Char) :
    [','].intercalate ((e :: es).map chars) ++ close :: tail =
      chars e ++ following chars close es tail := by
  induction es generalizing e with
  | nil => simp [following]
  | cons e' es ih =>
    rw [List.map_cons, List.intercalate_cons_of_ne_nil (by simp), following_cons,
      List.append_assoc, ih e', List.append_assoc]
    rfl

/-! ## Items -/

theorem readItems_last {fuel level : Nat} {c : Cursor} {t : Tree} {blanks tail : List Char}
    {q : Place} (hread : readValue fuel level c = (t, .ok ⟨blanks ++ ']' :: tail, q⟩))
    (hblank : Blank blanks) :
    ∃ r, readItems (fuel + 1) level c = ([t], .ok ⟨tail, r⟩) := by
  have hmark : Mark ']' := by simp [Mark]
  obtain ⟨r, hr⟩ := Cursor.skipBlanks_append hblank (hmark.starts tail) q
  refine ⟨r.after ']', ?_⟩
  rw [readItems, hread]
  simp only [hr]
  rfl

theorem readItems_more {fuel level : Nat} {c : Cursor} {t : Tree} {blanks gap rest : List Char}
    {q : Place} (hread : readValue fuel level c = (t, .ok ⟨blanks ++ ',' :: (gap ++ rest), q⟩))
    (hblank : Blank blanks) (hgap : Blank gap) (hrest : Begins rest) :
    ∃ r, readItems (fuel + 1) level c =
      (t :: (readItems fuel level ⟨rest, r⟩).1, (readItems fuel level ⟨rest, r⟩).2) := by
  have hmark : Mark ',' := by simp [Mark]
  obtain ⟨p, hp⟩ := Cursor.skipBlanks_append hblank (hmark.starts (gap ++ rest)) q
  obtain ⟨r, hr⟩ := Cursor.skipBlanks_append hgap hrest.starts (p.after ',')
  refine ⟨r, ?_⟩
  obtain ⟨x, xs, rfl, hx⟩ := hrest
  rw [readItems, hread]
  simp only [hp, Cursor.next, hr]
  split
  · next heq =>
    cases heq
    exact absurd rfl hx.ne_bracket.1
  · rfl

theorem readItems_spelled {level : Nat} {item : Padded} {items : List Padded}
    (hpad : ∀ p ∈ item :: items, p.IsPadded)
    (hread : ∀ p ∈ item :: items, ReadsAt level p.body p.value) {fuel : Nat}
    (tail : List Char) (p : Place)
    (hfuel : 2 * (item.body.length + (following Padded.chars ']' items []).length) < fuel) :
    ∃ ts q, readItems fuel level
        ⟨item.body ++ (item.after ++ following Padded.chars ']' items tail), p⟩ =
      (ts, .ok ⟨tail, q⟩) ∧ fullItems ts = .ok ((item :: items).map Padded.value) := by
  induction items generalizing item fuel p with
  | nil =>
    obtain ⟨fuel, rfl⟩ : ∃ f, fuel = f + 1 := ⟨fuel - 1, by omega⟩
    have hmark : Mark ']' := by simp [Mark]
    have hafter := (hpad item List.mem_cons_self).2
    have hend := endsNumber_append hafter (hmark.endsNumber tail)
    have hitem := hread item List.mem_cons_self
    simp only [following, List.flatMap_nil, List.nil_append, List.length_singleton] at hfuel ⊢
    obtain ⟨t, q, ht, hfull⟩ := (hitem.finds fuel _ p hend (by omega)).exists
    obtain ⟨r, hr⟩ := readItems_last ht hafter
    refine ⟨[t], r, hr, ?_⟩
    rw [fullItems, hfull]
    rfl
  | cons next items ih =>
    obtain ⟨fuel, rfl⟩ : ∃ f, fuel = f + 1 := ⟨fuel - 1, by omega⟩
    have hmark : Mark ',' := by simp [Mark]
    have hafter := (hpad item List.mem_cons_self).2
    have hgap := (hpad next (by simp)).1
    have hitem := hread item List.mem_cons_self
    have hnext := (hread next (by simp)).begins
    have hbody := hnext.length_pos
    simp only [following_cons, Padded.chars, List.append_assoc, List.length_cons,
      List.length_append] at hfuel ⊢
    have hmore : 2 * (next.body.length + (following Padded.chars ']' items []).length) < fuel := by
      omega
    obtain ⟨t, q, ht, hfull⟩ := (hitem.finds fuel _ p
      (endsNumber_append hafter (hmark.endsNumber _)) (by omega)).exists
    obtain ⟨r, hr⟩ := readItems_more ht hafter hgap (hnext.append _)
    obtain ⟨ts, r', hts, hfulls⟩ := ih (fun p hp => hpad p (List.mem_cons_of_mem _ hp))
      (fun p hp => hread p (List.mem_cons_of_mem _ hp)) r hmore
    refine ⟨t :: ts, r', by rw [hr, hts], ?_⟩
    rw [fullItems, hfull, hfulls]
    rfl

theorem readValue_items {fuel level : Nat} {values : List Json} {gap rest tail : List Char}
    (hgap : Blank gap) (hrest : Begins rest) (hlevel : level < maxLevel)
    (hread : ∀ q, ∃ ts r, readItems fuel (level + 1) ⟨rest, q⟩ = (ts, .ok ⟨tail, r⟩) ∧
      fullItems ts = .ok values) (p : Place) :
    Finds (.array values) tail (readValue (fuel + 1) level ⟨'[' :: (gap ++ rest), p⟩) := by
  have hopen : Opens '[' := by simp [Opens]
  obtain ⟨q, hq⟩ := Cursor.skipBlanks_append hgap hrest.starts (p.after '[')
  obtain ⟨ts, r, hts, hfull⟩ := hread q
  obtain ⟨c, cs, rfl, hc⟩ := hrest
  rw [readValue, Cursor.skipBlanks_of_starts (hopen.starts _)]
  simp only [Cursor.next, hq, Char.reduceEq, if_false, if_true]
  split
  · next heq => cases heq
  · next heq =>
    cases heq
    exact absurd rfl hc.ne_bracket.1
  · rw [hts]
    exact ⟨r, rfl, full_array_eq_ok.mpr ⟨hlevel, ⟨_, rfl⟩, values, hfull, rfl⟩⟩

theorem readValue_noItems (fuel : Nat) {level : Nat} {gap : List Char} (hgap : Blank gap)
    (hlevel : level < maxLevel) (tail : List Char) (p : Place) :
    Finds (.array []) tail (readValue (fuel + 1) level ⟨'[' :: (gap ++ ']' :: tail), p⟩) := by
  have hopen : Opens '[' := by simp [Opens]
  have hmark : Mark ']' := by simp [Mark]
  obtain ⟨q, hq⟩ := Cursor.skipBlanks_append hgap (hmark.starts tail) (p.after '[')
  rw [readValue, Cursor.skipBlanks_of_starts (hopen.starts _)]
  simp only [Cursor.next, hq, Char.reduceEq, if_false, if_true]
  exact ⟨_, rfl, full_array_eq_ok.mpr ⟨hlevel, ⟨_, rfl⟩, [], rfl, rfl⟩⟩

/-! ## Members -/

/-- The value of a member, from behind its colon, and the mark behind it. -/
theorem finds_item {level : Nat} {m : Labelled} (hm : m.IsLabelled)
    (hread : ReadsAt level m.item.body m.item.value) {fuel : Nat} {x : Char} (hx : Mark x)
    (tail : List Char) (p : Place) (hfuel : 2 * m.item.body.length < fuel) :
    ∃ t c q, readValue fuel level ⟨m.item.chars ++ x :: tail, p⟩ = (t, .ok c) ∧
      c.skipBlanks = ⟨x :: tail, q⟩ ∧ t.full = .ok m.item.value := by
  have hend := endsNumber_append hm.item.2 (hx.endsNumber tail)
  obtain ⟨t, r, ht, hfull⟩ := (hread.finds_blanks hm.item.1 p hend hfuel).exists
  obtain ⟨q, hq⟩ := Cursor.skipBlanks_append hm.item.2 (hx.starts tail) r
  refine ⟨t, _, q, ?_, hq, hfull⟩
  simpa only [Padded.chars, List.append_assoc] using ht

/-- The name of a member, up to its colon. -/
theorem readString_name {m : Labelled} (hm : m.IsLabelled) (tail : List Char) (p : Place) :
    ∃ c q, readString ⟨m.written ++ '"' :: (m.between ++ ':' :: tail), p⟩ = .ok (.ok m.name, c) ∧
      c.skipBlanks = ⟨':' :: tail, q⟩ := by
  have hcolon : Mark ':' := by simp [Mark]
  obtain ⟨r, hr⟩ := readString_spelled hm.name (m.between ++ ':' :: tail) p
  obtain ⟨q, hq⟩ := Cursor.skipBlanks_append hm.between (hcolon.starts tail) r
  exact ⟨_, q, hr, hq⟩

theorem readMembers_last {level : Nat} {m : Labelled} (hm : m.IsLabelled)
    (hread : ReadsAt level m.item.body m.item.value) {fuel : Nat} (tail : List Char) (p : Place)
    (hfuel : 2 * m.item.body.length < fuel) :
    ∃ n r, readMembers (fuel + 1) level ⟨m.body ++ '\x7d' :: tail, p⟩ = ([n], .ok ⟨tail, r⟩) ∧
      Stands n m.member := by
  have hmark : Mark '\x7d' := by simp [Mark]
  obtain ⟨c, q, hname, hc⟩ := readString_name hm (m.item.chars ++ '\x7d' :: tail) (p.after '"')
  obtain ⟨t, d, r, ht, hd, hfull⟩ := finds_item hm hread hmark tail (q.after ':') hfuel
  refine ⟨(⟨.ok m.name, afterKey ⟨':' :: (m.item.chars ++ '\x7d' :: tail), q⟩⟩, t),
    r.after '\x7d', ?_, rfl, hfull⟩
  rw [Labelled.body_append, readMembers]
  simp only [Cursor.next, hname, hc, ht, hd]

theorem readMembers_more {level : Nat} {m : Labelled} (hm : m.IsLabelled)
    (hread : ReadsAt level m.item.body m.item.value) {fuel : Nat} {gap : List Char}
    (hgap : Blank gap) (next : Labelled) (tail : List Char) (p : Place)
    (hfuel : 2 * m.item.body.length < fuel) :
    ∃ n r, readMembers (fuel + 1) level ⟨m.body ++ ',' :: (gap ++ (next.body ++ tail)), p⟩ =
        (n :: (readMembers fuel level ⟨next.body ++ tail, r⟩).1,
          (readMembers fuel level ⟨next.body ++ tail, r⟩).2) ∧
      Stands n m.member := by
  have hmark : Mark ',' := by simp [Mark]
  have hquote : Opens '"' := by simp [Opens]
  rw [Labelled.body_append next, Labelled.body_append m]
  generalize next.written ++ '"' :: (next.between ++ ':' :: (next.item.chars ++ tail)) = rest
  obtain ⟨c, q, hname, hc⟩ :=
    readString_name hm (m.item.chars ++ ',' :: (gap ++ '"' :: rest)) (p.after '"')
  obtain ⟨t, d, r, ht, hd, hfull⟩ :=
    finds_item hm hread hmark (gap ++ '"' :: rest) (q.after ':') hfuel
  obtain ⟨r', hr'⟩ := Cursor.skipBlanks_append hgap (hquote.starts rest) (r.after ',')
  refine ⟨(⟨.ok m.name, afterKey ⟨':' :: (m.item.chars ++ ',' :: (gap ++ '"' :: rest)), q⟩⟩, t),
    r', ?_, rfl, hfull⟩
  rw [readMembers]
  simp only [Cursor.next, hname, hc, ht, hd, hr']
  rfl

theorem readMembers_spelled {level : Nat} {member : Labelled} {members : List Labelled}
    (hlabel : ∀ m ∈ member :: members, m.IsLabelled)
    (hread : ∀ m ∈ member :: members, ReadsAt level m.item.body m.item.value) {fuel : Nat}
    (tail : List Char) (p : Place)
    (hfuel : 2 * (member.body.length + (following Labelled.chars '\x7d' members []).length) < fuel) :
    ∃ ms q, readMembers fuel level
        ⟨member.body ++ following Labelled.chars '\x7d' members tail, p⟩ = (ms, .ok ⟨tail, q⟩) ∧
      fullMembers ms = .ok ((member :: members).map Labelled.member) := by
  induction members generalizing member fuel p with
  | nil =>
    obtain ⟨fuel, rfl⟩ : ∃ f, fuel = f + 1 := ⟨fuel - 1, by omega⟩
    have hitem := member.item_length_lt
    have hvalue : 2 * member.item.body.length < fuel := by omega
    obtain ⟨n, r, hr, hn⟩ := readMembers_last (hlabel member List.mem_cons_self)
      (hread member List.mem_cons_self) tail p hvalue
    exact ⟨[n], r, hr, fullMembers_eq_ok.mpr (.cons hn .nil)⟩
  | cons next members ih =>
    obtain ⟨fuel, rfl⟩ : ∃ f, fuel = f + 1 := ⟨fuel - 1, by omega⟩
    have hitem := member.item_length_lt
    have hnext := next.item_length_lt
    simp only [following_cons, Labelled.chars, List.append_assoc, List.length_cons,
      List.length_append] at hfuel ⊢
    have hvalue : 2 * member.item.body.length < fuel := by omega
    have hmore : 2 * (next.body.length + (following Labelled.chars '\x7d' members []).length) <
        fuel := by omega
    obtain ⟨n, r, hr, hn⟩ := readMembers_more (hlabel member List.mem_cons_self)
      (hread member List.mem_cons_self) (hlabel next (by simp)).before next _ p hvalue
    obtain ⟨ns, r', hns, hfulls⟩ := ih (fun m hm => hlabel m (List.mem_cons_of_mem _ hm))
      (fun m hm => hread m (List.mem_cons_of_mem _ hm)) r hmore
    exact ⟨n :: ns, r', by rw [hr, hns], fullMembers_eq_ok.mpr (.cons hn (fullMembers_eq_ok.mp hfulls))⟩

theorem readValue_members {fuel level : Nat} {values : List (String × Json)}
    {gap tail rest : List Char} (m : Labelled) (hgap : Blank gap) (hlevel : level < maxLevel)
    (hread : ∀ q, ∃ ms r, readMembers fuel (level + 1) ⟨m.body ++ rest, q⟩ =
      (ms, .ok ⟨tail, r⟩) ∧ fullMembers ms = .ok values) (p : Place) :
    Finds (.object values) tail
      (readValue (fuel + 1) level ⟨'\x7b' :: (gap ++ (m.body ++ rest)), p⟩) := by
  have hopen : Opens '\x7b' := by simp [Opens]
  have hquote : Opens '"' := by simp [Opens]
  rw [Labelled.body_append] at hread ⊢
  generalize m.written ++ '"' :: (m.between ++ ':' :: (m.item.chars ++ rest)) = cs at hread ⊢
  obtain ⟨q, hq⟩ := Cursor.skipBlanks_append hgap (hquote.starts cs) (p.after '\x7b')
  obtain ⟨ms, r, hms, hfull⟩ := hread q
  rw [readValue, Cursor.skipBlanks_of_starts (hopen.starts _)]
  simp only [Cursor.next, hq, hms, Char.reduceEq, if_false, if_true]
  exact ⟨r, rfl, full_object_eq_ok.mpr ⟨hlevel, ⟨_, rfl⟩, values, hfull, rfl⟩⟩

theorem readValue_noMembers (fuel : Nat) {level : Nat} {gap : List Char} (hgap : Blank gap)
    (hlevel : level < maxLevel) (tail : List Char) (p : Place) :
    Finds (.object []) tail
      (readValue (fuel + 1) level ⟨'\x7b' :: (gap ++ '\x7d' :: tail), p⟩) := by
  have hopen : Opens '\x7b' := by simp [Opens]
  have hmark : Mark '\x7d' := by simp [Mark]
  obtain ⟨q, hq⟩ := Cursor.skipBlanks_append hgap (hmark.starts tail) (p.after '\x7b')
  rw [readValue, Cursor.skipBlanks_of_starts (hopen.starts _)]
  simp only [Cursor.next, hq, Char.reduceEq, if_false, if_true]
  exact ⟨_, rfl, full_object_eq_ok.mpr ⟨hlevel, ⟨_, rfl⟩, [], rfl, rfl⟩⟩

/-- What is spelled is read, however many brackets are open around it. -/
theorem readsAt_of_spells {n : Nat} {cs : List Char} {j : Json} (h : Spells n cs j) {level : Nat}
    (hlevel : level + n ≤ maxLevel) : ReadsAt level cs j := by
  induction h generalizing level with
  | null n => exact readsAt_intro (.null n) (fun fuel tail p _ _ => ⟨_, rfl, rfl⟩)
  | yes n => exact readsAt_intro (.yes n) (fun fuel tail p _ _ => ⟨_, rfl, rfl⟩)
  | no n => exact readsAt_intro (.no n) (fun fuel tail p _ _ => ⟨_, rfl, rfl⟩)
  | number n ht hv =>
    exact readsAt_intro (.number n ht hv)
      (fun fuel tail p htail _ => readValue_number ht hv fuel level htail p)
  | string n hs =>
    exact readsAt_intro (.string n hs) (fun fuel tail p _ _ => readValue_string hs fuel level tail p)
  | noItems n hgap =>
    refine readsAt_intro (.noItems n hgap) (fun fuel tail p _ _ => ?_)
    have hread := readValue_noItems fuel hgap (show level < maxLevel by omega) tail p
    simpa using hread
  | @items n items hne hpad h ih =>
    refine readsAt_intro (.items hne hpad h) (fun fuel tail p _ hfuel => ?_)
    have hread : ∀ p ∈ items, ReadsAt (level + 1) p.body p.value :=
      fun p hp => ih p hp (by omega)
    obtain ⟨item, items, rfl⟩ := List.exists_cons_of_ne_nil hne
    have htext (tail : List Char) := intercalate_append Padded.chars ']' item items tail
    have hlength := congrArg List.length (htext [])
    simp only [Padded.chars, List.append_assoc, List.length_append, List.length_cons,
      List.length_nil] at htext hlength hfuel
    rw [List.cons_append, List.append_assoc, List.singleton_append, htext]
    have hbegins := (hread item List.mem_cons_self).begins.append
      (item.after ++ following Padded.chars ']' items tail)
    refine readValue_items (hpad item List.mem_cons_self).1 hbegins (by omega) (fun q => ?_) p
    exact readItems_spelled hpad hread tail q (by omega)
  | noMembers n hgap =>
    refine readsAt_intro (.noMembers n hgap) (fun fuel tail p _ _ => ?_)
    have hread := readValue_noMembers fuel hgap (show level < maxLevel by omega) tail p
    simpa using hread
  | @members n members hne hlabel h ih =>
    refine readsAt_intro (.members hne hlabel h) (fun fuel tail p _ hfuel => ?_)
    have hread : ∀ m ∈ members, ReadsAt (level + 1) m.item.body m.item.value :=
      fun m hm => ih m hm (by omega)
    obtain ⟨m, members, rfl⟩ := List.exists_cons_of_ne_nil hne
    have htext (tail : List Char) := intercalate_append Labelled.chars '\x7d' m members tail
    have hlength := congrArg List.length (htext [])
    simp only [Labelled.chars, List.append_assoc, List.length_append, List.length_cons,
      List.length_nil] at htext hlength hfuel
    rw [List.cons_append, List.append_assoc, List.singleton_append, htext]
    refine readValue_members m (hlabel m List.mem_cons_self).before (by omega) (fun q => ?_) p
    exact readMembers_spelled hlabel hread tail q (by omega)

end Tree

/-! ## Texts -/

theorem Document.ofText_of_isText {text : String} {j : Json} (h : IsText text j) :
    ∃ t, Document.ofText text = ⟨t, none⟩ ∧ t.full = .ok j := by
  obtain ⟨before, body, after, hbefore, hbody, hafter, htext⟩ := h
  have hnil : Numeral.EndsNumber [] := fun c hc => by cases hc
  have hend : Numeral.EndsNumber after := List.append_nil after ▸ endsNumber_append hafter hnil
  have hread := Tree.readsAt_of_spells hbody (show 0 + Tree.maxLevel ≤ Tree.maxLevel by omega)
  obtain ⟨t, q, ht, hfull⟩ := (hread.finds_blanks hbefore .start hend
    (show 2 * body.length < 2 * text.toList.length + 1 by simp [htext]; omega)).exists
  obtain ⟨r, hr⟩ := Cursor.skipBlanks_append hafter starts_nil q
  rw [List.append_nil] at hr
  refine ⟨t, ?_, hfull⟩
  unfold Document.ofText Cursor.ofText Cursor.size
  simp only [← htext] at ht
  simp only [ht, hr]

theorem Document.ofText_chars {l : Layout} (hl : l.Plain) {n : Nat} {j : Json} (h : Legible n j)
    (hn : n ≤ Tree.maxLevel) {blanks : List Char} (hblank : Blank blanks) :
    ∃ t, Document.ofText (String.ofList (l.chars 0 j ++ blanks)) = ⟨t, none⟩ ∧ t.full = .ok j := by
  refine Document.ofText_of_isText ⟨[], l.chars 0 j, blanks, blank_nil, ?_, hblank, ?_⟩
  · exact (hl.spells h 0).mono hn
  · rw [String.toList_ofList, List.nil_append]

theorem Document.ofText_compact {n : Nat} {j : Json} (h : Legible n j) (hn : n ≤ Tree.maxLevel) :
    ∃ t, Document.ofText j.compact = ⟨t, none⟩ ∧ t.full = .ok j := by
  have hread := Document.ofText_chars Layout.plain_compact h hn blank_nil
  rwa [List.append_nil, ← Layout.compactChars_eq] at hread

/-- An indented text with a line break behind it. -/
theorem Document.ofText_pretty {n : Nat} {j : Json} (h : Legible n j) (hn : n ≤ Tree.maxLevel) :
    ∃ t, Document.ofText (j.pretty ++ "\n") = ⟨t, none⟩ ∧ t.full = .ok j := by
  have hblank : Blank ['\n'] := by simp [Blank, Cursor.isBlank]
  have hread := Document.ofText_chars Layout.plain_pretty h hn hblank
  rwa [← Layout.prettyChars_eq, String.ofList_append] at hread

end LuaStubs.Json
