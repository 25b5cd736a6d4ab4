import LuaStubs.Proofs.Json.Spelling
import LuaStubs.Json.Printer

/-! A string is read exactly when it is spelled between its quotes, and the printer spells it. -/
namespace LuaStubs.Json.Text

open Encoding

/-! ## Single characters -/

/-- A letter behind a backslash. -/
theorem readFrom_short (seen : List Char) (p : Place) {x c : Char} (hx : short? x = some c)
    (rest : List Char) :
    readFrom seen p ('\\' :: x :: rest) = readFrom (c :: seen) ((p.after '\\').after x) rest := by
  have hu : x ≠ 'u' := by
    rintro rfl
    cases hx
  rw [readFrom]
  · simp only [hx]
  · simp [hu]
  · simp [hu]

theorem skimFrom_short (p : Place) {x c : Char} (hx : short? x = some c) (rest : List Char) :
    skimFrom p ('\\' :: x :: rest) = skimFrom ((p.after '\\').after x) rest := by
  have hu : x ≠ 'u' := by
    rintro rfl
    cases hx
  rw [skimFrom]
  · simp only [hx]
  · simp [hu]
  · simp [hu]

/-- Four digits behind a backslash and `u`. -/
theorem readFrom_unit (seen : List Char) (p : Place) {a b c d : Char} {n : Nat}
    (hn : hexValue? a b c d = some n) (hlow : isLowSurrogate n = false)
    (hhigh : isHighSurrogate n = false) (rest : List Char) :
    readFrom seen p ('\\' :: 'u' :: a :: b :: c :: d :: rest) =
      readFrom (Char.ofNat n :: seen) (afterHex (p.after '\\')) rest := by
  rw [readFrom]
  simp only [hn, hlow, hhigh]
  simp

theorem readFrom_pair (seen : List Char) (p : Place) {a b c d a' b' c' d' : Char} {n m : Nat}
    (hn : hexValue? a b c d = some n) (hm : hexValue? a' b' c' d' = some m)
    (hhigh : isHighSurrogate n = true) (hlow : isLowSurrogate m = true) (rest : List Char) :
    ∃ q, readFrom seen p
        ('\\' :: 'u' :: a :: b :: c :: d :: '\\' :: 'u' :: a' :: b' :: c' :: d' :: rest) =
      readFrom (pair n m :: seen) q rest := by
  have hfirst : isLowSurrogate n = false := by
    simp only [isHighSurrogate, Bool.and_eq_true, decide_eq_true_eq] at hhigh
    simp [isLowSurrogate]
    omega
  refine ⟨afterHex ((afterHex (p.after '\\')).after '\\'), ?_⟩
  rw [readFrom]
  simp only [hn, hm, hfirst, hhigh, hlow]
  simp

theorem skimFrom_hex (p : Place) {a b c d : Char} {n : Nat} (hn : hexValue? a b c d = some n)
    (rest : List Char) :
    skimFrom p ('\\' :: 'u' :: a :: b :: c :: d :: rest) =
      skimFrom (afterHex (p.after '\\')) rest := by
  rw [skimFrom]
  simp only [hn]

theorem readFrom_plain (seen : List Char) (p : Place) {c : Char} (hquote : c ≠ '"')
    (hslash : c ≠ '\\') (hc : 32 ≤ c.toNat) (rest : List Char) :
    readFrom seen p (c :: rest) = readFrom (c :: seen) (p.after c) rest := by
  have hcontrol : ¬ c.toNat < 32 := by omega
  rw [readFrom]
  · simp only [hcontrol, if_false]
  · exact hquote
  · exact hslash

theorem skimFrom_plain (p : Place) {c : Char} (hquote : c ≠ '"') (hslash : c ≠ '\\')
    (hc : 32 ≤ c.toNat) (rest : List Char) :
    skimFrom p (c :: rest) = skimFrom (p.after c) rest := by
  have hcontrol : ¬ c.toNat < 32 := by omega
  rw [skimFrom]
  · simp only [hcontrol, if_false]
  · exact hquote
  · exact hslash

/-- What is written for a character is read as that character. -/
theorem Writes.readFrom {w : List Char} {c : Char} (h : Writes w c) (seen : List Char) (p : Place)
    (rest : List Char) : ∃ q, readFrom seen p (w ++ rest) = readFrom (c :: seen) q rest := by
  cases h with
  | plain hquote hslash hc => exact ⟨_, readFrom_plain seen p hquote hslash hc rest⟩
  | short hc => exact ⟨_, readFrom_short seen p hc rest⟩
  | unit hn hlow hhigh => exact ⟨_, readFrom_unit seen p hn hlow hhigh rest⟩
  | pair hn hm hhigh hlow => exact readFrom_pair seen p hn hm hhigh hlow rest

theorem Writes.skimFrom {w : List Char} {c : Char} (h : Writes w c) (p : Place)
    (rest : List Char) : ∃ q, skimFrom p (w ++ rest) = skimFrom q rest := by
  cases h with
  | plain hquote hslash hc => exact ⟨_, skimFrom_plain p hquote hslash hc rest⟩
  | short hc => exact ⟨_, skimFrom_short p hc rest⟩
  | unit hn _ _ => exact ⟨_, skimFrom_hex p hn rest⟩
  | pair hn hm _ _ =>
    refine ⟨afterHex ((afterHex (p.after '\\')).after '\\'), ?_⟩
    simp only [List.cons_append, List.nil_append]
    rw [skimFrom_hex p hn, skimFrom_hex _ hm]

/-! ## Strings -/

theorem Spells.readFrom {ws cs : List Char} (h : Spells ws cs) (seen : List Char) (p : Place)
    (rest : List Char) :
    ∃ q, readFrom seen p (ws ++ '"' :: rest) =
      .ok (String.ofList (seen.reverse ++ cs), ⟨rest, q⟩) := by
  induction h generalizing seen p with
  | nil => exact ⟨p.after '"', by simp [readFrom_quote]⟩
  | @cons w ws c cs hc _ ih =>
    obtain ⟨q, hq⟩ := hc.readFrom seen p (ws ++ '"' :: rest)
    obtain ⟨r, hr⟩ := ih (c :: seen) q
    refine ⟨r, ?_⟩
    rw [List.append_assoc, hq, hr, List.reverse_cons, List.append_assoc]
    rfl

theorem Spells.skimFrom {ws cs : List Char} (h : Spells ws cs) (p : Place) (rest : List Char) :
    ∃ q, skimFrom p (ws ++ '"' :: rest) = .ok ⟨rest, q⟩ := by
  induction h generalizing p with
  | nil => exact ⟨p.after '"', skimFrom_quote p rest⟩
  | @cons w ws c cs hc _ ih =>
    obtain ⟨q, hq⟩ := hc.skimFrom p (ws ++ '"' :: rest)
    obtain ⟨r, hr⟩ := ih q
    exact ⟨r, by rw [List.append_assoc, hq, hr]⟩

/-- The text up to a closing quote, behind which `rest` follows, spells what `s` has more than
`seen`. -/
def Closes (seen cs : List Char) (s : String) (rest : List Char) : Prop :=
  ∃ ws ds, cs = ws ++ '"' :: rest ∧ Spells ws ds ∧ s.toList = seen.reverse ++ ds

theorem Closes.cons {w seen cs rest : List Char} {c : Char} {s : String} (hc : Writes w c)
    (h : Closes (c :: seen) cs s rest) : Closes seen (w ++ cs) s rest := by
  obtain ⟨ws, ds, rfl, hspells, hs⟩ := h
  exact ⟨w ++ ws, c :: ds, by rw [List.append_assoc], .cons hc hspells, by simp [hs]⟩

/-- Only what is spelled is read. -/
theorem closes_of_readFrom {seen cs : List Char} {p : Place} {s : String} {c' : Cursor}
    (h : readFrom seen p cs = .ok (s, c')) : Closes seen cs s c'.rest := by
  fun_induction readFrom seen p cs with
  | case2 seen p rest =>
    cases h
    exact ⟨[], [], rfl, .nil, by simp⟩
  | case7 _ _ _ _ _ _ _ n hn _ hhigh _ _ _ _ _ _ m hm hlow ih =>
    exact (ih h).cons (.pair hn hm hhigh hlow)
  | case11 _ _ _ _ _ _ _ _ n hn hlow hhigh ih =>
    exact (ih h).cons (.unit hn (by simpa using hlow) (by simpa using hhigh))
  | case13 _ _ _ _ _ _ _ _ hc ih => exact (ih h).cons (.short hc)
  | case16 _ _ c _ hquote hslash hc ih =>
    exact (ih h).cons (.plain hquote hslash (by omega))
  | _ => cases h

/-! ## The printer -/

theorem digit?_digitChar : ∀ n < 16, Percent.digit? (Nat.digitChar n) = some n := by decide

/-- The escape of a control character without a letter of its own. -/
theorem hexValue?_digitChar {n : Nat} (h : n < 32) :
    hexValue? '0' '0' (Nat.digitChar (n / 16)) (Nat.digitChar (n % 16)) = some n := by
  have hzero : Percent.digit? '0' = some 0 := by decide
  have hhigh := digit?_digitChar (n / 16) (by omega)
  have hlow := digit?_digitChar (n % 16) (by omega)
  simp only [hexValue?, hzero, hhigh, hlow, bind, Option.bind, pure]
  congr 1
  omega

theorem eq_of_toNat {c : Char} {n : Nat} (h : c.toNat = n) : c = Char.ofNat n := by
  rw [← h, Char.ofNat_toNat]

/-- The three ways in which a character is printed inside quotes. -/
theorem escape_cases (c : Char) :
    (∃ x, short? x = some c ∧ escape c = ['\\', x]) ∨
    (c.toNat < 32 ∧ escape c =
      ['\\', 'u', '0', '0', Nat.digitChar (c.toNat / 16), Nat.digitChar (c.toNat % 16)]) ∨
    (c ≠ '"' ∧ c ≠ '\\' ∧ 32 ≤ c.toNat ∧ escape c = [c]) := by
  by_cases hquote : c = '"'
  · exact .inl ⟨'"', by rw [hquote]; rfl, by rw [hquote]; rfl⟩
  by_cases hslash : c = '\\'
  · exact .inl ⟨'\\', by rw [hslash]; rfl, by rw [hslash]; rfl⟩
  by_cases h8 : c.toNat = 8
  · exact .inl ⟨'b', by rw [eq_of_toNat h8]; rfl, by rw [eq_of_toNat h8]; rfl⟩
  by_cases h9 : c.toNat = 9
  · exact .inl ⟨'t', by rw [eq_of_toNat h9]; rfl, by rw [eq_of_toNat h9]; rfl⟩
  by_cases h10 : c.toNat = 10
  · exact .inl ⟨'n', by rw [eq_of_toNat h10]; rfl, by rw [eq_of_toNat h10]; rfl⟩
  by_cases h12 : c.toNat = 12
  · exact .inl ⟨'f', by rw [eq_of_toNat h12]; rfl, by rw [eq_of_toNat h12]; rfl⟩
  by_cases h13 : c.toNat = 13
  · exact .inl ⟨'r', by rw [eq_of_toNat h13]; rfl, by rw [eq_of_toNat h13]; rfl⟩
  by_cases hcontrol : c.toNat < 32
  · exact .inr (.inl ⟨hcontrol, by simp [escape, hquote, hslash, h8, h9, h10, h12, h13, hcontrol]⟩)
  · refine .inr (.inr ⟨hquote, hslash, by omega, ?_⟩)
    simp [escape, hquote, hslash, h8, h9, h10, h12, h13, hcontrol]

theorem writes_escape (c : Char) : Writes (escape c) c := by
  rcases escape_cases c with ⟨x, hx, he⟩ | ⟨hc, he⟩ | ⟨hquote, hslash, hc, he⟩
  · rw [he]
    exact .short hx
  · have hlow : isLowSurrogate c.toNat = false := by simp [isLowSurrogate]; omega
    have hhigh : isHighSurrogate c.toNat = false := by simp [isHighSurrogate]; omega
    have hunit := Writes.unit (hexValue?_digitChar hc) hlow hhigh
    rwa [Char.ofNat_toNat, ← he] at hunit
  · rw [he]
    exact .plain hquote hslash hc

theorem spells_escape (cs : List Char) : Spells (cs.flatMap escape) cs := by
  induction cs with
  | nil => exact .nil
  | cons c cs ih => exact .cons (writes_escape c) ih

end LuaStubs.Json.Text

namespace LuaStubs.Json.Tree

/-- What is spelled is read, from behind the opening quote. -/
theorem readString_spelled {ws : List Char} {s : String} (h : Text.Spells ws s.toList)
    (rest : List Char) (p : Place) :
    ∃ q, readString ⟨ws ++ '"' :: rest, p⟩ = .ok (.ok s, ⟨rest, q⟩) := by
  obtain ⟨q, hskim⟩ := h.skimFrom p rest
  obtain ⟨r, hread⟩ := h.readFrom [] p rest
  refine ⟨q, ?_⟩
  unfold readString Text.skim Text.read
  simp only [hskim, hread, List.reverse_nil, List.nil_append, String.ofList_toList]

/-- Only what is spelled is read. -/
theorem spelled_of_readString {c c' : Cursor} {s : String} (h : readString c = .ok (.ok s, c')) :
    ∃ ws, c.rest = ws ++ '"' :: c'.rest ∧ Text.Spells ws s.toList := by
  cases hread : Text.read c with
  | error problem =>
    cases hskim : Text.skim c <;> simp [readString, hskim, hread] at h
  | ok found =>
    obtain ⟨s', d⟩ := found
    obtain ⟨ws, ds, hws, hspells, hs⟩ := Text.closes_of_readFrom hread
    obtain ⟨q, hskim⟩ := hspells.skimFrom c.place d.rest
    rw [← hws] at hskim
    have hrest : Text.skim c = .ok ⟨d.rest, q⟩ := hskim
    simp only [readString, hread, hrest, Except.ok.injEq, Prod.mk.injEq] at h
    obtain ⟨rfl, rfl⟩ := h
    exact ⟨ws, hws, by rwa [hs]⟩

end LuaStubs.Json.Tree
