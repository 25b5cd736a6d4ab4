import LuaStubs.Json.Tree

/-! The grammar of JSON texts, and the value that a text stands for.  Blanks may stand around every
value, comma and colon.  Characters are Unicode scalar values, so half of a surrogate pair is none;
numbers are those that `Numeral.value` can hold. -/
namespace LuaStubs.Json

def Blank (cs : List Char) : Prop := ∀ c ∈ cs, Cursor.isBlank c = true

theorem blank_nil : Blank [] := fun c hc => by cases hc

theorem Blank.append {cs ds : List Char} (hcs : Blank cs) (hds : Blank ds) : Blank (cs ++ ds) :=
  List.forall_mem_append.mpr ⟨hcs, hds⟩

/-! ## Strings -/

namespace Text

/-- The ways to write a character inside quotes. -/
inductive Writes : List Char → Char → Prop
  | plain {c : Char} (hquote : c ≠ '"') (hslash : c ≠ '\\') (hc : 32 ≤ c.toNat) : Writes [c] c
  | short {x c : Char} (hc : short? x = some c) : Writes ['\\', x] c
  | unit {a b c d : Char} {n : Nat} (hn : hexValue? a b c d = some n)
      (hlow : isLowSurrogate n = false) (hhigh : isHighSurrogate n = false) :
      Writes ['\\', 'u', a, b, c, d] (Char.ofNat n)
  | pair {a b c d a' b' c' d' : Char} {n m : Nat} (hn : hexValue? a b c d = some n)
      (hm : hexValue? a' b' c' d' = some m) (hhigh : isHighSurrogate n = true)
      (hlow : isLowSurrogate m = true) :
      Writes ['\\', 'u', a, b, c, d, '\\', 'u', a', b', c', d'] (pair n m)

/-- The characters between the quotes of a string. -/
inductive Spells : List Char → List Char → Prop
  | nil : Spells [] []
  | cons {w ws : List Char} {c : Char} {cs : List Char} (hc : Writes w c) (hcs : Spells ws cs) :
      Spells (w ++ ws) (c :: cs)

end Text

/-! ## Numbers -/

namespace Numeral

/-- Decimal digits, at least one. -/
def IsRun (ds : List Nat) : Prop := ds ≠ [] ∧ ∀ d ∈ ds, d < 10

def SpellsFraction (cs : List Char) : Option (List Nat) → Prop
  | none => cs = []
  | some ds => IsRun ds ∧ cs = '.' :: ds.map Nat.digitChar

/-- The sign of an exponent may be left out when it is positive. -/
def signs (negative : Bool) : List (List Char) := if negative then [['-']] else [[], ['+']]

def SpellsExponent (cs : List Char) : Option (Bool × List Nat) → Prop
  | none => cs = []
  | some (negative, ds) =>
    IsRun ds ∧ ∃ e ∈ ['e', 'E'], ∃ sign ∈ signs negative, cs = e :: (sign ++ ds.map Nat.digitChar)

/-- The characters of a number; a zero in front stands alone. -/
structure Spells (cs : List Char) (t : Numeral) : Prop where
  run : IsRun t.whole
  zero : ∀ rest, t.whole = 0 :: rest → rest = []
  parts : ∃ fraction exponent, SpellsFraction fraction t.fraction ∧
    SpellsExponent exponent t.exponent ∧
    cs = (if t.negative then ['-'] else []) ++ (t.whole.map Nat.digitChar ++ (fraction ++ exponent))

end Numeral

/-! ## Values -/

/-- A value with the blanks around it. -/
structure Padded where
  before : List Char
  body : List Char
  after : List Char
  value : Json

namespace Padded

def chars (p : Padded) : List Char := p.before ++ (p.body ++ p.after)

def IsPadded (p : Padded) : Prop := Blank p.before ∧ Blank p.after

end Padded

/-- A member of an object, with the blanks around it. -/
structure Labelled where
  before : List Char
  written : List Char
  name : String
  between : List Char
  item : Padded

namespace Labelled

def body (m : Labelled) : List Char :=
  '"' :: (m.written ++ '"' :: (m.between ++ ':' :: m.item.chars))

def chars (m : Labelled) : List Char := m.before ++ m.body

def member (m : Labelled) : String × Json := (m.name, m.item.value)

structure IsLabelled (m : Labelled) : Prop where
  before : Blank m.before
  between : Blank m.between
  name : Text.Spells m.written m.name.toList
  item : m.item.IsPadded

end Labelled

/-- The texts of a value whose brackets are nested at most so deep. -/
inductive Spells : Nat → List Char → Json → Prop
  | null (n : Nat) : Spells n ['n', 'u', 'l', 'l'] .null
  | yes (n : Nat) : Spells n ['t', 'r', 'u', 'e'] (.bool true)
  | no (n : Nat) : Spells n ['f', 'a', 'l', 's', 'e'] (.bool false)
  | number (n : Nat) {cs : List Char} {t : Numeral} {v : Number} (ht : Numeral.Spells cs t)
      (hv : t.value = .ok v) : Spells n cs (.number v)
  | string (n : Nat) {cs : List Char} {s : String} (hs : Text.Spells cs s.toList) :
      Spells n ('"' :: (cs ++ ['"'])) (.string s)
  | noItems (n : Nat) {gap : List Char} (hgap : Blank gap) :
      Spells (n + 1) ('[' :: (gap ++ [']'])) (.array [])
  | items {n : Nat} {items : List Padded} (hne : items ≠ []) (hpad : ∀ p ∈ items, p.IsPadded)
      (h : ∀ p ∈ items, Spells n p.body p.value) :
      Spells (n + 1) ('[' :: ([','].intercalate (items.map Padded.chars) ++ [']']))
        (.array (items.map Padded.value))
  | noMembers (n : Nat) {gap : List Char} (hgap : Blank gap) :
      Spells (n + 1) ('\x7b' :: (gap ++ ['\x7d'])) (.object [])
  | members {n : Nat} {members : List Labelled} (hne : members ≠ [])
      (hlabel : ∀ m ∈ members, m.IsLabelled)
      (h : ∀ m ∈ members, Spells n m.item.body m.item.value) :
      Spells (n + 1) ('\x7b' :: ([','].intercalate (members.map Labelled.chars) ++ ['\x7d']))
        (.object (members.map Labelled.member))

/-- Room for deeper brackets does not matter. -/
theorem Spells.mono {n m : Nat} {cs : List Char} {j : Json} (h : Spells n cs j) (hnm : n ≤ m) :
    Spells m cs j := by
  induction h generalizing m with
  | null n => exact .null m
  | yes n => exact .yes m
  | no n => exact .no m
  | number n ht hv => exact .number m ht hv
  | string n hs => exact .string m hs
  | noItems n hgap =>
    obtain ⟨m, rfl⟩ : ∃ k, m = k + 1 := ⟨m - 1, by omega⟩
    exact .noItems m hgap
  | items hne hpad h ih =>
    obtain ⟨m, rfl⟩ : ∃ k, m = k + 1 := ⟨m - 1, by omega⟩
    exact .items hne hpad (fun p hp => ih p hp (by omega))
  | noMembers n hgap =>
    obtain ⟨m, rfl⟩ : ∃ k, m = k + 1 := ⟨m - 1, by omega⟩
    exact .noMembers m hgap
  | members hne hlabel h ih =>
    obtain ⟨m, rfl⟩ : ∃ k, m = k + 1 := ⟨m - 1, by omega⟩
    exact .members hne hlabel (fun p hp => ih p hp (by omega))

/-- A text of one value, with blanks around it. -/
def IsText (text : String) (j : Json) : Prop :=
  ∃ before body after, Blank before ∧ Spells Tree.maxLevel body j ∧ Blank after ∧
    text.toList = before ++ (body ++ after)

end LuaStubs.Json
