import LuaStubs.Text.Affix

/-! Patterns for names: `?` stands for a character, `*` for any text, brackets for a character of a
range, and two stars between slashes for any number of folders. -/
namespace LuaStubs.Files.Glob

inductive Token where
  | char (c : Char)
  | any
  | sequence
  | folders
  | oneOf (isNegated : Bool) (ranges : List (Char × Char))
deriving DecidableEq, Repr

inductive Cause where
  | stars
  | folders
  | range
deriving DecidableEq, Repr

/-- Positions count characters. -/
structure Fault where
  position : Nat
  cause : Cause
deriving DecidableEq, Repr

def Cause.message : Cause → String
  | .stars => "wildcards are either regular `*` or recursive `**`"
  | .folders => "recursive wildcards must form a single path component"
  | .range => "invalid range pattern"

def Fault.message (f : Fault) : String :=
  s!"Pattern syntax error near position {f.position}: " ++ f.cause.message

/-- Pairs with a dash between them are ranges, other characters stand for themselves. -/
def ranges : List Char → List (Char × Char)
  | a :: '-' :: b :: rest => (a, b) :: ranges rest
  | a :: rest => (a, a) :: ranges rest
  | [] => []

/-- The text up to the first closing bracket; the first character belongs to it in any case. -/
def bracketed? : List Char → Option (List Char)
  | [] => none
  | c :: rest =>
    if rest.contains ']' then some (c :: rest.takeWhile (· ≠ ']')) else none

/-- The token after an opening bracket, and the number of characters up to its end. -/
def oneOf? : List Char → Option (Token × Nat)
  | '!' :: rest => (bracketed? rest).map (fun inner => (.oneOf true (ranges inner), inner.length + 2))
  | rest => (bracketed? rest).map (fun inner => (.oneOf false (ranges inner), inner.length + 1))

/-- What the stars at `position` stand for, and the number of further characters that belong to
them. -/
def stars (before : Option Char) (position : Nat) (rest : List Char) : Except Fault (Token × Nat) :=
  match rest with
  | '*' :: '*' :: _ => .error ⟨position + 2, .stars⟩
  | '*' :: rest =>
    if before = none || before = some '/' then
      match rest with
      | [] => .ok (.folders, 1)
      | c :: _ => if c = '/' then .ok (.folders, 2) else .error ⟨position + 2, .folders⟩
    else .error ⟨position - 1, .folders⟩
  | _ => .ok (.sequence, 0)

/-- The token that begins with `c`. -/
def token (before : Option Char) (position : Nat) (c : Char) (rest : List Char) :
    Except Fault (Token × Nat) :=
  if c = '?' then .ok (.any, 0)
  else if c = '*' then stars before position rest
  else if c = '[' then
    match oneOf? rest with
    | some t => .ok t
    | none => .error ⟨position, .range⟩
  else .ok (.char c, 0)

/-- Reads on at `position`; `skip` characters still belong to the last token. -/
def scan (before : Option Char) (position skip : Nat) : List Char → Except Fault (List Token)
  | [] => .ok []
  | c :: rest =>
    match skip with
    | skip + 1 => scan (some c) (position + 1) skip rest
    | 0 => do
      let (t, more) ← token before position c rest
      let ts ← scan (some c) (position + 1) more rest
      return t :: ts

def tokens (cs : List Char) : Except Fault (List Token) := scan none 0 0 cs

/-- The names of a path as patterns.  The whole is checked first, then each name for itself. -/
def parse (names : List (List Char)) (whole : List Char) : Except Fault (List (List Token)) := do
  let _ ← tokens whole
  names.mapM tokens

def Token.admits (t : Token) (c : Char) : Bool :=
  match t with
  | .char d => c = d
  | .any => true
  | .sequence => true
  | .folders => true
  | .oneOf isNegated ranges =>
    ranges.any (fun r => r.1.toNat ≤ c.toNat && c.toNat ≤ r.2.toNat) != isNegated

def Token.isSequence : Token → Bool
  | .sequence => true
  | .folders => true
  | _ => false

/-- What follows the character that a token stands for. -/
def Token.after? (t : Token) : List Char → Option (List Char)
  | [] => none
  | c :: cs => if t.admits c then some cs else none

/-- All ends of a text, the longest first. -/
def suffixes : List Char → List (List Char)
  | [] => [[]]
  | c :: cs => (c :: cs) :: suffixes cs

theorem mem_suffixes {s cs : List Char} : s ∈ suffixes cs ↔ s <:+ cs := by
  induction cs with
  | nil => simp [suffixes]
  | cons c cs ih => simp [suffixes, ih, List.suffix_cons_iff]

/-- Whether the tokens stand for one of the texts, which are ends of one text, the longest first. -/
def fitsOne : List Token → List (List Char) → Bool
  | [], rests => rests.any List.isEmpty
  | t :: ts, rests =>
    if t.isSequence then
      match rests with
      | [] => false
      | longest :: _ => fitsOne ts (suffixes longest)
    else fitsOne ts (rests.filterMap t.after?)

/-- Whether a name has the form of the tokens. -/
def fits (ts : List Token) (name : List Char) : Bool := fitsOne ts [name]

def Token.char? : Token → Option Char
  | .char c => some c
  | _ => none

/-- The name that tokens without a wildcard stand for. -/
def literal? (ts : List Token) : Option String := (ts.mapM Token.char?).map String.ofList

def isFolders (ts : List Token) : Bool := ts.contains .folders

end LuaStubs.Files.Glob
