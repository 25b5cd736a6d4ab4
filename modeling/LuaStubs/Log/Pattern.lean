/-! Regular expressions that stand in directives.  A text is passed from left to right, with what is
open kept in mind; braces that count repetitions cannot be closed in a directive. -/
namespace LuaStubs.Log.Pattern

inductive Fault where
  | form
  | boundary
deriving DecidableEq, Repr

def Fault.message : Fault → String
  | .form => "error building NFA"
  | .boundary =>
    "unsupported regex feature for DFAs: cannot build DFAs for regexes with Unicode word " ++
      "boundaries; switch to ASCII word boundaries, or heuristically enable Unicode word " ++
      "boundaries or use a different regex engine"

/-- Where in the text the next character stands. -/
inductive Position where
  | plain
  | opened
  | flags (count : Nat)
  | name (length : Nat)
  | escape
  | property
  | hexadecimal (digits : Nat)
deriving DecidableEq, Repr

/-- `groups` counts the open groups and `sets` the open sets of characters.  A repetition needs an
operand before it, and so does the end of a set. -/
structure State where
  position : Position
  groups : Nat
  sets : Nat
  hasOperand : Bool
  hasBoundary : Bool
deriving DecidableEq, Repr

def start : State := ⟨.plain, 0, 0, false, false⟩

namespace State

def goOn (s : State) : State := { s with position := .plain, hasOperand := true }

def isFlag (c : Char) : Bool := "imsUuxR-".toList.contains c

def isNameChar (c : Char) : Bool := c.isAlphanum || c = '_' || c = '.' || c = '[' || c = ']'

/-- Classes, controls and what no letter or digit is may follow a backslash. -/
def afterBackslash (s : State) (c : Char) : Except Fault State :=
  if "bB<>Az".toList.contains c then
    if s.sets = 0 then .ok { s.goOn with hasBoundary := s.hasBoundary || !(c = 'A' || c = 'z') }
    else .error .form
  else if c = 'p' || c = 'P' then .ok { s with position := .property }
  else if c = 'x' then .ok { s with position := .hexadecimal 2 }
  else if c = 'u' then .ok { s with position := .hexadecimal 4 }
  else if c = 'U' then .ok { s with position := .hexadecimal 8 }
  else if "dDsSwWaftnrv".toList.contains c || (c.toNat < 128 && !c.isAlphanum) then .ok s.goOn
  else .error .form

def inSet (s : State) (c : Char) : Except Fault State :=
  if c = '\\' then .ok { s with position := .escape }
  else if c = '[' then .ok { s with sets := s.sets + 1, hasOperand := false }
  else if c = ']' && s.hasOperand then .ok { s with sets := s.sets - 1 }
  else if c = '^' then .ok s
  else .ok s.goOn

def outside (s : State) (c : Char) : Except Fault State :=
  if c = '(' then .ok { s with position := .opened, groups := s.groups + 1, hasOperand := false }
  else if c = ')' then
    if s.groups = 0 then .error .form else .ok { s with groups := s.groups - 1, hasOperand := true }
  else if c = '|' then .ok { s with hasOperand := false }
  else if c = '*' || c = '+' || c = '?' then if s.hasOperand then .ok s else .error .form
  else if c = '\x7b' then .error .form
  else if c = '[' then .ok { s with sets := 1, hasOperand := false }
  else if c = '\\' then .ok { s with position := .escape }
  else .ok s.goOn

/-- After the question mark that opens a group of a special kind. -/
def inFlags (s : State) (count : Nat) (c : Char) : Except Fault State :=
  if c = ':' then .ok { s with position := .plain }
  else if c = ')' && 0 < count then .ok { s with position := .plain, groups := s.groups - 1 }
  else if c = '<' && count = 0 then .ok { s with position := .name 0 }
  else if c = 'P' && count = 0 then .ok s
  else if isFlag c then .ok { s with position := .flags (count + 1) }
  else .error .form

def step (s : State) (c : Char) : Except Fault State :=
  match s.position with
  | .plain => if s.sets = 0 then s.outside c else s.inSet c
  | .opened =>
    if c = '?' then .ok { s with position := .flags 0 } else { s with position := .plain }.outside c
  | .flags count => s.inFlags count c
  | .name length =>
    if c = '>' && 0 < length then .ok { s with position := .plain }
    else if isNameChar c && !(length = 0 && c.isDigit) then
      .ok { s with position := .name (length + 1) }
    else .error .form
  | .escape => s.afterBackslash c
  | .property => if "LMNPSZClmnpszc".toList.contains c then .ok s.goOn else .error .form
  | .hexadecimal digits =>
    if !(c.isDigit || "abcdefABCDEF".toList.contains c) then .error .form
    else if digits ≤ 1 then .ok s.goOn
    else .ok { s with position := .hexadecimal (digits - 1) }

end State

/-- Refuses a text that is no regular expression, and then one with a word boundary. -/
def check (cs : List Char) : Except Fault Unit := do
  let s ← cs.foldlM State.step start
  if !(s.position = .plain && s.groups = 0 && s.sets = 0) then throw .form
  if s.hasBoundary then throw .boundary

end LuaStubs.Log.Pattern
