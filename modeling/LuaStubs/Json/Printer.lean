import LuaStubs.Json.Basic

/-! JSON text of a value: compact on one line, or indented with one member to a line. -/
namespace LuaStubs.Json

/-- Only quotes, backslashes and control characters are escaped. -/
def escape (c : Char) : List Char :=
  if c = '"' then ['\\', '"']
  else if c = '\\' then ['\\', '\\']
  else if c.toNat = 8 then ['\\', 'b']
  else if c.toNat = 9 then ['\\', 't']
  else if c.toNat = 10 then ['\\', 'n']
  else if c.toNat = 12 then ['\\', 'f']
  else if c.toNat = 13 then ['\\', 'r']
  else if c.toNat < 32 then
    ['\\', 'u', '0', '0', Nat.digitChar (c.toNat / 16), Nat.digitChar (c.toNat % 16)]
  else [c]

def quoted (s : String) : List Char := '"' :: s.toList.flatMap escape ++ ['"']

def scalarText : Json → List Char
  | .null => ['n', 'u', 'l', 'l']
  | .bool true => ['t', 'r', 'u', 'e']
  | .bool false => ['f', 'a', 'l', 's', 'e']
  | .number n => n.text.toList
  | .string s => quoted s
  | .array _ => []
  | .object _ => []

mutual

def compactChars : Json → List Char
  | .array items => '[' :: compactItems items ++ [']']
  | .object members => '\x7b' :: compactMembers members ++ ['\x7d']
  | .null => scalarText .null
  | .bool b => scalarText (.bool b)
  | .number n => scalarText (.number n)
  | .string s => scalarText (.string s)

def compactItems : List Json → List Char
  | [] => []
  | [j] => j.compactChars
  | j :: rest => j.compactChars ++ ',' :: compactItems rest

def compactMembers : List (String × Json) → List Char
  | [] => []
  | [(k, j)] => quoted k ++ ':' :: j.compactChars
  | (k, j) :: rest => quoted k ++ ':' :: j.compactChars ++ ',' :: compactMembers rest

end

/-- No blanks. -/
def compact (j : Json) : String := String.ofList j.compactChars

/-- The line break before an entry at that depth. -/
def newline (depth : Nat) : List Char := '\n' :: List.replicate (2 * depth) ' '

mutual

def prettyChars (depth : Nat) : Json → List Char
  | .array [] => ['[', ']']
  | .array items => '[' :: prettyItems (depth + 1) items ++ newline depth ++ [']']
  | .object [] => ['\x7b', '\x7d']
  | .object members => '\x7b' :: prettyMembers (depth + 1) members ++ newline depth ++ ['\x7d']
  | .null => scalarText .null
  | .bool b => scalarText (.bool b)
  | .number n => scalarText (.number n)
  | .string s => scalarText (.string s)

def prettyItems (depth : Nat) : List Json → List Char
  | [] => []
  | [j] => newline depth ++ j.prettyChars depth
  | j :: rest => newline depth ++ j.prettyChars depth ++ ',' :: prettyItems depth rest

def prettyMembers (depth : Nat) : List (String × Json) → List Char
  | [] => []
  | [(k, j)] => newline depth ++ quoted k ++ ':' :: ' ' :: j.prettyChars depth
  | (k, j) :: rest =>
    newline depth ++ quoted k ++ ':' :: ' ' :: j.prettyChars depth ++
      ',' :: prettyMembers depth rest

end

/-- Two blanks for each level; empty arrays and objects stay on their line. -/
def pretty (j : Json) : String := String.ofList (j.prettyChars 0)

end LuaStubs.Json
