import LuaStubs.Json.Cursor
import LuaStubs.Encoding.Percent

/-! The characters of a JSON string, from behind the opening quote.  `read` resolves the escapes and
checks them all; `skim` only looks for the closing quote. -/
namespace LuaStubs.Json.Text

open Encoding

/-- Four hexadecimal digits. -/
def hexValue? (a b c d : Char) : Option Nat := do
  let a ← Percent.digit? a
  let b ← Percent.digit? b
  let c ← Percent.digit? c
  let d ← Percent.digit? d
  return a * 4096 + b * 256 + c * 16 + d

/-- Why four bytes are no digits: the text ends within them, or one of them is something else. -/
def hexProblem (rest : List Char) (p : Place) : Problem :=
  if (rest.take 4).foldl (fun n c => n + c.utf8Size) 0 < 4 then
    ⟨.endOf .string, .both (p.afterAll rest)⟩
  else ⟨.escape, .both (p.afterBytes 4 rest)⟩

/-- The character of a one-letter escape. -/
def short? (c : Char) : Option Char :=
  if c = '"' then some '"'
  else if c = '\\' then some '\\'
  else if c = '/' then some '/'
  else if c = 'b' then some (Char.ofNat 8)
  else if c = 'f' then some (Char.ofNat 12)
  else if c = 'n' then some '\n'
  else if c = 'r' then some '\r'
  else if c = 't' then some '\t'
  else none

def isHighSurrogate (n : Nat) : Bool := 0xD800 ≤ n && n < 0xDC00

def isLowSurrogate (n : Nat) : Bool := 0xDC00 ≤ n && n < 0xE000

def pair (high low : Nat) : Char :=
  Char.ofNat (0x10000 + (high - 0xD800) * 0x400 + (low - 0xDC00))

/-- What follows a high surrogate is not a second escape. -/
def pairProblem (rest : List Char) (p : Place) : Problem :=
  match rest with
  | [] => ⟨.endOf .string, .both p⟩
  | '\\' :: [] => ⟨.endOf .string, .both (p.after '\\')⟩
  | '\\' :: x :: _ => ⟨.unfinishedPair, .both ((p.after '\\').afterByte x)⟩
  | x :: _ => ⟨.unfinishedPair, .both (p.afterByte x)⟩

/-- Five characters on: the letter of the escape and its digits, behind the backslash. -/
def afterHex (p : Place) : Place := ⟨p.line, p.column + 5⟩

/-- The string up to its closing quote; `seen` holds its characters so far, the last one first. -/
def readFrom (seen : List Char) (p : Place) : List Char → Except Problem (String × Cursor)
  | [] => .error ⟨.endOf .string, .both p⟩
  | '"' :: rest => .ok (String.ofList seen.reverse, ⟨rest, p.after '"'⟩)
  | '\\' :: rest =>
    let q := p.after '\\'
    match rest with
    | [] => .error ⟨.endOf .string, .both q⟩
    | 'u' :: a :: b :: c :: d :: rest =>
      match hexValue? a b c d with
      | none => .error (hexProblem (a :: b :: c :: d :: rest) (q.after 'u'))
      | some n =>
        if isLowSurrogate n then .error ⟨.loneSurrogate, .both (afterHex q)⟩
        else if isHighSurrogate n then
          match rest with
          | '\\' :: 'u' :: a :: b :: c :: d :: rest =>
            let r := (afterHex q).after '\\'
            match hexValue? a b c d with
            | none => .error (hexProblem (a :: b :: c :: d :: rest) (r.after 'u'))
            | some m =>
              if isLowSurrogate m then readFrom (pair n m :: seen) (afterHex r) rest
              else .error ⟨.loneSurrogate, .both (afterHex r)⟩
          | '\\' :: 'u' :: rest =>
            .error (hexProblem rest (((afterHex q).after '\\').after 'u'))
          | rest => .error (pairProblem rest (afterHex q))
        else readFrom (Char.ofNat n :: seen) (afterHex q) rest
    | 'u' :: rest => .error (hexProblem rest (q.after 'u'))
    | x :: rest =>
      match short? x with
      | some c => readFrom (c :: seen) (q.after x) rest
      | none => .error ⟨.escape, .both (q.afterByte x)⟩
  | x :: rest =>
    if x.toNat < 32 then .error ⟨.control, .both (p.afterByte x)⟩
    else readFrom (x :: seen) (p.after x) rest

/-- Behind the closing quote; an escape needs its letter and, after `u`, four digits. -/
def skimFrom (p : Place) : List Char → Except Problem Cursor
  | [] => .error ⟨.endOf .string, .both p⟩
  | '"' :: rest => .ok ⟨rest, p.after '"'⟩
  | '\\' :: rest =>
    let q := p.after '\\'
    match rest with
    | [] => .error ⟨.endOf .string, .both q⟩
    | 'u' :: a :: b :: c :: d :: rest =>
      match hexValue? a b c d with
      | none => .error (hexProblem (a :: b :: c :: d :: rest) (q.after 'u'))
      | some _ => skimFrom (afterHex q) rest
    | 'u' :: rest => .error (hexProblem rest (q.after 'u'))
    | x :: rest =>
      match short? x with
      | some _ => skimFrom (q.after x) rest
      | none => .error ⟨.escape, .both (q.afterByte x)⟩
  | x :: rest =>
    if x.toNat < 32 then .error ⟨.control, ⟨p, p.afterByte x⟩⟩
    else skimFrom (p.after x) rest

theorem readFrom_quote (seen : List Char) (p : Place) (rest : List Char) :
    readFrom seen p ('"' :: rest) = .ok (String.ofList seen.reverse, ⟨rest, p.after '"'⟩) := by
  rw [readFrom]

theorem skimFrom_quote (p : Place) (rest : List Char) :
    skimFrom p ('"' :: rest) = .ok ⟨rest, p.after '"'⟩ := by
  rw [skimFrom]

def read (c : Cursor) : Except Problem (String × Cursor) := readFrom [] c.place c.rest

def skim (c : Cursor) : Except Problem Cursor := skimFrom c.place c.rest

end LuaStubs.Json.Text
