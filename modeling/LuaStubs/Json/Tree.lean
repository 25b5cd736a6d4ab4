import LuaStubs.Json.Text
import LuaStubs.Json.Numeral

/-! The tree of a text.  It is read without asking what the values should be and ends where the text
stops being JSON, so that a later reader meets faults of form and faults of content in the order of
the text.  `full` is the close reading of a tree, `skim` passes over it. -/
namespace LuaStubs.Json

/-- A member name and the spot behind it. -/
structure Key where
  text : Except Problem String
  after : Spot

/-- `start` looks at the first byte of a value, `stop` is the spot behind it, and `level` counts the
brackets open from the outermost to its own. -/
inductive Tree where
  | null (start stop : Spot)
  | bool (start stop : Spot) (value : Bool)
  | number (start stop : Spot) (value : Except Problem Number)
  | string (start stop : Spot) (value : Except Problem String)
  | array (start : Spot) (level : Nat) (items : List Tree) (stop : Except Fault Spot)
  | object (start : Spot) (level : Nat) (members : List (Key × Tree)) (stop : Except Fault Spot)
  | broken (start : Spot) (fault : Fault)

namespace Tree

/-- Brackets may be nested this deep. -/
def maxLevel : Nat := 127

/-- A tree, and where the text goes on. -/
abbrev Reading := Tree × Except Fault Cursor

def stopped (start : Spot) (fault : Fault) : Reading := (.broken start fault, .error fault)

/-- One of the words `null`, `true` and `false`, from behind its first letter. -/
def readWord (start : Spot) (letters : List Char) (value : Spot → Tree) (c : Cursor) : Reading :=
  match letters with
  | [] => (value c.here, .ok c)
  | x :: xs =>
    match c.rest with
    | [] => stopped start (.plain (.endOf .value) c.here)
    | y :: _ =>
      if y = x then readWord start xs value c.next else stopped start (.plain .word c.ahead)

def readNumber (start : Spot) (c : Cursor) : Reading :=
  match Numeral.scan c with
  | .error fault => stopped start fault
  | .ok (numeral, rest) => (.number start rest.looking (numeral.read rest), .ok rest)

/-- A string from behind its opening quote: the spot behind it and its characters. -/
def readString (c : Cursor) : Except Fault (Except Problem String × Cursor) :=
  match Text.skim c, Text.read c with
  | .ok rest, .ok (s, _) => .ok (.ok s, rest)
  | .ok rest, .error p => .ok (.error p, rest)
  | .error q, .error p => .error ⟨p, q⟩
  | .error q, .ok _ => .error ⟨q, q⟩

/-- The spot behind a member name; a closing bracket there is taken along. -/
def afterKey (c : Cursor) : Spot :=
  match c.rest with
  | '\x7d' :: _ => c.ahead
  | _ => c.looking

mutual

/-- The value at `c`; `level` brackets are open and `fuel` bounds the characters left. -/
def readValue (fuel level : Nat) (c : Cursor) : Reading :=
  match fuel with
  | 0 => stopped c.looking (.plain (.endOf .value) c.here)
  | fuel + 1 =>
    let c := c.skipBlanks
    match c.rest with
    | [] => stopped c.looking (.plain (.endOf .value) c.here)
    | x :: _ =>
      if x = 'n' then readWord c.looking ['u', 'l', 'l'] (Tree.null c.looking) c.next
      else if x = 't' then
        readWord c.looking ['r', 'u', 'e'] (fun s => Tree.bool c.looking s true) c.next
      else if x = 'f' then
        readWord c.looking ['a', 'l', 's', 'e'] (fun s => Tree.bool c.looking s false) c.next
      else if x = '"' then
        match readString c.next with
        | .ok (value, rest) => (.string c.looking rest.here value, .ok rest)
        | .error fault => stopped c.looking fault
      else if x = '[' then
        let first := c.next.skipBlanks
        match first.rest with
        | [] =>
          let fault : Fault := .plain (.endOf .list) first.here
          (.array c.looking (level + 1) [] (.error fault), .error fault)
        | ']' :: _ => (.array c.looking (level + 1) [] (.ok first.next.here), .ok first.next)
        | _ :: _ =>
          let (items, stop) := readItems fuel (level + 1) first
          (.array c.looking (level + 1) items (stop.map Cursor.here), stop)
      else if x = '\x7b' then
        let first := c.next.skipBlanks
        match first.rest with
        | [] =>
          let fault : Fault := .plain (.endOf .object) first.here
          (.object c.looking (level + 1) [] (.error fault), .error fault)
        | '\x7d' :: _ => (.object c.looking (level + 1) [] (.ok first.next.here), .ok first.next)
        | _ :: _ =>
          let (members, stop) := readMembers fuel (level + 1) first
          (.object c.looking (level + 1) members (stop.map Cursor.here), stop)
      else if x = '-' ∨ (Numeral.digit? x).isSome then readNumber c.looking c
      else stopped c.looking (.plain .noValue c.ahead)

/-- Items from the first one on, up to the closing bracket. -/
def readItems (fuel level : Nat) (c : Cursor) : List Tree × Except Fault Cursor :=
  match fuel with
  | 0 => ([], .error (.plain (.endOf .list) c.here))
  | fuel + 1 =>
    match readValue fuel level c with
    | (item, .error fault) => ([item], .error fault)
    | (item, .ok c) =>
      let c := c.skipBlanks
      match c.rest with
      | [] => ([item], .error (.plain (.endOf .list) c.here))
      | ']' :: _ => ([item], .ok c.next)
      | ',' :: _ =>
        let c := c.next.skipBlanks
        match c.rest with
        | ']' :: _ => ([item], .error (.worded .trailingComma .noValue c.ahead))
        | _ =>
          let (items, stop) := readItems fuel level c
          (item :: items, stop)
      | _ :: _ => ([item], .error (.plain .listSeparator c.ahead))

/-- Members from the first one on, up to the closing bracket. -/
def readMembers (fuel level : Nat) (c : Cursor) : List (Key × Tree) × Except Fault Cursor :=
  match fuel with
  | 0 => ([], .error (.plain (.endOf .object) c.here))
  | fuel + 1 =>
    match c.rest with
    | '"' :: _ =>
      match readString c.next with
      | .error fault => ([], .error fault)
      | .ok (name, c) =>
        let c := c.skipBlanks
        let key : Key := ⟨name, afterKey c⟩
        let lost (fault : Fault) : List (Key × Tree) × Except Fault Cursor :=
          ([(key, .broken c.looking fault)], .error fault)
        match c.rest with
        | [] => lost (.plain (.endOf .object) c.here)
        | ':' :: _ =>
          match readValue fuel level c.next with
          | (value, .error fault) => ([(key, value)], .error fault)
          | (value, .ok c) =>
            let c := c.skipBlanks
            match c.rest with
            | [] => ([(key, value)], .error (.plain (.endOf .object) c.here))
            | '\x7d' :: _ => ([(key, value)], .ok c.next)
            | ',' :: _ =>
              let c := c.next.skipBlanks
              match c.rest with
              | [] => ([(key, value)], .error (.worded (.endOf .value) (.endOf .object) c.here))
              | '\x7d' :: _ =>
                ([(key, value)], .error (.worded .trailingComma .keyNotString c.ahead))
              | _ :: _ =>
                let (members, stop) := readMembers fuel level c
                ((key, value) :: members, stop)
            | _ :: _ => ([(key, value)], .error (.plain .objectSeparator c.ahead))
        | _ :: _ => lost (.plain .colon c.ahead)
    | _ => ([], .error (.plain .keyNotString c.ahead))

end

/-- What a close reading calls too deep. -/
def checkLevel (start : Spot) (level : Nat) : Except Problem Unit :=
  if maxLevel < level then .error ⟨.depth, .both start.stream⟩ else .ok ()

/-- The end of an array or object in a close reading. -/
def closed (stop : Except Fault Spot) : Except Problem Spot := stop.mapError Fault.full

mutual

/-- The value of a tree, if all of it is in order. -/
def full : Tree → Except Problem Json
  | .null _ _ => .ok .null
  | .bool _ _ b => .ok (.bool b)
  | .number _ _ v => v.map Json.number
  | .string _ _ v => v.map Json.string
  | .array start level items stop => do
    checkLevel start level
    let items ← fullItems items
    let _ ← closed stop
    return .array items
  | .object start level members stop => do
    checkLevel start level
    let members ← fullMembers members
    let _ ← closed stop
    return .object members
  | .broken _ fault => .error fault.full

def fullItems : List Tree → Except Problem (List Json)
  | [] => .ok []
  | t :: rest => do
    let j ← t.full
    let js ← fullItems rest
    return j :: js

def fullMembers : List (Key × Tree) → Except Problem (List (String × Json))
  | [] => .ok []
  | (key, t) :: rest => do
    let name ← key.text
    let j ← t.full
    let js ← fullMembers rest
    return (name, j) :: js

end

mutual

/-- Only the form of the text counts: how deep it nests and what its strings and numbers hold does
not. -/
def skim : Tree → Except Problem Unit
  | .null _ _ => .ok ()
  | .bool _ _ _ => .ok ()
  | .number _ _ _ => .ok ()
  | .string _ _ _ => .ok ()
  | .array _ _ items stop => do
    skimItems items
    let _ ← stop.mapError Fault.skim
  | .object _ _ members stop => do
    skimMembers members
    let _ ← stop.mapError Fault.skim
  | .broken _ fault => .error fault.skim

def skimItems : List Tree → Except Problem Unit
  | [] => .ok ()
  | t :: rest => do
    t.skim
    skimItems rest

def skimMembers : List (Key × Tree) → Except Problem Unit
  | [] => .ok ()
  | (_, t) :: rest => do
    t.skim
    skimMembers rest

end

/-- Where the first byte of the value has been drawn. -/
def start : Tree → Spot
  | .null start _ => start
  | .bool start _ _ => start
  | .number start _ _ => start
  | .string start _ _ => start
  | .array start _ _ _ => start
  | .object start _ _ _ => start
  | .broken start _ => start

/-- The problem of a value that is not what is expected. -/
def mismatch (expected : String) : Tree → Problem
  | .null _ stop => ⟨.mismatch .null expected, stop⟩
  | .bool _ stop b => ⟨.mismatch (.bool b) expected, stop⟩
  | .number _ stop (.ok n) => ⟨.mismatch (.number n) expected, stop⟩
  | .number _ _ (.error p) => p
  | .string _ stop (.ok s) => ⟨.mismatch (.string s) expected, stop⟩
  | .string _ _ (.error p) => p
  | .array start _ _ _ => ⟨.mismatch .sequence expected, start⟩
  | .object start _ _ _ => ⟨.mismatch .map expected, start⟩
  | .broken _ fault => fault.full

end Tree

/-- A text with one value in it, and the first thing behind the value. -/
structure Document where
  root : Tree
  extra : Option Spot

def Document.ofText (text : String) : Document :=
  let c := Cursor.ofText text
  match Tree.readValue (2 * c.size + 1) 0 c with
  | (root, .error _) => ⟨root, none⟩
  | (root, .ok c) =>
    let c := c.skipBlanks
    match c.rest with
    | [] => ⟨root, none⟩
    | _ :: _ => ⟨root, some c.ahead⟩

end LuaStubs.Json
