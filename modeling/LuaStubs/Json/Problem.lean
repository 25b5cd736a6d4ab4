import LuaStubs.Json.Basic
import LuaStubs.Text.Quoted

/-! What is wrong with a JSON text, and where.  A problem is a cause at a spot; the wording of the
causes is in `Cause.message`. -/
namespace LuaStubs.Json

/-- Lines count from 1; the column counts the bytes since the last line break. -/
structure Place where
  line : Nat
  column : Nat
deriving DecidableEq, Repr

namespace Place

def start : Place := ⟨1, 0⟩

def afterByte (p : Place) (c : Char) : Place :=
  if c = '\n' then ⟨p.line + 1, 0⟩ else ⟨p.line, p.column + 1⟩

def after (p : Place) (c : Char) : Place :=
  if c = '\n' then ⟨p.line + 1, 0⟩ else ⟨p.line, p.column + c.utf8Size⟩

def afterAll (p : Place) (cs : List Char) : Place := cs.foldl after p

/-- The place after the first `n` bytes of `cs`. -/
def afterBytes (p : Place) (n : Nat) : List Char → Place
  | [] => p
  | c :: cs =>
    if n = 0 then p
    else if n < c.utf8Size then ⟨p.line, p.column + n⟩
    else afterBytes (p.after c) (n - c.utf8Size) cs

end Place

/-- A text comes whole or as a stream. -/
inductive View where
  | text
  | stream
deriving DecidableEq, Repr

/-- Where a problem is reported.  The reader of a stream has drawn the byte it looks at. -/
structure Spot where
  text : Place
  stream : Place
deriving DecidableEq, Repr

namespace Spot

def both (p : Place) : Spot := ⟨p, p⟩

def inView (s : Spot) : View → Place
  | .text => s.text
  | .stream => s.stream

end Spot

/-- What stands where something else is expected. -/
inductive Found where
  | null
  | bool (value : Bool)
  | number (value : Number)
  | string (value : String)
  | sequence
  | map
deriving DecidableEq, Repr

def found : Json → Found
  | .null => .null
  | .bool b => .bool b
  | .number n => .number n
  | .string s => .string s
  | .array _ => .sequence
  | .object _ => .map

def Found.text : Found → String
  | .null => "null"
  | .bool true => "boolean `true`"
  | .bool false => "boolean `false`"
  | .number (.integer n) => s!"integer `{n}`"
  | .number (.decimal negative v) =>
    "floating point `" ++ (Number.decimal negative v).text ++ "`"
  | .string s => "string " ++ Text.Quoted.quote s
  | .sequence => "sequence"
  | .map => "map"

/-- What a text can end inside. -/
inductive Part where
  | value
  | list
  | object
  | string
deriving DecidableEq, Repr

inductive Cause where
  | endOf (part : Part)
  | colon
  | listSeparator
  | objectSeparator
  | word
  | noValue
  | escape
  | number
  | range
  | control
  | keyNotString
  | loneSurrogate
  | unfinishedPair
  | trailingComma
  | trailingText
  | depth
  | mismatch (found : Found) (expected : String)
  | length (count : Nat) (expected : String)
  | missing (field : String)
  | duplicate (field : String)
deriving DecidableEq, Repr

def Cause.message : Cause → String
  | .endOf .value => "EOF while parsing a value"
  | .endOf .list => "EOF while parsing a list"
  | .endOf .object => "EOF while parsing an object"
  | .endOf .string => "EOF while parsing a string"
  | .colon => "expected `:`"
  | .listSeparator => "expected `,` or `]`"
  | .objectSeparator => "expected `,` or `\x7d`"
  | .word => "expected ident"
  | .noValue => "expected value"
  | .escape => "invalid escape"
  | .number => "invalid number"
  | .range => "number out of range"
  | .control => "control character (\\u0000-\\u001F) found while parsing a string"
  | .keyNotString => "key must be a string"
  | .loneSurrogate => "lone leading surrogate in hex escape"
  | .unfinishedPair => "unexpected end of hex escape"
  | .trailingComma => "trailing comma"
  | .trailingText => "trailing characters"
  | .depth => "recursion limit exceeded"
  | .mismatch found expected => "invalid type: " ++ found.text ++ ", expected " ++ expected
  | .length count expected => s!"invalid length {count}, expected " ++ expected
  | .missing field => "missing field `" ++ field ++ "`"
  | .duplicate field => "duplicate field `" ++ field ++ "`"

structure Problem where
  cause : Cause
  spot : Spot
deriving DecidableEq, Repr

def Problem.message (view : View) (p : Problem) : String :=
  let place := p.spot.inView view
  p.cause.message ++ s!" at line {place.line} column {place.column}"

/-- A fault of the text itself: what a close reading says of it, and what skimming says. -/
structure Fault where
  full : Problem
  skim : Problem
deriving DecidableEq, Repr

namespace Fault

def plain (cause : Cause) (spot : Spot) : Fault := ⟨⟨cause, spot⟩, ⟨cause, spot⟩⟩

def worded (full skim : Cause) (spot : Spot) : Fault := ⟨⟨full, spot⟩, ⟨skim, spot⟩⟩

end Fault

end LuaStubs.Json
