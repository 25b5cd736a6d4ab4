import LuaStubs.Json.Problem

/-! A text from a place on. -/
namespace LuaStubs.Json

structure Cursor where
  rest : List Char
  place : Place
deriving DecidableEq, Repr

namespace Cursor

def ofText (s : String) : Cursor := ⟨s.toList, .start⟩

/-- The place behind the next byte; at the end of the text there is none to draw. -/
def drawn (c : Cursor) : Place :=
  match c.rest with
  | [] => c.place
  | x :: _ => c.place.afterByte x

/-- A problem of what has been read. -/
def here (c : Cursor) : Spot := .both c.place

/-- A problem of the next byte. -/
def ahead (c : Cursor) : Spot := .both c.drawn

/-- A problem of what has been read, found by looking at the next byte. -/
def looking (c : Cursor) : Spot := ⟨c.place, c.drawn⟩

def isBlank (c : Char) : Bool := c = ' ' || c = '\n' || c = '\t' || c = '\r'

def skipBlanks (c : Cursor) : Cursor := go c.rest c.place
where
  go : List Char → Place → Cursor
    | [], p => ⟨[], p⟩
    | x :: xs, p => if isBlank x then go xs (p.after x) else ⟨x :: xs, p⟩

/-- Past the next character. -/
def next (c : Cursor) : Cursor :=
  match c.rest with
  | [] => c
  | x :: xs => ⟨xs, c.place.after x⟩

def size (c : Cursor) : Nat := c.rest.length

end Cursor

end LuaStubs.Json
