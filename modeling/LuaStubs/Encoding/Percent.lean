import LuaStubs.Text.Utf8

/-! Percent encoding: bytes outside a set of plain characters become `%XX`.  Path segments and form
values differ in their plain characters and in how they write a space. -/
namespace LuaStubs.Encoding.Percent

open LuaStubs.Text

/-- One upper-case hexadecimal digit. -/
def digit (n : Nat) : Char := if n < 10 then Char.ofNat (48 + n) else Char.ofNat (55 + n)

def digit? (c : Char) : Option Nat :=
  let n := c.toNat
  if 48 ≤ n ∧ n ≤ 57 then some (n - 48)
  else if 65 ≤ n ∧ n ≤ 70 then some (n - 55)
  else if 97 ≤ n ∧ n ≤ 102 then some (n - 87)
  else none

def escapeByte (b : UInt8) : List Char := ['%', digit (b.toNat / 16), digit (b.toNat % 16)]

def escape (c : Char) : List Char := (Utf8.encodeChar c).flatMap escapeByte

/-- Escapes every character that `plain` does not admit. -/
def encodeWith (plain : Char → Bool) (cs : List Char) : List Char :=
  cs.flatMap (fun c => if plain c then [c] else escape c)

/-- Letters, digits and `-`, `_`, `.`, `~` of ASCII. -/
def isUnreserved (c : Char) : Bool :=
  c.isAlphanum || c = '-' || c = '_' || c = '.' || c = '~'

/-- A path segment. -/
def segment (cs : List Char) : List Char := encodeWith isUnreserved cs

def isFormPlain (c : Char) : Bool :=
  c.isAlphanum || c = '*' || c = '-' || c = '.' || c = '_'

/-- A name or a value of a query in form encoding. -/
def form (cs : List Char) : List Char :=
  cs.flatMap (fun c => if c = ' ' then ['+'] else if isFormPlain c then [c] else escape c)

/-- The bytes of a text in which `%XX` stands for one byte and every other character for its own;
a `%` without two digits stands for itself. -/
def bytes : List Char → List UInt8
  | [] => []
  | '%' :: h :: l :: rest =>
    match digit? h, digit? l with
    | some h, some l => UInt8.ofNat (h * 16 + l) :: bytes rest
    | _, _ => Utf8.encodeChar '%' ++ bytes (h :: l :: rest)
  | c :: rest => Utf8.encodeChar c ++ bytes rest

/-- The text behind the escapes, if its bytes are UTF-8. -/
def decode (cs : List Char) : Option (List Char) := (Utf8.decode (bytes cs)).toOption

/-- As `decode`, with `+` for a space. -/
def decodeForm (cs : List Char) : Option (List Char) :=
  decode (cs.map (fun c => if c = '+' then ' ' else c))

end LuaStubs.Encoding.Percent
