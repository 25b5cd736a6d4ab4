import LuaStubs.Encoding.Percent
import LuaStubs.Text.Affix

/-! Numeric host addresses: the readers accept every usual spelling, the printers write one. -/
namespace LuaStubs.Url

open LuaStubs.Text
open LuaStubs.Encoding

def digitsValue (base : Nat) (digits : List Nat) : Nat :=
  digits.foldl (fun n d => n * base + d) 0

/-- No digits at all mean zero. -/
def ofDigits? (base : Nat) (cs : List Char) : Option Nat :=
  match cs.mapM Percent.digit? with
  | some digits => if digits.all (· < base) then some (digitsValue base digits) else none
  | none => none

namespace Ipv4

/-- A number in hexadecimal after `0x`, in octal after `0`, else in decimal. -/
def number? : List Char → Option Nat
  | [] => none
  | '0' :: 'x' :: rest => ofDigits? 16 rest
  | '0' :: 'X' :: rest => ofDigits? 16 rest
  | '0' :: c :: rest => ofDigits? 8 (c :: rest)
  | cs => ofDigits? 10 cs

/-- The labels between dots; a dot at the end closes the last label. -/
def labels (host : List Char) : List (List Char) :=
  let ls := split (· = '.') host
  if ls.getLast? = some [] then ls.dropLast else ls

/-- A host whose last label looks like a number is an address. -/
def isIntended (host : List Char) : Bool :=
  match (labels host).getLast? with
  | none => false
  | some last => (last ≠ [] && last.all Char.isDigit) || (number? last).isSome

/-- All numbers but the last stand for one byte; the last fills the bytes that are left. -/
def combine? (numbers : List Nat) : Option Nat :=
  match numbers.reverse with
  | [] => none
  | last :: others =>
    if 4 ≤ others.length || others.any (255 < ·) || Nat.pow 256 (4 - others.length) ≤ last then none
    else some (digitsValue 256 others.reverse * Nat.pow 256 (4 - others.length) + last)

def parse? (host : List Char) : Option Nat := (labels host).mapM number? >>= combine?

def text (address : Nat) : List Char :=
  let byte (i : Nat) : List Char := (toString (address / Nat.pow 256 i % 256)).toList
  byte 3 ++ '.' :: byte 2 ++ '.' :: byte 1 ++ '.' :: byte 0

end Ipv4

namespace Ipv6

/-- Sixteen bits as one to four hexadecimal digits. -/
def piece? (cs : List Char) : Option Nat :=
  if cs = [] || 4 < cs.length then none else ofDigits? 16 cs

/-- A byte in decimal without leading zeros. -/
def byte? (cs : List Char) : Option Nat :=
  if cs = [] || 3 < cs.length || (cs.head? = some '0' && 1 < cs.length) then none
  else
    match ofDigits? 10 cs with
    | some n => if n < 256 then some n else none
    | none => none

/-- The end of an address may be written as four bytes. -/
def lastPieces? (cs : List Char) : Option (List Nat) :=
  match split (· = '.') cs with
  | [_] => (piece? cs).map (fun p => [p])
  | [a, b, c, d] => do
    let a ← byte? a
    let b ← byte? b
    let c ← byte? c
    let d ← byte? d
    return [a * 256 + b, c * 256 + d]
  | _ => none

def pieces? : List (List Char) → Option (List Nat)
  | [] => some []
  | [last] => lastPieces? last
  | cs :: rest => do
    let p ← piece? cs
    let ps ← pieces? rest
    return p :: ps

/-- The parts before and after the first pair of colons. -/
def gap? : List Char → Option (List Char × List Char)
  | ':' :: ':' :: rest => some ([], rest)
  | [] => none
  | c :: rest => (gap? rest).map (fun halves => (c :: halves.1, halves.2))

def side? (pieces : List (List Char) → Option (List Nat)) (cs : List Char) : Option (List Nat) :=
  if cs = [] then some [] else pieces (split (· = ':') cs)

/-- Eight pieces, or fewer with a gap that stands for at least one zero piece. -/
def parse? (cs : List Char) : Option (List Nat) :=
  match gap? cs with
  | none => do
    let ps ← side? pieces? cs
    if ps.length = 8 then some ps else none
  | some (front, back) => do
    let front ← side? (fun ls => ls.mapM piece?) front
    let back ← side? pieces? back
    let n := front.length + back.length
    if n < 8 then some (front ++ List.replicate (8 - n) 0 ++ back) else none

def hex (n : Nat) : List Char := Nat.toDigits 16 n

def joined (pieces : List Nat) : List Char := [':'].intercalate (pieces.map hex)

/-- Where the first of the longest runs of zeros begins, and its length. -/
def zeroRun (pieces : List Nat) : Nat × Nat :=
  (List.range pieces.length).foldl (fun best i =>
    let n := ((pieces.drop i).takeWhile (· = 0)).length
    if best.2 < n then (i, n) else best) (0, 0)

/-- Two zero pieces or more are left out, once. -/
def text (pieces : List Nat) : List Char :=
  let (start, n) := zeroRun pieces
  if n < 2 then joined pieces
  else joined (pieces.take start) ++ ':' :: ':' :: joined (pieces.drop (start + n))

end Ipv6

end LuaStubs.Url
