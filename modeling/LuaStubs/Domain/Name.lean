import LuaStubs.Domain.Direction
import LuaStubs.Domain.Image
import LuaStubs.Domain.Joining
import LuaStubs.Domain.Punycode
import LuaStubs.Text.Affix
import LuaStubs.Text.Composition

/-! Domain names.  A name is brought into its normal form and written in ASCII: labels with other
characters are checked and then written in Punycode behind a mark. -/
namespace LuaStubs.Domain

open LuaStubs.Text

/-- What marks a label that is written in Punycode. -/
def punycodeMark : List Char := ['x', 'n', '-', '-']

def isAscii (cs : List Char) : Bool := cs.all Punycode.isPlain

def isControl (c : Char) : Bool := c.toNat < 32 || c.toNat = 127

/-- Characters that no host holds as they stand. -/
def isReserved (c : Char) : Bool :=
  c = ' ' || c = '#' || c = '/' || c = ':' || c = '<' || c = '>' || c = '?' || c = '@' ||
    c = '[' || c = '\\' || c = ']' || c = '^' || c = '|'

def isForbidden (c : Char) : Bool := isControl c || isReserved c || c = '%'

/-- Every character by what it stands for, and the whole composed. -/
def normalize? (cs : List Char) : Option (List Char) :=
  (cs.mapM image?).map (fun images => Composition.normalize images.flatten)

/-- The longest labels that are read from Punycode, and written in it. -/
def maxRead : Nat := 2000

def maxWritten : Nat := 1000

/-- A label as it is meant.  Punycode has to stand for a label in normal form that needs it. -/
def meaning? (label : List Char) : Option (List Char) :=
  if punycodeMark.isPrefixOf label then do
    let code := label.drop punycodeMark.length
    if maxRead < code.length || !isAscii code then none
    let meant ← Punycode.decode? code
    if isAscii meant || normalize? meant ≠ some meant then none
    else return meant
  else some label

/-- No label begins with a mark. -/
def beginsWell (label : List Char) : Bool := !(label.head?.map Marks.isMark).getD false

def isValid (label : List Char) : Bool := beginsWell label && joinsWell [] label

/-- A label in ASCII. -/
def written? (label : List Char) : Option (List Char) :=
  if isAscii label then some label
  else if maxWritten < label.length then none
  else some (punycodeMark ++ Punycode.encode label)

/-- A name whose labels are all plain stays as it is. -/
def isPlainName (labels : List (List Char)) : Bool :=
  labels.all (fun label => isAscii label && !punycodeMark.isPrefixOf label)

/-- The labels of a name in normal form, in ASCII. -/
def writtenLabels? (labels : List (List Char)) : Option (List (List Char)) := do
  let meant ← labels.mapM meaning?
  if meant.all isValid && isReadable meant then meant.mapM written? else none

/-- A name in ASCII, if it is one. -/
def toAscii? (cs : List Char) : Option (List Char) := do
  let name ← normalize? cs
  if name.any isForbidden then none
  else
    let labels := split (· = '.') name
    if isPlainName labels then return name
    else return ['.'].intercalate (← writtenLabels? labels)

end LuaStubs.Domain
