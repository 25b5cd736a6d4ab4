import LuaStubs.Url.Basic

/-! Reading URLs as browsers do.  The text is cut at the marks that end its parts, from the scheme
to the fragment; each part is then brought into its normal form. -/
namespace LuaStubs.Url

open LuaStubs.Text
open LuaStubs.Encoding

/-! ## Characters -/

def isBlank (c : Char) : Bool := c.toNat ≤ 32

/-- Left out wherever they stand. -/
def isBreak (c : Char) : Bool := c = '\t' || c = '\n' || c = '\r'

def isSchemeChar (c : Char) : Bool := c.isAlphanum || c = '+' || c = '-' || c = '.'

def isVisible (c : Char) : Bool := 32 < c.toNat && c.toNat < 127

def isFragmentPlain (c : Char) : Bool :=
  isVisible c && !(c = '"' || c = '<' || c = '>' || c = Char.ofNat 96)

def isPathPlain (c : Char) : Bool :=
  isFragmentPlain c && !(c = '#' || c = '?' || c = '\x7b' || c = '\x7d')

def isUserPlain (c : Char) : Bool :=
  isPathPlain c && !(c = '/' || c = ':' || c = ';' || c = '=' || c = '@' || c = '[' || c = '\\' ||
    c = ']' || c = '^' || c = '|')

def isQueryPlain (isSpecial : Bool) (c : Char) : Bool :=
  isVisible c && !(c = '"' || c = '#' || c = '<' || c = '>' || (isSpecial && c = '\''))

/-! ## Schemes -/

/-- The port that a scheme implies; a scheme that has one, and `file`, are special. -/
def defaultPort? (scheme : String) : Option Nat :=
  if scheme = "http" || scheme = "ws" then some 80
  else if scheme = "https" || scheme = "wss" then some 443
  else if scheme = "ftp" then some 21
  else none

def isSpecial (scheme : String) : Bool := (defaultPort? scheme).isSome || scheme = "file"

/-- The scheme in small letters and what follows its colon. -/
def scheme? (cs : List Char) : Option (String × List Char) :=
  match cs with
  | [] => none
  | c :: _ =>
    if c.isAlpha then
      match cs.dropWhile isSchemeChar with
      | ':' :: rest => some (String.ofList ((cs.takeWhile isSchemeChar).map Char.toLower), rest)
      | _ => none
    else none

/-! ## Authorities -/

/-- The texts before and after the last `@`. -/
def splitUser (authority : List Char) : List Char × List Char :=
  match authority.reverse.dropWhile (· ≠ '@') with
  | [] => ([], authority)
  | _ :: front => (front.reverse, (authority.reverse.takeWhile (· ≠ '@')).reverse)

/-- The host, and what stands behind it; a colon between brackets belongs to the host. -/
def splitHost (inBrackets : Bool) : List Char → List Char × List Char
  | [] => ([], [])
  | c :: cs =>
    if c = ':' && !inBrackets then ([], c :: cs)
    else
      let (host, rest) := splitHost (if c = '[' then true else if c = ']' then false else inBrackets) cs
      (c :: host, rest)

/-- Everywhere a backslash ends a port.  Where it is no slash, it begins a path all the same. -/
def splitPort (portText rest : List Char) : List Char × List Char :=
  match portText.dropWhile (· ≠ '\\') with
  | [] => (portText, rest)
  | more => (portText.takeWhile (· ≠ '\\'), '/' :: more ++ rest)

/-- The port after a colon; the one that the scheme implies is not kept. -/
def portOf (scheme : String) : List Char → Except Fault (Option Nat)
  | [] => .ok none
  | _ :: digits =>
    if !digits.all Char.isDigit then .error .port
    else
      match ofDigits? 10 digits with
      | none => .error .port
      | some n =>
        if 65535 < n then .error .port
        else if digits = [] || defaultPort? scheme = some n then .ok none
        else .ok (some n)

/-! ## Paths -/

/-- Dots may be escaped. -/
def dots (segment : List Char) : List Char :=
  match segment.map Char.toLower with
  | ['%', '2', 'e'] => ['.']
  | ['.', '%', '2', 'e'] => ['.', '.']
  | ['%', '2', 'e', '.'] => ['.', '.']
  | ['%', '2', 'e', '%', '2', 'e'] => ['.', '.']
  | cs => cs

def isDriveMark (c : Char) : Bool := c = ':' || c = '|'

/-- A letter and its mark name a drive. -/
def isDrive (cs : List Char) : Bool :=
  match cs with
  | [c, mark] => c.isAlpha && isDriveMark mark
  | _ => false

/-- Whether a segment is a drive, or begins with one before a backslash. -/
def startsDrive (cs : List Char) : Bool :=
  match cs with
  | c :: mark :: rest =>
    c.isAlpha && isDriveMark mark && (rest = [] || rest.head? = some '\\')
  | _ => false

/-- Without the last segment; nothing lies above a drive. -/
def up (above : List (List Char)) : List (List Char) :=
  match above with
  | [] => []
  | last :: rest => if startsDrive last then last :: rest else rest

/-- One dot stays where it is, two dots go up; `above` are the segments so far, the last one
first. -/
def resolve (above : List (List Char)) : List (List Char) → List (List Char)
  | [] => above.reverse
  | segment :: rest =>
    if dots segment = ['.', '.'] then
      resolve (if rest.isEmpty then [] :: up above else up above) rest
    else if dots segment = ['.'] then resolve (if rest.isEmpty then [] :: above else above) rest
    else resolve (segment :: above) rest

def isSlash (isSpecial : Bool) (c : Char) : Bool := c = '/' || (isSpecial && c = '\\')

/-- The segments of a path; only in a URL of another than a special scheme there may be none. -/
def segments (isSpecial : Bool) (cs : List Char) : List (List Char) :=
  match cs with
  | [] => if isSpecial then [[]] else []
  | _ :: rest =>
    resolve [] ((split (isSlash isSpecial) rest).map (Percent.encodeWith isPathPlain))

/-! ## Whole URLs -/

/-- Path, query and fragment as they stand. -/
structure Tail where
  path : List Char
  query : Option (List Char)
  fragment : Option (List Char)

def afterMark (cs : List Char) : Option (List Char) :=
  match cs with
  | [] => none
  | _ :: rest => some rest

/-- Cut at the first `#`, and before it at the first `?`. -/
def tail (cs : List Char) : Tail :=
  let front := cs.takeWhile (· ≠ '#')
  { path := front.takeWhile (· ≠ '?')
    query := afterMark (front.dropWhile (· ≠ '?'))
    fragment := afterMark (cs.dropWhile (· ≠ '#')) }

def assemble (scheme : String) (user password : List Char) (host : Host) (port : Option Nat)
    (t : Tail) : Url where
  scheme := scheme
  user := user
  password := password
  host := host
  port := port
  path := segments (isSpecial scheme) t.path
  query := t.query.map (Percent.encodeWith (isQueryPlain (isSpecial scheme)))
  fragment := t.fragment.map (Percent.encodeWith isFragmentPlain)

def isAuthorityEnd (isSpecial : Bool) (c : Char) : Bool := isSlash isSpecial c || c = '?' || c = '#'

/-- A text that begins with the authority. -/
def withAuthority (scheme : String) (cs : List Char) : Except Fault Url := do
  let (userText, server) := splitUser (cs.takeWhile (fun c => !isAuthorityEnd (isSpecial scheme) c))
  let (hostText, serverRest) := splitHost false server
  let (portText, rest) :=
    splitPort serverRest (cs.dropWhile (fun c => !isAuthorityEnd (isSpecial scheme) c))
  let host ← if isSpecial scheme then Host.parse hostText else Host.parsePlain hostText
  let port ← portOf scheme portText
  let user := Percent.encodeWith isUserPlain (userText.takeWhile (· ≠ ':'))
  let password := Percent.encodeWith isUserPlain ((userText.dropWhile (· ≠ ':')).drop 1)
  return assemble scheme user password host port (tail rest)

/-- Whether a path names a drive, even one that it leaves again. -/
def namesDrive (path : List Char) : Bool := (split (isSlash true) path).any isDrive

/-- A file has a host only when it is named, is not the machine itself and no drive is named. -/
def ofFile (cs : List Char) : Except Fault Url := do
  let name := cs.takeWhile (fun c => !isAuthorityEnd true c)
  let t := tail (cs.dropWhile (fun c => !isAuthorityEnd true c))
  if isDrive name then throw .noHost
  let host ← Host.parse name
  if host = .name ['l', 'o', 'c', 'a', 'l', 'h', 'o', 's', 't'] then throw .noHost
  if namesDrive t.path then throw .noHost
  let u := assemble "file" [] [] host none t
  match u.path.dropWhile (· = []) with
  | [] => return { u with path := [[]] }
  | named => return { u with path := named }

/-- Reads a URL that has a host. -/
def parse (text : String) : Except Fault Url :=
  match scheme? ((trim isBlank text.toList).filter (fun c => !isBreak c)) with
  | none => .error .noScheme
  | some (scheme, rest) =>
    if scheme = "file" then
      match rest with
      | a :: b :: rest => if isSlash true a && isSlash true b then ofFile rest else .error .noHost
      | _ => .error .noHost
    else if isSpecial scheme then withAuthority scheme (rest.dropWhile (isSlash true))
    else
      match rest with
      | '/' :: '/' :: rest => withAuthority scheme rest
      | _ => .error .noHost

end LuaStubs.Url
