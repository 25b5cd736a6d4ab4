import LuaStubs.Json.Decoder
import LuaStubs.Remote.Payload
import LuaStubs.Repository.Source
import LuaStubs.Text.Affix
import LuaStubs.Text.Whitespace

/-! Replies of the API: listings and files in JSON. -/
namespace LuaStubs.Remote

open Text (isWhite split trim)
open Json (Decoder Fields)
open Json.Fields (required withDefault optionalMember)

structure Reply where
  status : Nat
  statusText : String
  body : String
deriving DecidableEq, Repr

/-- Why a request brings no body to read. -/
inductive Rejection where
  | unreachable (reason : String)
  | statusLine
  | statusLength
  | status (code : Nat) (text : String)
deriving DecidableEq, Repr

def Rejection.message : Rejection → String
  | .unreachable reason => reason
  | .statusLine => "Bad Status: Status line not ASCII"
  | .statusLength => "Bad Status: Status code was wrong length"
  | .status code text => s!"HTTP {code} " ++ text

namespace Reply

def notFound : Reply := ⟨404, "Not Found", ""⟩

/-- A line without the carriage return at its end. -/
def chomp (line : List Char) : List Char :=
  if line.getLast? = some '\r' then line.dropLast else line

/-- The lines in front of the body.  A status text of several lines takes the place of headers, and
of the body's beginning if one of its lines is empty. -/
def head (r : Reply) : List (List Char) :=
  split (· = '\n') (r.statusText.toList ++ ['\r', '\n', '\r', '\n'])

/-- The status text ends where its line does. -/
def statusLine (r : Reply) : List Char := chomp (r.head.headD [])

/-- What stands behind the first empty line. -/
def surplus (r : Reply) : List Char :=
  ['\n'].intercalate (((r.head.drop 1).dropWhile (fun line => chomp line ≠ [])).drop 1)

/-- Replies of these kinds come without a body, whatever follows them. -/
def isBodiless (status : Nat) : Bool := status = 204 || status = 304

/-- The body of a reply that reports no failure. -/
def content (r : Reply) : Except Rejection String :=
  if r.statusLine.any (fun c => 128 ≤ c.toNat) then .error .statusLine
  else if r.status < 100 || 1000 ≤ r.status then .error .statusLength
  else if 400 ≤ r.status then
    .error (.status r.status (String.ofList (trim isWhite r.statusLine)))
  else .ok (if isBodiless r.status then "" else String.ofList r.surplus ++ r.body)

end Reply

/-- An item of a listing. -/
structure Item where
  path : Option String
  type : Option String
deriving DecidableEq, Repr

namespace Item

def decoder : Decoder Item :=
  (Item.mk <$> optionalMember "path" Decoder.string
    <*> optionalMember "type" Decoder.string).looseDecoder "TreeItem"

def kind? (i : Item) : Option Repository.Kind :=
  match i.type with
  | some "blob" => some .blob
  | some "tree" => some .tree
  | _ => none

/-- Only files and folders that have a path are entries. -/
def entry? (i : Item) : Option Repository.Entry := do
  let kind ← i.kind?
  let path ← i.path
  return ⟨kind, path⟩

end Item

structure Tree where
  items : List Item
  truncated : Bool
deriving DecidableEq, Repr

namespace Tree

def decoder : Decoder Tree :=
  (Tree.mk <$> required "tree" (Decoder.list Item.decoder)
    <*> withDefault "truncated" Decoder.bool false).looseDecoder "TreeResponse"

def listing (t : Tree) : Repository.Listing := ⟨t.items.filterMap Item.entry?, t.truncated⟩

end Tree

/-- What the API says of a file; a folder has no content. -/
structure File where
  payload : Option String
deriving DecidableEq, Repr

def File.decoder : Decoder File :=
  (File.mk <$> optionalMember "content" Decoder.string).looseDecoder "ContentResponse"

def readBody {α : Type} (d : Decoder α) (body : String) : Except String α :=
  (d.run body).mapError (fun p => "Failed to read JSON: " ++ p.message .stream)

end LuaStubs.Remote
