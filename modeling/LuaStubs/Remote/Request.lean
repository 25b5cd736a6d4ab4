import LuaStubs.Remote.Coordinates
import LuaStubs.Url.Parser

/-! Requests for the parts of a repository, and why some are never sent. -/
namespace LuaStubs.Remote

open LuaStubs.Text

structure Request where
  url : Url
  authorization : Option String
deriving DecidableEq, Repr

namespace Request

def method : String := "GET"

def accept : String := "application/vnd.github+json"

end Request

inductive Refusal where
  | header (value : String)
  | url (fault : Url.Fault)
  | scheme (url : Url)
deriving DecidableEq, Repr

def Refusal.message : Refusal → String
  | .header value => "Bad Header: invalid header 'Authorization: " ++ value ++ "'"
  | .url fault => "Bad URL: failed to parse URL: " ++ fault.message
  | .scheme u => u.text ++ ": Unknown Scheme: unknown scheme '" ++ u.scheme ++ "'"

namespace Coordinates

/-- Tabs, blanks and the visible characters of ASCII. -/
def isHeaderChar (c : Char) : Bool := c = '\t' || (32 ≤ c.toNat && c.toNat < 127)

def isBlank (c : Char) : Bool := c = ' ' || c = '\t'

/-- The value that proves who asks; a token with characters that no header holds is refused. -/
def authorization (c : Coordinates) : Except Refusal (Option String) :=
  match c.token with
  | none => .ok none
  | some token =>
    let value := "Bearer " ++ token
    if token.toList.all isHeaderChar then
      .ok (some (String.ofList (trim isBlank value.toList)))
    else .error (.header value)

/-- A request with one parameter. -/
def request (c : Coordinates) (address name value : String) : Except Refusal Request := do
  let authorization ← c.authorization
  let url ← (Url.parse address).mapError Refusal.url
  let url := url.withParameter name value
  if url.scheme = "http" || url.scheme = "https" then return ⟨url, authorization⟩
  else throw (.scheme url)

def listRequest (c : Coordinates) : Except Refusal Request := c.request c.treeUrl "recursive" "1"

def fileRequest (c : Coordinates) (path : String) : Except Refusal Request :=
  c.request (c.contentsUrl path) "ref" c.reference

end Coordinates

end LuaStubs.Remote
