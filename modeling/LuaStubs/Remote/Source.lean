import LuaStubs.Remote.Reply
import LuaStubs.Remote.Request

/-! A repository behind an API, which replies to each request that is sent. -/
namespace LuaStubs.Remote

open Repository (Failure Listing Source)

/-- A reply, or why the request does not get through. -/
abbrev Api := Request → Except String Reply

/-- The body that a request brings. -/
def Api.body (api : Api) (r : Request) : Except Rejection String :=
  match api r with
  | .error reason => .error (.unreachable reason)
  | .ok reply => reply.content

/-- The text that the payload of the file at `path` stands for. -/
def textOf (path payload : String) : Except Failure String :=
  (Payload.decode payload).mapError (fun fault => .decode path fault.message)

namespace Coordinates

/-- The body that comes back, or why there is none. -/
def exchange (request : Except Refusal Request) (api : Api) : Except String String :=
  match request with
  | .error refusal => .error refusal.message
  | .ok r => (api.body r).mapError Rejection.message

def list (c : Coordinates) (api : Api) : Except Failure Listing := do
  let body ← (exchange c.listRequest api).mapError Failure.listing
  let tree ← (readBody Tree.decoder body).mapError Failure.listing
  return tree.listing

/-- The text of a file; a reply that cannot be read is a fault of the file. -/
def fetch (c : Coordinates) (api : Api) (path : String) :
    Except Failure (Option String) := do
  let body ← (exchange (c.fileRequest path) api).mapError (Failure.fetch path)
  let file ← (readBody File.decoder body).mapError (Failure.decode path)
  match file.payload with
  | none => return none
  | some payload =>
    let text ← textOf path payload
    return some text

def source (c : Coordinates) (api : Api) : Source := ⟨c.list api, c.fetch api⟩

/-- The requests that are sent to list the repository and then to read the files at these paths. -/
def sent (c : Coordinates) (isListed : Bool) (paths : List String) : List Request :=
  ((if isListed then [c.listRequest] else []) ++ paths.map c.fileRequest).filterMap
    Except.toOption

end Coordinates

end LuaStubs.Remote
