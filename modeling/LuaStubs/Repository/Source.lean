import LuaStubs.Repository.Route

/-! Where descriptor files come from: something that lists paths and holds texts. -/
namespace LuaStubs.Repository

inductive Failure where
  | listing (message : String)
  | fetch (path message : String)
  | decode (path message : String)
deriving DecidableEq, Repr

namespace Failure

def message : Failure → String
  | .listing m => "failed to list repository tree: " ++ m
  | .fetch path m => "failed to fetch " ++ path ++ ": " ++ m
  | .decode path m => "failed to decode " ++ path ++ ": " ++ m

end Failure

/-- All entries below the root; a long listing may have been cut off. -/
structure Listing where
  entries : List Entry
  truncated : Bool
deriving DecidableEq, Repr

/-- A path may have no content. -/
structure Source where
  list : Except Failure Listing
  fetch : String → Except Failure (Option String)

/-- A file held in memory: its content, nothing, or the message with which reading it fails. -/
structure Held where
  entry : Entry
  content : Except String (Option String)

/-- Reads the first file of a path. -/
def Source.ofHeld (files : List Held) : Source where
  list := .ok ⟨files.map Held.entry, false⟩
  fetch path :=
    match files.find? (fun f => f.entry.path = path) with
    | none => .error (.fetch path "404 Not Found")
    | some f => f.content.mapError (Failure.fetch path)

end LuaStubs.Repository
