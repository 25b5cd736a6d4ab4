import LuaStubs.Files.Search
import LuaStubs.Repository.Source

/-! A repository checked out into a folder. -/
namespace LuaStubs.Checkout

open Files (join below?)
open Repository (Entry Failure Listing Source)

/-- All JSON files below a folder.  The name of the folder is part of the pattern, and what does not
lie below a folder of that very name is dropped. -/
def pattern (root : String) : String := join (join root "**") "*.json"

def files (fs : FileSystem) (root : String) (paths : List String) : List String :=
  ((paths.filter fs.isFile).filterMap (below? root)).mergeSort (fun a b => decide (a ≤ b))

/-- The files in the order of their paths.  The root is a Unicode text, as are the names below it, and
every folder below it can be read. -/
def list (fs : FileSystem) (root : String) : Except Failure Listing :=
  if fs.isFolder root then
    match fs.search (pattern root) with
    | .error fault =>
      .error (.listing ("invalid glob pattern " ++ pattern root ++ ": " ++ fault.message))
    | .ok findings => do
      let paths ← (FileSystem.Finding.paths findings).mapError Failure.listing
      return ⟨(files fs root paths).map (Entry.mk .blob), false⟩
  else .error (.listing ("not a directory: " ++ root))

def fetch (fs : FileSystem) (root path : String) : Except Failure (Option String) :=
  match fs.read (join root path) with
  | .ok text => .ok (some text)
  | .error fault => .error (.fetch path fault.message)

def source (fs : FileSystem) (root : String) : Source := ⟨list fs root, fetch fs root⟩

end LuaStubs.Checkout
