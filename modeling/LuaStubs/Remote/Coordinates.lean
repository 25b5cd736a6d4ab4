import LuaStubs.Encoding.Percent
import LuaStubs.Text.Affix

/-! Where a repository is found behind a web API, and the addresses of its parts. -/
namespace LuaStubs.Remote

open LuaStubs.Text
open LuaStubs.Encoding

structure Coordinates where
  token : Option String
  owner : String
  repo : String
  reference : String
  api : String
deriving DecidableEq, Repr

namespace Coordinates

def defaultApi : String := "https://api.github.com"

def isSlash (c : Char) : Bool := c = '/'

/-- The API's address without slashes at its end. -/
def base (c : Coordinates) : String := String.ofList (dropEnd isSlash c.api.toList)

def repository (c : Coordinates) : String := c.base ++ "/repos/" ++ c.owner ++ "/" ++ c.repo

/-- The address of the listing of everything below the root. -/
def treeUrl (c : Coordinates) : String := c.repository ++ "/git/trees/" ++ c.reference

/-- The segments of a path, each percent encoded; slashes before the first are left out. -/
def encodedPath (path : String) : List Char :=
  ['/'].intercalate ((split isSlash (path.toList.dropWhile isSlash)).map Percent.segment)

/-- The address of the file at `path`. -/
def contentsUrl (c : Coordinates) (path : String) : String :=
  c.repository ++ "/contents/" ++ String.ofList (encodedPath path)

end Coordinates

end LuaStubs.Remote
