import LuaStubs.Text.Affix

/-! Paths as texts: names between slashes. -/
namespace LuaStubs.Files

open LuaStubs.Text

def isSlash (c : Char) : Bool := c = '/'

def isAbsolute (path : String) : Bool := begins "/" path

/-- The texts between the slashes, empty ones included. -/
def names (path : String) : List String := (split isSlash path.toList).map String.ofList

/-- An absolute path stands for itself. -/
def join (base path : String) : String :=
  if isAbsolute path then path
  else if base = "" || ends "/" base then base ++ path
  else base ++ "/" ++ path

/-- Not a name that stays where it is. -/
def isStep (name : String) : Bool := name ≠ "" && name ≠ "."

/-- The steps of a path; a dot counts at the very beginning only, and an absolute path begins with
a slash. -/
def steps (path : String) : List String :=
  if isAbsolute path then "/" :: (names path).filter isStep
  else
    match names path with
    | [] => []
    | name :: rest =>
      if name = "." then "." :: rest.filter isStep else (name :: rest).filter isStep

/-- The path from `root` on, if `path` begins with the steps of `root`. -/
def below? (root path : String) : Option String :=
  if (steps root).isPrefixOf (steps path) then
    some ("/".intercalate ((steps path).drop (steps root).length))
  else none

end LuaStubs.Files
