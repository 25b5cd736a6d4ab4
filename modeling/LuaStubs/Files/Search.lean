import LuaStubs.Files.FileSystem
import LuaStubs.Files.Glob

/-! Finding the paths that a pattern describes.  Plain names are followed without looking around;
where a wildcard stands, the folder is read. -/
namespace LuaStubs.FileSystem

open LuaStubs.Files

abbrev Pattern := List (List Glob.Token)

/-- A path that has been reached, and whether a folder stands there. -/
structure Stop where
  path : String
  isFolder : Bool
deriving DecidableEq, Repr

/-- What comes of a search: a path that the pattern describes, or a folder that cannot be read. -/
inductive Finding where
  | found (path : String)
  | unreadable (path : String) (fault : Fault)
deriving DecidableEq, Repr

def stop (fs : FileSystem) (path : String) : Stop := ⟨path, fs.isFolder path⟩

/-- Of an entry the folder that holds it knows the kind; only a link is followed. -/
def entryStop (fs : FileSystem) (path : String) : Node → Stop
  | .folder => ⟨path, true⟩
  | .file _ => ⟨path, false⟩
  | .link _ => fs.stop path

/-- Whether a path leads nowhere but to where it begins. -/
def isHere (path : String) : Bool := steps path = ["."]

/-- Names in the folder at the beginning stand for themselves. -/
def enter (path name : String) : String := if isHere path then name else join path name

def isDots (name : String) : Bool := name = "." || name = ".."

/-- Passes the plain names at the front of a pattern, if they are there. -/
def advance (fs : FileSystem) (s : Stop) : Pattern → Option (Stop × Pattern)
  | [] => some (s, [])
  | p :: ps =>
    match Glob.literal? p with
    | none => some (s, p :: ps)
    | some name =>
      let next := enter s.path name
      if (if isDots name then s.isFolder else fs.isThere next) then advance fs (fs.stop next) ps
      else none

/-- What `expand` finds at a stop whose last name is matched with `p`, and below it. -/
def matching (expand : Pattern → Stop → List Finding) (s : Stop) (name : String)
    (p : List Glob.Token) (ps : Pattern) : List Finding :=
  if Glob.fits p name.toList then if ps.isEmpty then [.found s.path] else expand ps s else []

/-- A pattern for folders lets the next pattern have the name, and goes on below a folder. -/
def visit (expand : Pattern → Stop → List Finding) (s : Stop) (name : String)
    (p : List Glob.Token) (ps : Pattern) : List Finding :=
  if Glob.isFolders p then
    match ps.dropWhile Glob.isFolders with
    | [] => if s.isFolder then .found s.path :: expand [p] s else []
    | q :: qs =>
      matching expand s name q qs ++ (if s.isFolder then expand (p :: q :: qs) s else [])
  else matching expand s name p ps

/-- Names that begin with a dot may stand for the folder above and for the folder itself. -/
def dotted (p : List Glob.Token) : List String :=
  if p.head? = some (.char '.') then ["..", "."].filter (fun name => Glob.fits p name.toList)
  else []

/-- What a pattern describes from a stop on, at most `depth` readings deep. -/
def expand (fs : FileSystem) : Nat → Pattern → Stop → List Finding
  | 0, _, _ => []
  | depth + 1, pattern, s =>
    match fs.advance s pattern with
    | none => []
    | some (s, []) => [.found s.path]
    | some (s, p :: ps) =>
      if s.isFolder then
        match fs.children s.path with
        | .error fault => [.unreadable s.path fault]
        | .ok inner =>
          (dotted p).flatMap (fun name =>
              if ps.isEmpty then [.found (join s.path name)]
              else expand fs depth ps (fs.stop (join s.path name))) ++
            inner.flatMap (fun child =>
              visit (expand fs depth) (fs.entryStop (enter s.path child.1) child.2) child.1 p ps)
      else []

/-- Every reading adds a name and a slash to a path of bounded length. -/
def maxDepth : Nat := maxPath / 2 + 2

/-- The path where a search begins, and the names to look for from there.  An absolute pattern
begins at the slash in front of it. -/
def divide (pattern : String) : String × List (List Char) :=
  let rest := if isAbsolute pattern then pattern.toList.drop 1 else pattern.toList
  let ns := Text.split isSlash rest
  (if isAbsolute pattern then "/" else ".", if ns.getLast? = some [] then ns.dropLast else ns)

/-- What a pattern describes, folder by folder in the order of the names. -/
def search (fs : FileSystem) (pattern : String) : Except Glob.Fault (List Finding) :=
  (Glob.parse (divide pattern).2 pattern.toList).map
    (fun ps => fs.expand maxDepth ps (fs.stop (divide pattern).1))

namespace Finding

/-- The paths that were found; a folder that cannot be read spoils the search. -/
def paths : List Finding → Except String (List String)
  | [] => .ok []
  | .found path :: rest => (paths rest).map (path :: ·)
  | .unreadable path fault :: _ =>
    .error ("attempting to read `" ++ path ++ "` resulted in an error: " ++ fault.message)

end Finding

end LuaStubs.FileSystem
