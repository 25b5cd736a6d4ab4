import LuaStubs.Files.Path
import LuaStubs.Keyed
import LuaStubs.Text.Utf8

/-! A file system: files, folders and symbolic links at places, which are lists of names from the
top.  `find` follows a path to the place it leads to. -/
namespace LuaStubs

open LuaStubs.Files

inductive FileSystem.Node where
  | file (bytes : List UInt8)
  | folder
  | link (target : String)
deriving DecidableEq, Repr

/-- `here` is the place where relative paths begin.  The top is a folder without an entry.  All names
are Unicode texts, and there is nothing that must not be read. -/
structure FileSystem where
  entries : List (List String × FileSystem.Node)
  here : List String
deriving DecidableEq, Repr

namespace FileSystem

inductive Fault where
  | missing
  | occupied
  | noFolder
  | folder
  | nameLength
  | links
  | nulByte
  | noText
deriving DecidableEq, Repr

def Fault.message : Fault → String
  | .missing => "No such file or directory (os error 2)"
  | .occupied => "File exists (os error 17)"
  | .noFolder => "Not a directory (os error 20)"
  | .folder => "Is a directory (os error 21)"
  | .nameLength => "File name too long (os error 36)"
  | .links => "Too many levels of symbolic links (os error 40)"
  | .nulByte => "file name contained an unexpected NUL byte"
  | .noText => "stream did not contain valid UTF-8"

def node? (fs : FileSystem) (place : List String) : Option Node :=
  if place = [] then some .folder else (Keyed.get? Prod.fst place fs.entries).map Prod.snd

/-- The most links that one path may lead through. -/
def maxLinks : Nat := 40

/-- The most bytes of a name, and of a path. -/
def maxName : Nat := 255

def maxPath : Nat := 4095

def start (fs : FileSystem) (path : String) : List String :=
  if isAbsolute path then [] else fs.here

/-- Follows names from a place; a link leads on from the folder it stands in. -/
def walk (fs : FileSystem) (links : Nat) (place : List String) (ns : List String) :
    Except Fault (List String) :=
  match ns with
  | [] => .ok place
  | name :: rest =>
    if fs.node? place ≠ some .folder then .error .noFolder
    else if !isStep name then walk fs links place rest
    else if name = ".." then walk fs links place.dropLast rest
    else if maxName < name.utf8ByteSize then .error .nameLength
    else
      match fs.node? (place ++ [name]) with
      | none => .error .missing
      | some (.link target) =>
        match links with
        | 0 => .error .links
        | links + 1 =>
          walk fs links (if isAbsolute target then [] else place) (names target ++ rest)
      | some _ => walk fs links (place ++ [name]) rest
termination_by (links, ns.length)

/-- What makes a text no path at all. -/
def check (path : String) : Except Fault Unit :=
  if path.toList.any (fun c => c.toNat = 0) then .error .nulByte
  else if path = "" then .error .missing
  else if maxPath < path.utf8ByteSize then .error .nameLength
  else .ok ()

/-- The place that a path leads to. -/
def find (fs : FileSystem) (path : String) : Except Fault (List String) := do
  check path
  fs.walk maxLinks (fs.start path) (names path)

/-- What a path leads to. -/
def nodeAt? (fs : FileSystem) (path : String) : Option Node :=
  match fs.find path with
  | .error _ => none
  | .ok place => fs.node? place

def isThere (fs : FileSystem) (path : String) : Bool := (fs.nodeAt? path).isSome

def isFolder (fs : FileSystem) (path : String) : Bool := fs.nodeAt? path = some .folder

def isFile (fs : FileSystem) (path : String) : Bool :=
  match fs.nodeAt? path with
  | some (.file _) => true
  | _ => false

/-- The text of the file at the end of a path. -/
def read (fs : FileSystem) (path : String) : Except Fault String := do
  let place ← fs.find path
  match fs.node? place with
  | some (.file bytes) => (Text.Utf8.text bytes).mapError (fun _ => .noText)
  | some .folder => throw .folder
  | _ => throw .missing

/-- The name and the node of an entry that stands in the folder at `place`. -/
def child? (place : List String) (entry : List String × Node) : Option (String × Node) :=
  if entry.1.dropLast = place then entry.1.getLast?.map (fun name => (name, entry.2)) else none

/-- What stands in the folder that a path leads to, in the order of the names. -/
def children (fs : FileSystem) (path : String) : Except Fault (List (String × Node)) :=
  (fs.find path).map (fun place =>
    (fs.entries.filterMap (child? place)).mergeSort (fun a b => decide (a.1 ≤ b.1)))

def put (fs : FileSystem) (place : List String) (n : Node) : FileSystem :=
  { fs with entries := Keyed.put Prod.fst (place, n) fs.entries }

/-- The folder where the last name of a path stands, and that name; slashes at the end do not
count. -/
def spot (fs : FileSystem) (path : String) : Except Fault (List String × String) := do
  check path
  match (names path).reverse.dropWhile (· = "") with
  | [] => throw .occupied
  | name :: front =>
    let place ← fs.walk maxLinks (fs.start path) front.reverse
    if fs.node? place ≠ some .folder then throw .noFolder
    return (place, name)

/-- Makes the folder at the end of a path, where nothing may stand yet. -/
def makeFolder (fs : FileSystem) (path : String) : Except Fault FileSystem := do
  let (place, name) ← fs.spot path
  if !isStep name || name = ".." then throw .occupied
  else if maxName < name.utf8ByteSize then throw .nameLength
  else if (fs.node? (place ++ [name])).isSome then throw .occupied
  else return fs.put (place ++ [name]) .folder

/-- Makes the file at the end of a path, or replaces its content. -/
def writeFile (fs : FileSystem) (path : String) (bytes : List UInt8) : Except Fault FileSystem := do
  let (place, name) ← fs.spot path
  if !isStep name || name = ".." || Text.ends "/" path then throw .folder
  else if maxName < name.utf8ByteSize then throw .nameLength
  else
    match fs.node? (place ++ [name]) with
    | none => return fs.put (place ++ [name]) (.file bytes)
    | some .folder => throw .folder
    | some (.file _) => return fs.put (place ++ [name]) (.file bytes)
    | some (.link _) =>
      let target ← fs.find path
      match fs.node? target with
      | some (.file _) => return fs.put target (.file bytes)
      | _ => throw .folder

/-- Makes a symbolic link at the end of a path, where nothing may stand yet. -/
def makeLink (fs : FileSystem) (path target : String) : Except Fault FileSystem := do
  let (place, name) ← fs.spot path
  if !isStep name || name = ".." then throw .occupied
  else if (fs.node? (place ++ [name])).isSome then throw .occupied
  else return fs.put (place ++ [name]) (.link target)

/-- The paths that end at each slash, and the path itself. -/
def stages (path : String) : List String :=
  (List.range (names path).length).map
    (fun i => "/".intercalate ((names path).take (i + 1)))

/-- Makes the folder at the end of a path and those that lead to it, as far as they are missing. -/
def makeFolders (fs : FileSystem) (path : String) : FileSystem :=
  (stages path).foldl (fun fs stage => (fs.makeFolder stage).toOption.getD fs) fs

end FileSystem

end LuaStubs
