import LuaStubs.Program

/-! The command line program: files are read before the run, and what the run made is written after
it.  There is no way to reach a remote repository from here. -/
namespace LuaStubs.Main

open CommandLine (Environment Settings)

def pathOf (place : List String) : String := "/" ++ "/".intercalate place

/-- The place of a path, dots resolved by name. -/
def placeOf (here : List String) (path : String) : List String :=
  let start := if Files.isAbsolute path then [] else here
  ((Files.names path).filter Files.isStep).foldl
    (fun place name => if name = ".." then place.dropLast else place ++ [name]) start

/-- Folders deeper than this below a place are not read. -/
def maxDepth : Nat := 64

/-- All that stands in a folder; links count as what they lead to. -/
def load : Nat → List String → IO (List (List String × FileSystem.Node))
  | 0, _ => return []
  | depth + 1, place => do
    let found ← ((← IO.currentDir) / pathOf place).readDir
    let parts ← found.toList.mapM fun entry => do
      let inner := place ++ [entry.fileName]
      if ← entry.path.isDir then
        return (inner, FileSystem.Node.folder) :: (← load depth inner)
      else if ← entry.path.pathExists then
        return [(inner, FileSystem.Node.file (← IO.FS.readBinFile entry.path).toList)]
      else return []
    return parts.flatten

/-- What stands at a place and on the way there; files are not read. -/
def probe (place : List String) : IO (List (List String × FileSystem.Node)) := do
  let parts ← (List.range place.length).mapM fun i => do
    let stage := place.take (i + 1)
    let path := (← IO.currentDir) / pathOf stage
    if ← path.isDir then return [(stage, FileSystem.Node.folder)]
    else if ← path.pathExists then return [(stage, FileSystem.Node.file [])]
    else return []
  return parts.flatten

/-- The files that a run with these settings may look at. -/
def filesFor (s : Settings) : IO FileSystem := do
  let here := placeOf [] (← IO.currentDir).toString
  let ways ← (here :: placeOf here s.output :: (s.checkout.map (placeOf here)).toList).mapM probe
  let inner ←
    match s.checkout with
    | none => pure []
    | some folder => tryCatch (load maxDepth (placeOf here folder)) (fun _ => pure [])
  return ⟨Keyed.putAll Prod.fst [] (ways.flatten ++ inner), here⟩

/-- Writes what the run made. -/
def save (before after : FileSystem) : IO Unit := do
  for (place, node) in after.entries do
    if (before.node? place).isNone then
      match node with
      | .folder => IO.FS.createDir (pathOf place)
      | .file bytes => IO.FS.writeBinFile (pathOf place) ⟨bytes.toArray⟩
      | .link _ => pure ()

def variableNames : List String :=
  [Program.variableOfFilter, "GITHUB_TOKEN", "REPOSITORY_OWNER", "REPOSITORY_NAME",
    "REPOSITORY_BRANCH", "GITHUB_API_URL"]

def environment : IO Environment := do
  let values ← variableNames.mapM fun name => do
    return (← IO.getEnv name).map (fun value => (name, value))
  return values.filterMap id

def unreachable : Remote.Api := fun r => .error (r.url.text ++ ": no connection")

def showNotice (asJson : Bool) : Program.Notice → String
  | .text s => s
  | .log e => if asJson then e.toJson.compact else e.line

end LuaStubs.Main

open LuaStubs in
def main (args : List String) : IO UInt32 := do
  let e ← Main.environment
  let files ←
    match CommandLine.read args e with
    | .ok s => Main.filesFor s
    | .error _ => pure ⟨[], []⟩
  let outcome := Program.run files Main.unreachable args e
  for notice in outcome.notices do
    IO.eprintln (Main.showNotice outcome.logJson notice)
  Main.save files outcome.files
  return UInt32.ofNat outcome.status
