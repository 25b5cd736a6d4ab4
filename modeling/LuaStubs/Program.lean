import LuaStubs.Checkout
import LuaStubs.CommandLine
import LuaStubs.Export
import LuaStubs.Remote.Source
import LuaStubs.Repository.Collection

/-! A run of the program: the command line is read, a repository is collected and rendered, and the
result is written into a new folder.  A run that fails leaves no trace but what it reports. -/
namespace LuaStubs.Program

open CommandLine (Environment Settings)
open Files (join)

/-- A failure in a few words, and what caused it. -/
structure Failure where
  message : String
  cause : Option String
deriving DecidableEq, Repr

namespace Failure

def indented (text : String) : String :=
  String.ofList
    (text.toList.flatMap (fun c => if c = '\n' then ['\n', ' ', ' ', ' ', ' '] else [c]))

/-- The cause stands below, every line of it indented. -/
def report (f : Failure) : String :=
  match f.cause with
  | none => "Error: " ++ f.message
  | some cause => "Error: " ++ f.message ++ "\n\nCaused by:\n    " ++ indented cause

end Failure

def event (message : String) (fields : List (String × Log.Field)) : Log.Event :=
  ⟨.info, Log.Filter.ownTarget, message, fields⟩

def opening : Log.Event := event "Building documentation..." []

def collected (d : Docs) : Log.Event :=
  event "descriptors collected"
    [("classes", .count d.classes.length), ("enums", .count d.enums.length)]

def finished (path : String) : Log.Event := event "Build finished" [("path", .shown path)]

/-- The file that is written into the output folder. -/
def fileName (f : Format) : String := "annotations." ++ f.fileExtension

/-- What was reported, the files afterwards, and what went wrong. -/
structure Build where
  events : List Log.Event
  files : FileSystem
  failure : Option Failure

/-- Writes a text into a new folder. -/
def deliver (fs : FileSystem) (output name text : String) : Build :=
  match fs.makeFolder output with
  | .error fault =>
    ⟨[], fs, some ⟨"failed to create output directory: " ++ output, some fault.message⟩⟩
  | .ok made =>
    let path := join output name
    match made.writeFile path (Text.Utf8.bytes text) with
    | .error fault => ⟨[], made, some ⟨"failed to write " ++ path, some fault.message⟩⟩
    | .ok written => ⟨[finished path], written, none⟩

/-- Collects, renders and writes; each step only if those before it succeed. -/
def build (fs : FileSystem) (source : Repository.Source) (format : Format) (output : String) :
    Build :=
  let collection := Repository.collect source
  let events := opening :: collection.events
  match collection.result with
  | .error e => ⟨events, fs, some ⟨"failed to collect descriptors", some e.message⟩⟩
  | .ok docs =>
    match format.render docs with
    | .error e => ⟨events ++ [collected docs], fs, some ⟨e.message, none⟩⟩
    | .ok text =>
      let delivery := deliver fs output (fileName format) text
      { delivery with events := events ++ collected docs :: delivery.events }

def missing (option : String) : Failure :=
  ⟨"--" ++ option ++ " is required unless --local is given", none⟩

/-- Where the settings say that descriptors come from: a checkout, or else a remote repository. -/
def source (fs : FileSystem) (api : Remote.Api) (s : Settings) : Except Failure Repository.Source :=
  match s.checkout, s.owner, s.repo, s.reference with
  | some folder, _, _, _ => .ok (Checkout.source fs folder)
  | none, none, _, _ => .error (missing "owner")
  | none, some _, none, _ => .error (missing "repo")
  | none, some _, some _, none => .error (missing "ref")
  | none, some owner, some repo, some reference =>
    .ok (Remote.Coordinates.source ⟨s.token, owner, repo, reference, s.api⟩ api)

def buildWith (fs : FileSystem) (api : Remote.Api) (s : Settings) : Build :=
  match Format.ofName? s.format, source fs api s with
  | none, _ => ⟨[], fs, some ⟨Format.unknownMessage s.format, none⟩⟩
  | some _, .error failure => ⟨[], fs, some failure⟩
  | some format, .ok source => build fs source format s.output

/-- What a run reports, in order. -/
inductive Notice where
  | text (s : String)
  | log (e : Log.Event)
deriving DecidableEq, Repr

structure Outcome where
  status : Nat
  notices : List Notice
  logJson : Bool
  files : FileSystem

def variableOfFilter : String := "RUST_LOG"

def run (fs : FileSystem) (api : Remote.Api) (args : List String) (e : Environment) : Outcome :=
  match CommandLine.read args e with
  | .error .help => ⟨0, [], false, fs⟩
  | .error .usage => ⟨2, [], false, fs⟩
  | .ok s =>
    let words := e.get? variableOfFilter
    let filter := Log.Filter.configured s.verbosity.level words
    let complaints := ((Log.Filter.spoken? words).map Log.Filter.complaints).getD []
    let b := buildWith fs api s
    let failures := (b.failure.map Failure.report).toList
    ⟨if b.failure.isSome then 1 else 0,
      complaints.map Notice.text ++ (b.events.filter filter.admits).map Notice.log ++
        failures.map Notice.text,
      s.logJson, b.files⟩

end LuaStubs.Program
