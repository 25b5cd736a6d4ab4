import LuaStubs.Log.Directive

/-! Which events are reported.  A filter is a list of directives, each for the targets that begin
with its own, the most specific one first; a directive without a target is for all of them. -/
namespace LuaStubs.Log

open LuaStubs.Text

/-- `plain` directives are looked up for events.  `bound` ones tell which spans to follow; a
directive that names a field without a value is of both kinds. -/
structure Filter where
  plain : List Directive
  bound : List Directive
deriving DecidableEq, Repr

namespace Filter

/-- Puts a directive in its place; one that differs in the level only gives way to it. -/
def insert (d : Directive) : List Directive → List Directive
  | [] => [d]
  | e :: rest =>
    match d.compare e with
    | .eq => d :: rest
    | .gt => d :: e :: rest
    | .lt => e :: insert d rest

def add (f : Filter) (d : Directive) : Filter where
  plain := if d.isPlain then insert d f.plain else f.plain
  bound := if d.isBound then insert d f.bound else f.bound

def ofDirectives (ds : List Directive) : Filter := ds.foldl add ⟨[], []⟩

/-- The parts between commas that are not empty. -/
def parts (text : String) : List (List Char) :=
  (split (· = ',') text.toList).filter (fun part => part ≠ [])

/-- What is reported when nothing is said. -/
def errorsOnly : Filter := ofDirectives [.ofTarget none (some .error)]

/-- The directives of a text, invalid parts left out. -/
def parse (text : String) : Filter :=
  match (parts text).filterMap (fun part => (Directive.parse part).toOption) with
  | [] => errorsOnly
  | ds => ofDirectives ds

/-- A line for each invalid part of a text. -/
def complaints (text : String) : List String :=
  (parts text).filterMap (fun part =>
    match Directive.parse part with
    | .ok _ => none
    | .error fault =>
      some ("ignoring " ++ backquoted (String.ofList part) ++ ": " ++ fault.message))
where
  backquoted (s : String) : String := "`" ++ s ++ "`"

def text (f : Filter) : String := ",".intercalate ((f.plain ++ f.bound).map Directive.text)

/-- The first plain directive that concerns an event decides; the program itself has no spans. -/
def admits (f : Filter) (e : Event) : Bool :=
  match f.plain.find? (fun d => d.concerns e) with
  | none => false
  | some d => Threshold.admits d.threshold e.level

end Filter

/-- How much is asked for on the command line. -/
structure Verbosity where
  verbose : Bool
  quiet : Bool
deriving DecidableEq, Repr

/-- Quiet wins over verbose. -/
def Verbosity.level (v : Verbosity) : Option Level :=
  if v.quiet then some .warn else if v.verbose then some .debug else none

namespace Filter

/-- The target of the program's own events. -/
def ownTarget : String := "nanosdoc"

def isBlank (text : String) : Bool := text.toList.all isWhite

/-- What the environment says, if it says anything. -/
def spoken? (environment : Option String) : Option String :=
  environment.filter (fun text => !isBlank text)

/-- Without a word from the environment only warnings of the transport are reported. -/
def base (environment : Option String) : Filter :=
  match spoken? environment with
  | none => parse "ureq=warn"
  | some text => parse text

/-- The level of the program's own events, where the environment does not decide. -/
def ownLevel? (level : Option Level) (environment : Option String) : Option Level :=
  match level, spoken? environment with
  | some l, _ => some l
  | none, none => some .info
  | none, some _ => none

/-- The filter for a level that was asked for, if any, and the words of the environment. -/
def configured (level : Option Level) (environment : Option String) : Filter :=
  match ownLevel? level environment with
  | none => base environment
  | some l => (base environment).add (.ofTarget (some ownTarget) (some l))

end Filter

end LuaStubs.Log
