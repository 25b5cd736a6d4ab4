import LuaStubs.Log.Filter
import LuaStubs.Remote.Coordinates

/-! The command line.  Arguments are taken one after the other and the first mistake ends the
reading; what is not said there may be said by the environment. -/
namespace LuaStubs.CommandLine

open LuaStubs.Text

/-- An option with a value. -/
inductive Key where
  | checkout
  | token
  | owner
  | repo
  | reference
  | api
  | output
  | format
deriving DecidableEq, Repr

inductive Switch where
  | verbose
  | quiet
  | logJson
deriving DecidableEq, Repr

inductive Word where
  | key (k : Key)
  | switch (s : Switch)
  | help
deriving DecidableEq, Repr

def longWords : List (String × Word) :=
  [("local", .key .checkout), ("token", .key .token), ("owner", .key .owner),
    ("repo", .key .repo), ("ref", .key .reference), ("api-url", .key .api),
    ("output", .key .output), ("format", .key .format), ("verbose", .switch .verbose),
    ("quiet", .switch .quiet), ("log-json", .switch .logJson), ("help", .help)]

def shortWords : List (Char × Word) :=
  [('o', .key .output), ('f', .key .format), ('v', .switch .verbose), ('q', .switch .quiet),
    ('h', .help)]

def longWord? (name : List Char) : Option Word :=
  (Keyed.get? Prod.fst (String.ofList name) longWords).map Prod.snd

def shortWord? (c : Char) : Option Word := (Keyed.get? Prod.fst c shortWords).map Prod.snd

namespace Key

/-- Folders are named by a text that is not empty. -/
def isFolder : Key → Bool
  | .checkout => true
  | .output => true
  | _ => false

def environmentName? : Key → Option String
  | .token => some "GITHUB_TOKEN"
  | .owner => some "REPOSITORY_OWNER"
  | .repo => some "REPOSITORY_NAME"
  | .reference => some "REPOSITORY_BRANCH"
  | .api => some "GITHUB_API_URL"
  | _ => none

end Key

/-- Why the program stops before it does anything. -/
inductive Halt where
  | help
  | usage
deriving DecidableEq, Repr

/-- What has been said; everything can be said once. -/
structure Given where
  values : List (Key × String)
  switches : List Switch
deriving DecidableEq, Repr

namespace Given

def nothing : Given := ⟨[], []⟩

def addValue (g : Given) (k : Key) (value : List Char) : Except Halt Given :=
  if Keyed.contains Prod.fst k g.values || (k.isFolder && value.isEmpty) then .error .usage
  else .ok { g with values := g.values ++ [(k, String.ofList value)] }

def addSwitch (g : Given) (s : Switch) : Except Halt Given :=
  if g.switches.contains s then .error .usage else .ok { g with switches := g.switches ++ [s] }

def value? (g : Given) (k : Key) : Option String :=
  (Keyed.get? Prod.fst k g.values).map Prod.snd

end Given

/-- The letters after one dash; an option may leave its value to the next argument. -/
def letters (g : Given) : List Char → Except Halt (Given × Option Key)
  | [] => .ok (g, none)
  | c :: cs =>
    match shortWord? c with
    | none => .error .usage
    | some .help => .error .help
    | some (.switch s) => do
      let g ← g.addSwitch s
      letters g cs
    | some (.key k) =>
      match cs with
      | [] => .ok (g, some k)
      | '=' :: value => (g.addValue k value).map (fun g => (g, none))
      | value => (g.addValue k value).map (fun g => (g, none))

/-- The text after two dashes. -/
def longForm (g : Given) (cs : List Char) : Except Halt (Given × Option Key) :=
  let isNamed : Char → Bool := fun c => c ≠ '='
  match longWord? (cs.takeWhile isNamed), cs.dropWhile isNamed with
  | some (.key k), [] => .ok (g, some k)
  | some (.key k), _ :: value => (g.addValue k value).map (fun g => (g, none))
  | some (.switch s), [] => (g.addSwitch s).map (fun g => (g, none))
  | some .help, [] => .error .help
  | _, _ => .error .usage

/-- One argument that is no value. -/
def argument (g : Given) (arg : String) : Except Halt (Given × Option Key) :=
  match arg.toList with
  | '-' :: '-' :: cs => longForm g cs
  | '-' :: c :: cs => letters g (c :: cs)
  | _ => .error .usage

/-- A lone dash is a value. -/
def isValue (arg : String) : Bool := arg = "-" || !begins "-" arg

/-- Reads on; `waiting` is the option whose value comes next.  Nothing may follow two dashes. -/
def readFrom (g : Given) (waiting : Option Key) : List String → Except Halt Given
  | [] => if waiting.isSome then .error .usage else .ok g
  | arg :: rest =>
    match waiting with
    | some k =>
      if isValue arg then do
        let g ← g.addValue k arg.toList
        readFrom g none rest
      else .error .usage
    | none =>
      if arg = "--" then if rest.isEmpty then .ok g else .error .usage
      else do
        let (g, waiting) ← argument g arg
        readFrom g waiting rest

/-- Variables by name. -/
abbrev Environment := List (String × String)

def Environment.get? (e : Environment) (name : String) : Option String :=
  (Keyed.get? Prod.fst name e).map Prod.snd

structure Settings where
  checkout : Option String
  token : Option String
  owner : Option String
  repo : Option String
  reference : Option String
  api : String
  output : String
  format : String
  verbosity : Log.Verbosity
  logJson : Bool
deriving DecidableEq, Repr

def defaultOutput : String := "docs"

def defaultFormat : String := "lua"

/-- An argument counts before the variable. -/
def setting? (g : Given) (e : Environment) (k : Key) : Option String :=
  (g.value? k).or (k.environmentName?.bind e.get?)

def settings (g : Given) (e : Environment) : Settings where
  checkout := setting? g e .checkout
  token := setting? g e .token
  owner := setting? g e .owner
  repo := setting? g e .repo
  reference := setting? g e .reference
  api := (setting? g e .api).getD Remote.Coordinates.defaultApi
  output := (setting? g e .output).getD defaultOutput
  format := (setting? g e .format).getD defaultFormat
  verbosity := ⟨g.switches.contains .verbose, g.switches.contains .quiet⟩
  logJson := g.switches.contains .logJson

def read (args : List String) (e : Environment) : Except Halt Settings :=
  (readFrom .nothing none args).map (fun g => settings g e)

end LuaStubs.CommandLine
