import LuaStubs.Descriptor.EnumTable
import LuaStubs.Log.Event
import LuaStubs.Repository.Source

/-! Collecting documentation: the descriptor files of a listing are fetched and read, by one worker and
in its order, the first failure ends the collection, and what was read is put together in that
order. -/
namespace LuaStubs.Repository

/-- What a descriptor file declares. -/
inductive Descriptor where
  | enums (enums : List Enum)
  | class (c : Class)

/-- The files of a listing that are read. -/
def selected (entries : List Entry) : List (String × Route) :=
  (entries.filter (fun e => e.kind = .blob)).filterMap
    (fun e => (route? e.path).map (fun r => (e.path, r)))

def readDescriptor (path : String) (route : Route) (text : String) : Except Failure Descriptor :=
  match route with
  | .enums =>
    match EnumTable.read text with
    | .ok enums => .ok (.enums enums)
    | .error fault => .error (.decode path fault.message)
  | .class isStatic =>
    match Class.decoder.run text with
    | .ok c => .ok (.class { c with isStatic := isStatic })
    | .error problem => .error (.decode path (problem.message .text))

def target : String := "nanosdoc::collect"

def processing (path : String) : Log.Event :=
  ⟨.info, target, "Processing " ++ path ++ "...", []⟩

def skipping (path : String) : Log.Event :=
  ⟨.debug, target, "no content, skipping", [("path", .shown path)]⟩

/-- What came of a run: what was reported, the paths that were fetched, and the result. -/
structure Outcome (α : Type) where
  events : List Log.Event
  fetched : List String
  result : Except Failure α

namespace Outcome

variable {α β : Type}

def fail (e : Failure) : Outcome α := ⟨[], [], .error e⟩

def report (events : List Log.Event) (o : Outcome α) : Outcome α :=
  { o with events := events ++ o.events }

def fetching (path : String) (o : Outcome α) : Outcome α := { o with fetched := path :: o.fetched }

def map (f : α → β) (o : Outcome α) : Outcome β := ⟨o.events, o.fetched, o.result.map f⟩

@[simp] theorem result_fail (e : Failure) : (fail e : Outcome α).result = .error e := rfl

@[simp] theorem result_report (events : List Log.Event) (o : Outcome α) :
    (o.report events).result = o.result := rfl

@[simp] theorem result_fetching (path : String) (o : Outcome α) :
    (o.fetching path).result = o.result := rfl

@[simp] theorem result_map (f : α → β) (o : Outcome α) : (o.map f).result = o.result.map f := rfl

end Outcome

/-- Fetches and reads files up to the first failure, as one worker does that takes them in the order of
the listing; several workers may meet the failure of another file first.  Files without content are
left out. -/
def readAll (s : Source) : List (String × Route) → Outcome (List (String × Descriptor))
  | [] => ⟨[], [], .ok []⟩
  | (path, route) :: rest =>
    Outcome.report [processing path] <| Outcome.fetching path <|
      match s.fetch path with
      | .error e => .fail e
      | .ok none => (readAll s rest).report [skipping path]
      | .ok (some text) =>
        match readDescriptor path route text with
        | .error e => .fail e
        | .ok d => (readAll s rest).map (fun ds => (path, d) :: ds)

def rereading (path : String) : Log.Event :=
  ⟨.warn, target, "enum descriptor read more than once, replacing", [("path", .quoted path)]⟩

def replacing (path name : String) : Log.Event :=
  ⟨.warn, target, "duplicate class name, later descriptor wins",
    [("path", .quoted path), ("class", .shown name)]⟩

/-- What is reported when a descriptor joins the documentation, and the documentation with it. -/
def add (d : Docs) (path : String) : Descriptor → List Log.Event × Docs
  | .enums enums => (if d.enums.isEmpty then [] else [rereading path], { d with enums := enums })
  | .class c =>
    let (docs, replaced) := d.insertClass c
    (if replaced then [replacing path c.name] else [], docs)

/-- A later class of the same name replaces an earlier one, and so does a later table of enums. -/
def assemble (d : Docs) : List (String × Descriptor) → List Log.Event × Docs
  | [] => ([], d)
  | (path, descriptor) :: rest =>
    let (reports, joined) := add d path descriptor
    let (events, docs) := assemble joined rest
    (reports ++ events, docs)

def truncation (l : Listing) : List Log.Event :=
  if l.truncated then
    [⟨.warn, "nanosdoc::collect::github",
      "repository tree listing was truncated by the API", []⟩]
  else []

def selection (count : Nat) : Log.Event :=
  ⟨.debug, target, "descriptor files selected", [("count", .count count)]⟩

def collect (s : Source) : Outcome Docs :=
  match s.list with
  | .error e => .fail e
  | .ok listing =>
    let files := selected listing.entries
    let reading := readAll s files
    let opening := truncation listing ++ [selection files.length]
    match reading.result with
    | .error e => ⟨opening ++ reading.events, reading.fetched, .error e⟩
    | .ok descriptors =>
      let (events, docs) := assemble .empty descriptors
      ⟨opening ++ reading.events ++ events, reading.fetched, .ok docs⟩

end LuaStubs.Repository
