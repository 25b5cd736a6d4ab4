import LuaStubs.Log.Event
import LuaStubs.Log.FieldFilter
import LuaStubs.Text.Alphanumeric
import LuaStubs.Text.Whitespace

/-! Directives: up to which level the events of a target are reported.  A directive may be bound to
a span, that is, to the time between two moments of a run, and to a field. -/
namespace LuaStubs.Log

open LuaStubs.Text

/-- The most detailed level that is reported; `none` reports nothing. -/
abbrev Threshold := Option Level

namespace Threshold

def name : Threshold → String
  | none => "off"
  | some .error => "error"
  | some .warn => "warn"
  | some .info => "info"
  | some .debug => "debug"
  | some .trace => "trace"

def admits (t : Threshold) (l : Level) : Bool :=
  match t with
  | none => false
  | some most => l.rank ≤ most.rank

def ofNumber? : Nat → Option Threshold
  | 0 => some none
  | 1 => some (some .error)
  | 2 => some (some .warn)
  | 3 => some (some .info)
  | 4 => some (some .debug)
  | 5 => some (some .trace)
  | _ => none

def ofName? (name : List Char) : Option Threshold :=
  [none, some .error, some .warn, some .info, some .debug, some .trace].find?
    (fun t => t.name.toList = name.map Char.toLower)

/-- A number, or a name in any case. -/
def ofText? (cs : List Char) : Option Threshold :=
  match natural? cs with
  | some n => ofNumber? n
  | none => ofName? cs

end Threshold

structure Directive where
  target : Option String
  span : Option String
  field : Option FieldFilter
  threshold : Threshold
deriving DecidableEq, Repr

namespace Directive

inductive Fault where
  | form
  | level
  | field (fault : Pattern.Fault)
deriving DecidableEq, Repr

def Fault.message : Fault → String
  | .form => "invalid filter directive"
  | .level =>
    "error parsing level filter: expected one of \"off\", \"error\", \"warn\", \"info\", " ++
      "\"debug\", \"trace\", or a number 0-5"
  | .field fault => "invalid field filter: " ++ fault.message

/-- For all events of a target, or for all events. -/
def ofTarget (target : Option String) (t : Threshold) : Directive := ⟨target, none, none, t⟩

/-! ## Reading -/

def isStart (c : Char) : Bool := c = '-' || c = ':' || c = '_' || Alphanumeric.isAlphanumeric c

def size (cs : List Char) : Nat := (String.ofList cs).utf8ByteSize

/-- A text as it is cut: `whole` without blanks at its ends is passed, and its first `passed` bytes
lie behind.  Blanks in front are passed over when the form is checked and counted when a part is cut
off. -/
structure Reading where
  whole : List Char
  passed : Nat
  rest : List Char

namespace Reading

def start (cs : List Char) : Reading := ⟨cs, 0, trim isWhite cs⟩

/-- Without the next character. -/
def next (r : Reading) : Reading := ⟨r.whole, r.passed + size (r.rest.take 1), r.rest.drop 1⟩

/-- The part up to a character of that kind, and the reading from there on. -/
def upTo (r : Reading) (p : Char → Bool) : List Char × Reading :=
  let front := r.rest.takeWhile (fun c => !p c)
  ((splitBytes (size front) (splitBytes r.passed r.whole).2).1,
    ⟨r.whole, r.passed + size front, r.rest.dropWhile (fun c => !p c)⟩)

/-- Everything that is left, blanks at the end included. -/
def remainder (r : Reading) : List Char := (splitBytes r.passed r.whole).2

end Reading

/-- Nothing after the `=` means every level. -/
def levelAt (r : Reading) : Except Fault Threshold :=
  match r.remainder with
  | [] => .ok (some .trace)
  | level =>
    match Threshold.ofText? level with
    | some t => .ok t
    | none => .error .level

/-- Behind a span or a target stands a level, or nothing for every level. -/
def threshold? (r : Reading) : Except Fault Threshold :=
  match r.rest with
  | [] => .ok (some .trace)
  | c :: _ => if c = '=' then levelAt r.next else .error .form

/-- What stands before the closing brace, which a closing bracket follows. -/
def fieldAt (r : Reading) : Except Fault (FieldFilter × Reading) := do
  let (part, r) := r.upTo (· = '\x7d')
  if r.rest = [] || part = [] then throw .form
  let field ← (FieldFilter.parse part).mapError Fault.field
  if r.next.rest.head? = some ']' then return (field, r.next.next)
  else throw .form

/-- A span in brackets, with or without a field in braces.  A name that is left out counts only
where no field follows. -/
def spanAt (target : Option String) (r : Reading) : Except Fault Directive := do
  let (part, r) := r.upTo (fun c => c = ']' || c = '\x7b')
  let span := some (String.ofList part)
  match r.rest with
  | [] => throw .form
  | c :: _ =>
    if c = ']' then return ⟨target, span, none, ← threshold? r.next⟩
    else
      let (field, r) ← fieldAt r.next
      return ⟨target, span.filter (· ≠ ""), some field, ← threshold? r⟩

/-- A level alone, or a target, a span or both and then perhaps a level. -/
def parse (cs : List Char) : Except Fault Directive :=
  let r := Reading.start cs
  match r.rest with
  | [] => .error .form
  | first :: _ =>
    if first = '[' then spanAt none r.next
    else if !isStart first then .error .form
    else
      let (part, after) := r.upTo (fun c => c = '=' || c = '[')
      match after.rest with
      | [] =>
        match Threshold.ofText? cs with
        | some t => .ok (ofTarget none t)
        | none => .ok (ofTarget (some (String.ofList cs)) (some .trace))
      | c :: _ =>
        let target := some (String.ofList part)
        if c = '[' then spanAt target after.next
        else (levelAt after.next).map (ofTarget target)

/-! ## Printing -/

def scopeText (d : Directive) : String :=
  match d.span, d.field with
  | none, none => ""
  | span, field =>
    "[" ++ span.getD "" ++ (field.map (fun f => "\x7b" ++ f.text ++ "\x7d")).getD "" ++ "]"

def text (d : Directive) : String :=
  let front := d.target.getD "" ++ d.scopeText
  if d.target.isNone && d.scopeText = "" then d.threshold.name
  else front ++ "=" ++ d.threshold.name

/-! ## Order -/

/-- Directives are equal when they differ in the level only; the smaller one says less.  A longer
target says more than a shorter one, a span more than none, and so on. -/
def compare (a b : Directive) : Ordering :=
  ((((Ord.compare (a.target.map String.utf8ByteSize) (b.target.map String.utf8ByteSize)).then
    (Ord.compare a.span.isSome.toNat b.span.isSome.toNat)).then
    (Ord.compare a.field.isSome.toNat b.field.isSome.toNat)).then
    (Ord.compare a.target b.target)).then
    ((Ord.compare a.span b.span).then (compareFields a.field b.field))
where
  compareFields : Option FieldFilter → Option FieldFilter → Ordering
    | none, none => .eq
    | none, some _ => .lt
    | some _, none => .gt
    | some f, some g => f.compare g

/-! ## Events -/

/-- Bound to a span or a field. -/
def isBound (d : Directive) : Bool := d.span.isSome || d.field.isSome

/-- Whether an event shows by itself that a directive is for it: neither a span nor the value of a
field is asked for. -/
def isPlain (d : Directive) : Bool := d.span.isNone && (d.field.bind FieldFilter.value).isNone

def isOfTarget (d : Directive) (target : String) : Bool :=
  match d.target with
  | none => true
  | some head => begins head target

def hasField (e : Event) (name : String) : Bool :=
  name = "message" || e.fields.any (fun f => f.1 = name)

def concerns (d : Directive) (e : Event) : Bool :=
  d.isOfTarget e.target && (d.field.map (fun f => hasField e f.name)).getD true

end Directive

end LuaStubs.Log
