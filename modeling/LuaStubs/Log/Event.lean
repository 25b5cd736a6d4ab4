import LuaStubs.Json.Printer
import LuaStubs.Text.Quoted

/-! What the program reports while it runs. -/
namespace LuaStubs.Log

inductive Level where
  | error
  | warn
  | info
  | debug
  | trace
deriving DecidableEq, Repr

namespace Level

def name : Level → String
  | .error => "ERROR"
  | .warn => "WARN"
  | .info => "INFO"
  | .debug => "DEBUG"
  | .trace => "TRACE"

/-- The higher the rank, the more detailed. -/
def rank : Level → Nat
  | .error => 1
  | .warn => 2
  | .info => 3
  | .debug => 4
  | .trace => 5

end Level

/-- Texts are shown quoted or as they stand. -/
inductive Field where
  | quoted (text : String)
  | shown (text : String)
  | count (n : Nat)
deriving DecidableEq, Repr

structure Event where
  level : Level
  target : String
  message : String
  fields : List (String × Field)
deriving DecidableEq, Repr

namespace Field

def text : Field → String
  | .quoted s => Text.Quoted.quote s
  | .shown s => s
  | .count n => toString n

def toJson : Field → Json
  | .quoted s => .string s
  | .shown s => .string s
  | .count n => .number (.integer n)

end Field

namespace Event

/-- Characters that steer a terminal are written as escapes. -/
def escape (c : Char) : List Char :=
  let n := c.toNat
  if n = 0x1B || n = 7 || n = 8 || n = 12 || n = 127 then
    ['\\', 'x', Nat.digitChar (n / 16), Nat.digitChar (n % 16)]
  else if 0x80 ≤ n && n ≤ 0x9F then
    ['\\', 'u', '\x7b', Nat.digitChar (n / 16), Nat.digitChar (n % 16), '\x7d']
  else [c]

/-- One line for people. -/
def line (e : Event) : String :=
  e.level.name ++ " " ++ String.ofList (e.message.toList.flatMap escape) ++
    String.join (e.fields.map (fun f => " " ++ f.1 ++ "=" ++ f.2.text))

/-- One line for programs. -/
def toJson (e : Event) : Json :=
  .object [("level", .string e.level.name),
    ("fields", .object (("message", .string e.message) ::
      e.fields.map (fun f => (f.1, f.2.toJson)))),
    ("target", .string e.target)]

end Event

end LuaStubs.Log
