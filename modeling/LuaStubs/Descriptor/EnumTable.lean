import LuaStubs.Descriptor.Decode
import LuaStubs.Docs

/-! The file of all enums: an object whose members are lists of values.  It is first read as JSON
throughout; a repeated name counts once, with its last list. -/
namespace LuaStubs.EnumTable

/-- The text is no object, or a list holds something else than values. -/
inductive Fault where
  | text (problem : Json.Problem)
  | value (cause : Json.Cause)
deriving DecidableEq, Repr

def Fault.message : Fault → String
  | .text problem => problem.message .text
  | .value cause => cause.message

def enumOf (member : String × Json) : Except Json.Cause Enum :=
  (EnumValue.listOfJson member.2).map (Enum.mk member.1)

/-- The surviving members, in the order of their first appearance. -/
def members (text : String) : Except Json.Problem (List (String × Json)) :=
  (Json.Decoder.map.run text).map
    (fun ms => Keyed.putAll Prod.fst [] (Json.collapseMembers ms))

def read (text : String) : Except Fault (List Enum) :=
  match members text with
  | .error problem => .error (.text problem)
  | .ok ms => (ms.mapM enumOf).mapError Fault.value

end LuaStubs.EnumTable
