import LuaStubs.Descriptor.Encode
import LuaStubs.Lua.Document

/-! The forms in which documentation is written out. -/
namespace LuaStubs

namespace Enum

/-- One member for each name, where the first one stood and with the values of the last. -/
def membersOf (enums : List Enum) : List (String × Json) :=
  Keyed.putAll Prod.fst [] (enums.map (fun e => (e.name, Json.listOf EnumValue.toJson e.values)))

end Enum

namespace Docs

def toJson (d : Docs) : Json :=
  .object [("classes", Json.listOf Class.toJson d.classes),
    ("enums", .object (Enum.membersOf d.enums))]

def jsonText (d : Docs) : String := d.toJson.pretty ++ "\n"

end Docs

inductive Format where
  | lua
  | json
deriving DecidableEq, Repr

namespace Format

def ofName? (name : String) : Option Format :=
  if name = "lua" then some .lua else if name = "json" then some .json else none

/-- The end of a file name in that form. -/
def fileExtension : Format → String
  | .lua => "lua"
  | .json => "json"

def unknownMessage (name : String) : String := "unknown format: " ++ name ++ ". Use lua or json"

def render (f : Format) (d : Docs) : Except UnknownParent String :=
  match f with
  | .lua => Lua.document d
  | .json => .ok d.jsonText

end Format

end LuaStubs
