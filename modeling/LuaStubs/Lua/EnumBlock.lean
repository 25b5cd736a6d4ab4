import LuaStubs.Docs
import LuaStubs.Lua.Line

/-! The block of an enum: a table with one entry to a line. -/
namespace LuaStubs.Lua

def entry (v : EnumValue) : String := "    [\"" ++ v.key ++ "\"] = " ++ v.literal

/-- Every entry but the last ends in a comma. -/
def entryLines : List EnumValue → Block
  | [] => []
  | [v] => [.code (entry v)]
  | v :: vs => .code (entry v ++ ",") :: entryLines vs

def enumBlock (e : Enum) : Block :=
  [.blank, .tag "enum" e.name, .code (e.name ++ " = \x7b")] ++ entryLines e.values ++ [.code "\x7d"]

def enumText (e : Enum) : String := Block.text (enumBlock e)

end LuaStubs.Lua
