import LuaStubs.Lua.ClassBlock
import LuaStubs.Lua.EnumBlock

/-! The whole Lua file: a header, a block for each class and a block for each enum. -/
namespace LuaStubs.Lua

def header : String := "---@meta"

def document (d : Docs) : Except UnknownParent String := do
  let classes ← d.classes.mapM (classText d)
  return header ++ String.join classes ++ String.join (d.enums.map enumText)

end LuaStubs.Lua
