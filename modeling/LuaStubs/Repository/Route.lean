import LuaStubs.Text.Affix

/-! What a path of a descriptor repository holds. -/
namespace LuaStubs.Repository

inductive Kind where
  | blob
  | tree
deriving DecidableEq, Repr

structure Entry where
  kind : Kind
  path : String
deriving DecidableEq, Repr

/-- A file is read as the enums or as a class. -/
inductive Route where
  | enums
  | class (isStatic : Bool)
deriving DecidableEq, Repr

def enumsPath : String := "Enums.json"

/-- Only JSON files whose path has no leading underscore are read; the name of the top folder
decides. -/
def route? (path : String) : Option Route :=
  if !Text.ends ".json" path || Text.begins "_" path then none
  else if path = enumsPath then some .enums
  else if Text.begins "StaticClasses" path then some (.class true)
  else if Text.begins "Classes" path || Text.begins "Structs" path then some (.class false)
  else none

end LuaStubs.Repository
