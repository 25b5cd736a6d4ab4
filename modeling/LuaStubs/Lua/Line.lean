/-! Lines of a generated Lua file: comments, tags for the language server, and code.  Every line of a
block follows a line break, so blocks join without separators. -/
namespace LuaStubs.Lua

inductive Line where
  | blank
  | comment (text : String)
  | tag (name body : String)
  | code (text : String)
deriving DecidableEq, Repr

namespace Line

def text : Line → String
  | .blank => ""
  | .comment t => "---" ++ t
  | .tag name body => "---@" ++ name ++ " " ++ body
  | .code t => t

end Line

abbrev Block := List Line

def Block.text (b : Block) : String := String.join (b.map (fun l => "\n" ++ l.text))

@[simp] theorem Block.text_nil : Block.text [] = "" := rfl

@[simp] theorem Block.toList_text_cons (l : Line) (b : Block) :
    (Block.text (l :: b)).toList = '\n' :: l.text.toList ++ (Block.text b).toList := by
  simp [Block.text, String.toList_join]

@[simp] theorem Block.toList_text_append (a b : Block) :
    (Block.text (a ++ b)).toList = (Block.text a).toList ++ (Block.text b).toList := by
  simp [Block.text, String.toList_join]

end LuaStubs.Lua
