import LuaStubs.Descriptor.Basic
import LuaStubs.Lua.Line

/-! How parameters, results and descriptions are written in tags. -/
namespace LuaStubs.Lua

/-- The picture that shows a side of the game. -/
def badge : Authority → String
  | .server => picture "server-only" "Server Side"
  | .client => picture "client-only" "Client Side"
  | .authority => picture "authority-only" "Authority Side"
  | .both => picture "both" "Client/Server Side"
  | .unknown name => "Invalid authority \"" ++ name ++ "\" in documentation"
where
  picture (image label : String) : String :=
    "<img src=\"https://github.com/Derpius/nanosworld-vscode/blob/master/assets/" ++ image ++
      ".png?raw=true\" height=\"10\"> `" ++ label ++ "`"

/-- A description behind a tag, led by `@`; nothing when it is empty. -/
def remark (d : Description) : String := if d.line = "" then "" else "@" ++ d.line

/-- The remark of a parameter ends in its default, unless that only makes it optional. -/
def parameterRemark (p : Parameter) : String :=
  match p.default with
  | none => remark p.doc
  | some d =>
    if d = Parameter.nilDefault then remark p.doc
    else
      remark p.doc ++ (if remark p.doc = "" then "@" else " ") ++
        "(Default: " ++ (if d = "" then "\"\"" else d) ++ ")"

def parameterTag (p : Parameter) : Line :=
  .tag "param" (p.luaName ++ (if p.isOptional then "?" else "") ++ " " ++ p.type ++ " " ++
    parameterRemark p)

def returnTag (r : Return) : Line := .tag "return" (r.type ++ " @" ++ r.doc.line)

def typed (name type : String) : String := name ++ ": " ++ type

def commas (parts : List String) : String := ", ".intercalate parts

/-- The parameter list of a constructor. -/
def constructorList (ps : List Parameter) : String := commas (ps.map (fun p => typed p.name p.type))

/-- The arguments of an event's callback on a class: a leading `self` is of that class. -/
def callbackList (owner : String) : List Parameter → String
  | [] => ""
  | p :: ps =>
    commas (typed p.name (if p.name = "self" then owner else p.type) ::
      ps.map (fun p => typed p.name p.type))

/-- A function declaration with its comments; `accessor` is the class name with `.` or `:`. -/
def functionBlock (accessor : String) (f : Function) : Block :=
  let ps := f.parameters.getD []
  [.blank, .comment (badge f.authority), .comment "", .comment f.doc.line] ++
    ps.map parameterTag ++ (f.result.map returnTag).toList ++
    [.code ("function " ++ accessor ++ f.name ++ "(" ++ commas (ps.map Parameter.luaName) ++ ") end")]

end LuaStubs.Lua
