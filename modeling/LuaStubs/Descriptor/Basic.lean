import LuaStubs.Json.Printer
import LuaStubs.Text.Affix

/-! What a descriptor file declares: a class with its functions, events and properties, or values of
enums. -/
namespace LuaStubs

/-- The side of the game on which something can be used. -/
inductive Authority where
  | server
  | client
  | authority
  | both
  | unknown (name : String)
deriving DecidableEq, Repr, Inhabited

namespace Authority

/-- A name without a side of its own is kept as it stands. -/
def ofName (name : String) : Authority :=
  if name = "server" then .server
  else if name = "client" then .client
  else if name = "authority" then .authority
  else if name = "both" then .both
  else .unknown name

def name : Authority → String
  | .server => "server"
  | .client => "client"
  | .authority => "authority"
  | .both => "both"
  | .unknown name => name

@[simp] theorem name_ofName (s : String) : (ofName s).name = s := by
  unfold ofName
  split
  · simp_all [name]
  · split
    · simp_all [name]
    · split
      · simp_all [name]
      · split <;> simp_all [name]

end Authority

structure Description where
  short : Option String
  long : Option String
deriving DecidableEq, Repr, Inhabited

namespace Description

/-- The long text, else the short one, else nothing. -/
def text (d : Description) : String := (d.long.or d.short).getD ""

/-- The text on one line: line breaks are written `<br>`. -/
def line (d : Description) : String :=
  String.ofList (d.text.toList.flatMap (fun c => if c = '\n' then ['<', 'b', 'r', '>'] else [c]))

end Description

structure Parameter where
  name : String
  type : String
  default : Option String
  doc : Description
deriving DecidableEq, Repr, Inhabited

namespace Parameter

/-- The default that makes a parameter optional. -/
def nilDefault : String := "nil"

def variadic : String := "..."

/-- A variadic parameter has no name of its own. -/
def luaName (p : Parameter) : String :=
  if Text.ends variadic p.name then variadic else p.name

def isOptional (p : Parameter) : Bool := p.default = some nilDefault

end Parameter

structure Return where
  type : String
  doc : Description
deriving DecidableEq, Repr, Inhabited

structure Function where
  name : String
  authority : Authority
  parameters : Option (List Parameter)
  result : Option Return
  doc : Description
deriving DecidableEq, Repr, Inhabited

/-- `Subscribe` and `Unsubscribe` are written for each class from its events. -/
def Function.isEventBuiltin (f : Function) : Bool :=
  f.name = "Subscribe" || f.name = "Unsubscribe"

structure Property where
  name : String
  type : String
  doc : Description
deriving DecidableEq, Repr, Inhabited

structure Event where
  name : String
  arguments : List Parameter
  doc : Description
deriving DecidableEq, Repr, Inhabited

/-- A list that is present and empty differs from one that is absent. -/
structure Class where
  name : String
  authority : Authority
  inheritance : Option (List String)
  constructor : Option (List Parameter)
  staticFunctions : Option (List Function)
  functions : Option (List Function)
  events : Option (List Event)
  properties : Option (List Property)
  isStatic : Bool
  doc : Description
deriving DecidableEq, Repr, Inhabited

namespace Class

def parents (c : Class) : List String := c.inheritance.getD []

def ownEvents (c : Class) : List Event := c.events.getD []

end Class

structure EnumValue where
  key : String
  value : Json
deriving Repr

/-- Text stands as it is, any other value as compact JSON. -/
def EnumValue.literal (v : EnumValue) : String :=
  match v.value with
  | .string s => s
  | j => j.compact

end LuaStubs
