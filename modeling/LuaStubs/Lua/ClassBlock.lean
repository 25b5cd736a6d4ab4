import LuaStubs.Docs
import LuaStubs.Lua.Signature

/-! The block of a class: its declaration with fields and constructor, its functions, and the two
functions that subscribe to its events. -/
namespace LuaStubs.Lua

/-- The one class that keeps its own `Subscribe` and `Unsubscribe`. -/
def eventsClass : String := "Events"

def keeps (c : Class) (f : Function) : Bool := !f.isEventBuiltin || c.name = eventsClass

def parentList (c : Class) : String :=
  match c.inheritance with
  | none => ""
  | some parents => " : " ++ commas parents

def fieldTag (p : Property) : Line := .tag "field" (p.name ++ " " ++ p.type ++ " " ++ remark p.doc)

def fieldTags (c : Class) : Block := (c.properties.getD []).map fieldTag

/-- A constructor without parameters is one too. -/
def constructorTag (c : Class) : Block :=
  match c.constructor with
  | none => []
  | some ps => [.tag "overload" ("fun(" ++ constructorList ps ++ "): " ++ c.name)]

def functionBlocks (c : Class) (accessor : String) (fs : Option (List Function)) : Block :=
  ((fs.getD []).filter (keeps c)).flatMap (functionBlock accessor)

/-- Instances pass themselves. -/
def receiver (c : Class) : String := if c.isStatic then "" else "self: " ++ c.name ++ ", "

def separator (c : Class) : String := if c.isStatic then "." else ":"

def subscribeTag (c : Class) (e : Event) : Line :=
  let callback := callbackList c.name e.arguments
  .tag "overload" ("fun(" ++ receiver c ++ "event_name: \"" ++ e.name ++ "\", callback: fun(" ++
    callback ++ ")): fun(" ++ callback ++ ") " ++ remark e.doc)

def unsubscribeTag (c : Class) (e : Event) : Line :=
  let callback := callbackList c.name e.arguments
  .tag "overload" ("fun(" ++ receiver c ++ "event_name: \"" ++ e.name ++ "\", callback: fun(" ++
    callback ++ ")) " ++ remark e.doc)

def subscriptionCode (c : Class) (name : String) : Line :=
  .code ("function " ++ c.name ++ separator c ++ name ++ "(event_name, callback) end")

/-- Nothing for a class without events. -/
def subscriptionBlock (c : Class) (events : List Event) : Block :=
  if events.isEmpty then []
  else
    [.blank, .comment "Subscribe to an event",
      .tag "param" "event_name string @Name of the event to subscribe to",
      .tag "param" "callback function @Function to call when the event is triggered",
      .tag "return" "function @The callback function passed"] ++
      events.map (subscribeTag c) ++ [subscriptionCode c "Subscribe"] ++
    [.blank, .comment "Unsubscribe from an event",
      .tag "param" "event_name string @Name of the event to unsubscribe from",
      .tag "param" ("callback? function @Optional callback to unsubscribe (if no callback is " ++
        "passed then all callbacks in this Package will be unsubscribed from this event)")] ++
      events.map (unsubscribeTag c) ++ [subscriptionCode c "Unsubscribe"]

/-- The block of a class on which these events can be subscribed to. -/
def classLines (c : Class) (events : List Event) : Block :=
  [.blank, .comment (badge c.authority), .comment "", .comment c.doc.line,
    .tag "class" (c.name ++ parentList c)] ++
    fieldTags c ++ constructorTag c ++ [.code (c.name ++ " = \x7b\x7d")] ++
    functionBlocks c (c.name ++ ".") c.staticFunctions ++
    functionBlocks c (c.name ++ ":") c.functions ++
    subscriptionBlock c events ++ fieldTags c

/-- The block of a class; it has one only if all its parents are classes of the documentation. -/
def classBlock (d : Docs) (c : Class) : Except UnknownParent Block :=
  (d.eventsOf c).map (classLines c)

def classText (d : Docs) (c : Class) : Except UnknownParent String := (classBlock d c).map Block.text

end LuaStubs.Lua
