import LuaStubs.Descriptor.Basic

/-! Descriptors as JSON values.  Members come in the order of the declarations, the descriptions
last; an optional member that is absent is left out. -/
namespace LuaStubs

namespace Json

/-- A member that may be left out. -/
def memberOf {α : Type} (name : String) (f : α → Json) : Option α → List (String × Json)
  | none => []
  | some a => [(name, f a)]

def listOf {α : Type} (f : α → Json) (xs : List α) : Json := .array (xs.map f)

end Json

namespace Description

def members (d : Description) : List (String × Json) :=
  Json.memberOf "description" .string d.short ++ Json.memberOf "description_long" .string d.long

def toJson (d : Description) : Json := .object d.members

end Description

def Authority.toJson (a : Authority) : Json := .string a.name

def Parameter.toJson (p : Parameter) : Json :=
  .object ([("name", .string p.name), ("type", .string p.type)] ++
    Json.memberOf "default" .string p.default ++ p.doc.members)

def Return.toJson (r : Return) : Json := .object (("type", .string r.type) :: r.doc.members)

def Function.toJson (f : Function) : Json :=
  .object ([("name", .string f.name), ("authority", f.authority.toJson)] ++
    Json.memberOf "parameters" (Json.listOf Parameter.toJson) f.parameters ++
    Json.memberOf "return" Return.toJson f.result ++ f.doc.members)

def Property.toJson (p : Property) : Json :=
  .object ([("name", .string p.name), ("type", .string p.type)] ++ p.doc.members)

def Event.toJson (e : Event) : Json :=
  .object ([("name", .string e.name), ("arguments", Json.listOf Parameter.toJson e.arguments)] ++
    e.doc.members)

def Class.toJson (c : Class) : Json :=
  .object ([("name", .string c.name), ("authority", c.authority.toJson)] ++
    Json.memberOf "inheritance" (Json.listOf .string) c.inheritance ++
    Json.memberOf "constructor" (Json.listOf Parameter.toJson) c.constructor ++
    Json.memberOf "static_functions" (Json.listOf Function.toJson) c.staticFunctions ++
    Json.memberOf "functions" (Json.listOf Function.toJson) c.functions ++
    Json.memberOf "events" (Json.listOf Event.toJson) c.events ++
    Json.memberOf "properties" (Json.listOf Property.toJson) c.properties ++
    [("static_class", .bool c.isStatic)] ++ c.doc.members)

def EnumValue.toJson (v : EnumValue) : Json := .object [("key", .string v.key), ("value", v.value)]

end LuaStubs
