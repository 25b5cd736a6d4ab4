import LuaStubs.Json.Decoder
import LuaStubs.Descriptor.Basic

/-! Descriptors from JSON trees.  Classes and their parts are objects; their two description members
are looked at only after the rest, and members without a meaning are read and dropped. -/
namespace LuaStubs

open Json (Cause Decoder Fields Record)
open Json.Fields (required optional withDefault)

namespace Description

def decoder : Decoder Description :=
  (Description.mk <$> optional "description" Decoder.string
    <*> optional "description_long" Decoder.string).looseDecoder "Description"

/-- `null` or text. -/
def text? : Json → Except Cause (Option String)
  | .null => .ok none
  | .string s => .ok (some s)
  | j => .error (.mismatch j.found "a string")

/-- The two descriptions among the members of an object; each may come once. -/
def gather (short long : Option (Option String)) :
    List (String × Json) → Except Cause Description
  | [] => .ok ⟨short.getD none, long.getD none⟩
  | (name, j) :: rest =>
    if name = "description" then
      if short.isSome then .error (.duplicate name)
      else do
        let s ← text? j
        gather (some s) long rest
    else if name = "description_long" then
      if long.isSome then .error (.duplicate name)
      else do
        let s ← text? j
        gather short (some s) rest
    else gather short long rest

/-- The descriptions of an object whose other members have been read. -/
def fields : Fields Description where
  slots := []
  read r := (gather none none r.others).mapError (fun cause => ⟨cause, r.stop⟩)

end Description

def Authority.decoder : Decoder Authority := fun t => (Decoder.string t).map Authority.ofName

def Parameter.decoder : Decoder Parameter :=
  (Parameter.mk <$> required "name" Decoder.string
    <*> required "type" Decoder.string
    <*> optional "default" Decoder.string
    <*> Description.fields).decoder "Parameter"

def Return.decoder : Decoder Return :=
  (Return.mk <$> required "type" Decoder.string <*> Description.fields).decoder "Return"

def Function.decoder : Decoder Function :=
  (Function.mk <$> required "name" Decoder.string
    <*> withDefault "authority" Authority.decoder .both
    <*> optional "parameters" (Decoder.list Parameter.decoder)
    <*> optional "return" Return.decoder
    <*> Description.fields).decoder "Function"

def Property.decoder : Decoder Property :=
  (Property.mk <$> required "name" Decoder.string
    <*> required "type" Decoder.string
    <*> Description.fields).decoder "Property"

def Event.decoder : Decoder Event :=
  (Event.mk <$> required "name" Decoder.string
    <*> withDefault "arguments" (Decoder.list Parameter.decoder) []
    <*> Description.fields).decoder "Event"

/-- Whether a class is static is no member of its descriptor. -/
def Class.decoder : Decoder Class :=
  (Class.mk <$> required "name" Decoder.string
    <*> withDefault "authority" Authority.decoder .both
    <*> optional "inheritance" (Decoder.list Decoder.string)
    <*> optional "constructor" (Decoder.list Parameter.decoder)
    <*> optional "static_functions" (Decoder.list Function.decoder)
    <*> optional "functions" (Decoder.list Function.decoder)
    <*> optional "events" (Decoder.list Event.decoder)
    <*> optional "properties" (Decoder.list Property.decoder)
    <*> pure false
    <*> Description.fields).decoder "Class"

namespace EnumValue

def decoder : Decoder EnumValue :=
  (EnumValue.mk <$> required "key" Decoder.string
    <*> required "value" (fun t => t.full.map Json.collapse)).looseDecoder "EnumValue"

def text : Json → Except Cause String
  | .string s => .ok s
  | j => .error (.mismatch j.found "a string")

/-- The members of an object in order; a key that is no text is reported where it stands. -/
def ofMembers (members : List (String × Json)) : Except Cause EnumValue := do
  let key ←
    match Keyed.get? Prod.fst "key" members with
    | some (_, j) => (text j).map some
    | none => pure none
  match key, Keyed.get? Prod.fst "value" members with
  | none, _ => throw (.missing "key")
  | some _, none => throw (.missing "value")
  | some key, some (_, value) => return ⟨key, value⟩

/-- An entry of an enum that has been read as a value. -/
def ofJson : Json → Except Cause EnumValue
  | .object members => ofMembers members
  | .array [] => .error (.length 0 "struct EnumValue with 2 elements")
  | .array (key :: rest) => do
    let key ← text key
    match rest with
    | [] => throw (.length 1 "struct EnumValue with 2 elements")
    | [value] => return ⟨key, value⟩
    | _ => throw (.length (rest.length + 1) "fewer elements in array")
  | j => .error (.mismatch j.found "struct EnumValue")

def listOfJson : Json → Except Cause (List EnumValue)
  | .array items => items.mapM ofJson
  | j => .error (.mismatch j.found "a sequence")

end EnumValue

end LuaStubs
