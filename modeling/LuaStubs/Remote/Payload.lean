import LuaStubs.Encoding.Base64
import LuaStubs.Text.Utf8

/-! File contents as an API sends them: Base64 broken into lines, UTF-8 inside. -/
namespace LuaStubs.Remote.Payload

open LuaStubs.Text
open LuaStubs.Encoding

inductive Fault where
  | base64 (fault : Base64.Fault)
  | utf8 (fault : Utf8.Fault)
deriving DecidableEq, Repr

def Fault.message : Fault → String
  | .base64 fault => "invalid base64: " ++ fault.message
  | .utf8 fault => "invalid UTF-8: " ++ fault.message

def isLineBreak (c : Char) : Bool := c = '\n' || c = '\r'

/-- The text without its line breaks; no other character is left out. -/
def unbroken (payload : String) : List Char := payload.toList.filter (fun c => !isLineBreak c)

def decode (payload : String) : Except Fault String :=
  match Base64.decode (Utf8.encode (unbroken payload)) with
  | .error fault => .error (.base64 fault)
  | .ok bytes => (Utf8.text bytes).mapError Fault.utf8

end LuaStubs.Remote.Payload
