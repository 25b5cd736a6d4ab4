import LuaStubs.Url.Host

/-! URLs with a host.  All parts hold encoded text. -/
namespace LuaStubs

open LuaStubs.Encoding

structure Url where
  scheme : String
  user : List Char
  password : List Char
  host : Url.Host
  port : Option Nat
  path : List (List Char)
  query : Option (List Char)
  fragment : Option (List Char)
deriving DecidableEq, Repr

namespace Url

def userText (u : Url) : List Char :=
  if u.user = [] ∧ u.password = [] then []
  else if u.password = [] then u.user ++ ['@']
  else u.user ++ ':' :: u.password ++ ['@']

def portText (u : Url) : List Char :=
  match u.port with
  | none => []
  | some n => ':' :: (toString n).toList

/-- Every segment follows a slash. -/
def pathText (u : Url) : List Char := u.path.flatMap (fun segment => '/' :: segment)

def partText (mark : Char) : Option (List Char) → List Char
  | none => []
  | some cs => mark :: cs

def text (u : Url) : String :=
  String.ofList (u.scheme.toList ++ ':' :: '/' :: '/' :: u.userText ++ u.host.text ++ u.portText ++
    u.pathText ++ partText '?' u.query ++ partText '#' u.fragment)

def parameter (name value : String) : List Char :=
  Percent.form name.toList ++ '=' :: Percent.form value.toList

/-- Adds a parameter at the end of the query. -/
def withParameter (u : Url) (name value : String) : Url :=
  let added := parameter name value
  match u.query with
  | none => { u with query := some added }
  | some [] => { u with query := some added }
  | some q => { u with query := some (q ++ '&' :: added) }

end Url

end LuaStubs
