import LuaStubs.Domain.Name
import LuaStubs.Url.Address

/-! Hosts: domains in ASCII and numeric addresses. -/
namespace LuaStubs.Url

open LuaStubs.Encoding

inductive Fault where
  | noScheme
  | noHost
  | port
  | ipv4
  | ipv6
  | internationalName
  | character
deriving DecidableEq, Repr

def Fault.message : Fault → String
  | .noScheme => "RelativeUrlWithoutBase: relative URL without a base"
  | .noHost => "EmptyHost: empty host"
  | .port => "InvalidPort: invalid port number"
  | .ipv4 => "InvalidIpv4Address: invalid IPv4 address"
  | .ipv6 => "InvalidIpv6Address: invalid IPv6 address"
  | .internationalName => "IdnaError: invalid international domain name"
  | .character => "InvalidDomainCharacter: invalid domain character"

inductive Host where
  | name (text : List Char)
  | ipv4 (address : Nat)
  | ipv6 (pieces : List Nat)
deriving DecidableEq, Repr

namespace Host

def text : Host → List Char
  | .name cs => cs
  | .ipv4 address => Ipv4.text address
  | .ipv6 pieces => '[' :: Ipv6.text pieces ++ [']']

/-- What stands between square brackets. -/
def bracketed (cs : List Char) : Except Fault Host :=
  match cs.reverse with
  | ']' :: inner =>
    match Ipv6.parse? inner.reverse with
    | some pieces => .ok (.ipv6 pieces)
    | none => .error .ipv6
  | _ => .error .ipv6

/-- The host of a URL whose scheme has a form of its own for hosts: percent escapes are resolved. -/
def parse (cs : List Char) : Except Fault Host :=
  match cs with
  | [] => .error .noHost
  | '[' :: rest => bracketed rest
  | cs => do
    let decoded ←
      match Percent.decode cs with
      | some decoded => pure decoded
      | none => throw .internationalName
    let ascii ←
      match Domain.toAscii? decoded with
      | some plain => pure plain
      | none => throw .internationalName
    if ascii = [] then throw .noHost
    if Ipv4.isIntended ascii then
      match Ipv4.parse? ascii with
      | some address => return .ipv4 address
      | none => throw .ipv4
    else return .name ascii

/-- The host of any other URL is kept as it stands. -/
def parsePlain (cs : List Char) : Except Fault Host :=
  match cs with
  | [] => .error .noHost
  | '[' :: rest => bracketed rest
  | cs =>
    if cs.any (fun c => Domain.isReserved c || c.toNat = 0) then .error .character
    else .ok (.name (Percent.encodeWith (fun c => !Domain.isControl c && c.toNat < 128) cs))

end Host

end LuaStubs.Url
