import Harvest.Url.HostName
import Harvest.Url.Address
import Harvest.Url.Percent
/-!
Hosts of URLs and the reasons for which a URL is refused.
-/

namespace Harvest.Url

inductive Fault
  | emptyHost
  | hostName
  | port
  | ipv4
  | ipv6
  | hostCharacter
  | noBase
  | rootlessBase
  deriving DecidableEq, Repr

def Fault.message : Fault → String
  | .emptyHost => "empty host"
  | .hostName => "invalid international domain name"
  | .port => "invalid port number"
  | .ipv4 => "invalid IPv4 address"
  | .ipv6 => "invalid IPv6 address"
  | .hostCharacter => "invalid domain character"
  | .noBase => "relative URL without a base"
  | .rootlessBase => "relative URL with a cannot-be-a-base base"

/-- A name, or an address of either version. -/
inductive Host
  | domain (name : String)
  | ipv4 (address : Nat)
  | ipv6 (pieces : List Nat)
  deriving DecidableEq, Repr

namespace Host

def text : Host → String
  | .domain name => name
  | .ipv4 a => Address.v4Text a
  | .ipv6 ps => "[" ++ Address.v6Text ps ++ "]"

/-- An address in brackets, after the opening one. -/
def bracketed (s : List Char) : Except Fault Host :=
  match s.reverse with
  | ']' :: inner =>
    match Address.v6? inner.reverse with
    | some ps => .ok (.ipv6 ps)
    | none => .error .ipv6
  | _ => .error .ipv6

/-- The host of a URL whose scheme gives hosts a meaning. -/
def special (s : List Char) : Except Fault Host :=
  match s with
  | '[' :: r => bracketed r
  | _ =>
    match Text.Utf8.decode? (Percent.decodeBytes (Text.Utf8.encode s)) with
    | none => .error .hostName
    | some decoded =>
      match HostName.toAscii? decoded with
      | none => .error .hostName
      | some [] => .error .emptyHost
      | some name =>
        if Address.endsInNumber name then
          match Address.v4? name with
          | some a => .ok (.ipv4 a)
          | none => .error .ipv4
        else .ok (.domain (String.ofList name))

def isForbidden (c : Char) : Bool :=
  c.toNat = 0 || "\t\n\r #/:<>?@[\\]^|".toList.contains c

/-- The host of any other URL. -/
def general (s : List Char) : Except Fault Host :=
  match s with
  | '[' :: r => bracketed r
  | _ =>
    if s.any isForbidden then .error .hostCharacter
    else .ok (.domain (String.ofList (Percent.encode Percent.isControl s)))

end Host
end Harvest.Url
