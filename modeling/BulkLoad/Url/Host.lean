import BulkLoad.Url.Address
import BulkLoad.Url.Domain

/-!
The host of a URL.

The web schemes have domain names, which are brought to lower case and to ASCII, or numeric
addresses. Other schemes take any name without characters that part the URL.
-/
namespace BulkLoad.Url

inductive ParseError where
  | emptyHost
  | domainName
  | port
  | ipv4
  | ipv6
  | domainCharacter
  | relative
  deriving DecidableEq, Repr

namespace ParseError

def message : ParseError → String
  | .emptyHost => "empty host"
  | .domainName => "invalid international domain name"
  | .port => "invalid port number"
  | .ipv4 => "invalid IPv4 address"
  | .ipv6 => "invalid IPv6 address"
  | .domainCharacter => "invalid domain character"
  | .relative => "relative URL without a base"

end ParseError

inductive Host where
  | domain (name : List Char)
  | ipv4 (address : Nat)
  | ipv6 (pieces : List Nat)
  deriving DecidableEq, Repr

namespace Host

def toChars : Host → List Char
  | .domain name => name
  | .ipv4 address => Ipv4.toChars address
  | .ipv6 pieces => '[' :: Ipv6.toChars pieces ++ [']']

/-- Characters that part a URL and so stand in no host. -/
def isForbidden (c : Char) : Bool :=
  c ∈ ['\x00', '\t', '\n', '\r', ' ', '#', '/', ':', '<', '>', '?', '@', '[', '\\', ']', '^', '|']

/-- A domain name also holds no control characters and no percent sign. -/
def isForbiddenInDomain (c : Char) : Bool :=
  isForbidden c || c.toNat < 0x20 || c = '\x7f' || c = '%'

/-- A domain name in ASCII. -/
def domainName? (name : List Char) : Option (List Char) :=
  (Domain.toAscii? name).filter fun ascii => !ascii.any isForbiddenInDomain

/-- What stands between brackets, if the whole is in brackets. -/
def bracketed? : List Char → Option (Option (List Char))
  | '[' :: cs => some (if cs.getLast? = some ']' then some cs.dropLast else none)
  | _ => none

def ofBrackets (inside : Option (List Char)) : Except ParseError Host :=
  match inside.bind Ipv6.parse? with
  | some pieces => .ok (.ipv6 pieces)
  | none => .error .ipv6

/-- The host of a web scheme. -/
def ofDomain (cs : List Char) : Except ParseError Host :=
  match bracketed? cs with
  | some inside => ofBrackets inside
  | none =>
    match domainName? (Utf8.decodeLossyChars (decodeChars cs)) with
    | none => .error .domainName
    | some name =>
      if name.isEmpty then .error .emptyHost
      else if Ipv4.endsInNumber name then
        match Ipv4.parse? name with
        | some address => .ok (.ipv4 address)
        | none => .error .ipv4
      else .ok (.domain name)

/-- The host of any other scheme. -/
def ofName (cs : List Char) : Except ParseError Host :=
  match bracketed? cs with
  | some inside => ofBrackets inside
  | none =>
    if cs.any isForbidden then .error .domainCharacter
    else .ok (.domain (encodeChars EncodeSet.controls cs))

end Host
end BulkLoad.Url
