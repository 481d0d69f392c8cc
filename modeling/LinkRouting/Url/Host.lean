import LinkRouting.Url.Address
import LinkRouting.Url.Domain

/-!
# Hosts

How the host of a URL is read from its text.  In brackets stands an IPv6 address.  Otherwise the
host of a special scheme is a domain name or, if it ends in a number, an IPv4 address; for other
schemes it is any text without the characters that would end it, and may be empty.
-/

namespace LinkRouting
namespace Url

/-- The IPv6 address in brackets, where the first bracket was read. -/
def bracketedHost (cs : List Char) : Except UrlError Host :=
  if cs.getLast? = some ']' then
    match ipv6? cs.dropLast with
    | some pieces => .ok (.ipv6 pieces)
    | none => .error .invalidIpv6
  else .error .invalidIpv6

/-- The host of a special scheme. -/
def domainHost (cs : List Char) : Except UrlError Host :=
  match cs with
  | '[' :: r => bracketedHost r
  | _ =>
    match (Utf8.decode? (Percent.decodeBytes (Utf8.encode cs))).bind domainToAscii? with
    | none => .error .invalidName
    | some name =>
      if name.isEmpty then .error .emptyHost
      else if endsInNumber name then
        match ipv4? name with
        | some address => .ok (.ipv4 address)
        | none => .error .invalidIpv4
      else .ok (.name (String.ofList name))

/-- Characters that no host holds. -/
def isForbiddenInHost (c : Char) : Bool :=
  ['\x00', '\t', '\n', '\r', ' ', '#', '/', ':', '<', '>', '?', '@', '[', '\\', ']', '^',
    '|'].contains c

/-- The host of a scheme that is not special. -/
def opaqueHost (cs : List Char) : Except UrlError Host :=
  match cs with
  | [] => .ok .empty
  | '[' :: r => bracketedHost r
  | _ =>
    if cs.any isForbiddenInHost then .error .invalidHostCharacter
    else .ok (.name (escaped isControl cs))

/-- The host of a `file` URL, which is empty where it is the own machine. -/
def fileHost (cs : List Char) : Except UrlError Host :=
  if cs.isEmpty then .ok .empty
  else
    match domainHost cs with
    | .ok (.name "localhost") => .ok .empty
    | result => result

/-- The text of a host: all up to the first colon that is not in brackets. -/
def takeHost (bracketed : Bool) : List Char → List Char
  | [] => []
  | c :: cs =>
    if c = ':' ∧ !bracketed then []
    else c :: takeHost (c == '[' || (bracketed && c != ']')) cs

end Url
end LinkRouting
