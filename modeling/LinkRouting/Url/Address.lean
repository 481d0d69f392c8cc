import LinkRouting.Text.Numeral
import LinkRouting.Url.Path

/-!
# Addresses as hosts

An IPv4 address is one to four numbers between dots, in decimal, in octal after `0`, or in
hexadecimal after `0x`; a last dot may follow.  The last number fills the bytes that the others
leave.  A host whose last part is a number is taken for such an address and for nothing else
(`endsInNumber`).

An IPv6 address is eight pieces of up to four hexadecimal digits between colons, where `::` stands
once for one or more zeros, and the last two pieces may be written as an IPv4 address in plain
decimal.
-/

namespace LinkRouting
namespace Url

open Text (cutAt number?)

/-- The number of a part of an IPv4 address. -/
def ipv4Part? (cs : List Char) : Option Nat :=
  match cs with
  | [] => none
  | '0' :: 'x' :: r => number? 16 r
  | '0' :: 'X' :: r => number? 16 r
  | '0' :: c :: r => number? 8 (c :: r)
  | _ => number? 10 cs

/-- The parts between dots, without the empty one after a last dot. -/
def dottedParts (cs : List Char) : List (List Char) :=
  let parts := cutAt (· == '.') cs
  if parts.getLast? == some [] then parts.dropLast else parts

/-- Whether the last part of a host is a number. -/
def endsInNumber (cs : List Char) : Bool :=
  match (dottedParts cs).getLast? with
  | none => false
  | some last => (!last.isEmpty && last.all Char.isDigit) || (ipv4Part? last).isSome

/-- The number of an IPv4 address: all but the last part are bytes, and the last fills the rest. -/
def ipv4? (cs : List Char) : Option Nat := do
  let numbers ← (dottedParts cs).mapM ipv4Part?
  let last ← numbers.getLast?
  let bytes := numbers.dropLast
  let room := Nat.pow 256 (4 - bytes.length)
  if bytes.length ≤ 3 ∧ bytes.all (· ≤ 255) ∧ last < room then
    return (bytes.foldl (fun n b => n * 256 + b) 0) * room + last
  else none

/-- A byte of an address in plain decimal, without a needless zero in front. -/
def decimalByte? (cs : List Char) : Option Nat :=
  match cs with
  | '0' :: _ :: _ => none
  | [] => none
  | _ => (number? 10 cs).bind fun n => if n ≤ 255 then some n else none

/-- The two pieces of four bytes between dots. -/
def embeddedIpv4? (cs : List Char) : Option (List Nat) := do
  match ← (cutAt (· == '.') cs).mapM decimalByte? with
  | [a, b, c, d] => return [a * 256 + b, c * 256 + d]
  | _ => none

/-- A piece of up to four hexadecimal digits. -/
def ipv6Piece? (cs : List Char) : Option Nat :=
  if cs.isEmpty || 4 < cs.length then none else number? 16 cs

/-- The pieces between colons; the last part may be an IPv4 address. -/
def ipv6Pieces? : List (List Char) → Option (List Nat)
  | [] => some []
  | [last] => if last.contains '.' then embeddedIpv4? last else (ipv6Piece? last).map ([·])
  | part :: parts => do return (← ipv6Piece? part) :: (← ipv6Pieces? parts)

/-- The text before and after the first `::`. -/
def splitDoubleColon : List Char → Option (List Char × List Char)
  | ':' :: ':' :: r => some ([], r)
  | c :: r => (splitDoubleColon r).map fun (before, after) => (c :: before, after)
  | [] => none

/-- The pieces of an IPv6 address. -/
def ipv6? (cs : List Char) : Option (List Nat) := do
  match splitDoubleColon cs with
  | none =>
    let pieces ← ipv6Pieces? (cutAt (· == ':') cs)
    if pieces.length = 8 then return pieces else none
  | some (before, after) =>
    let left ← if before.isEmpty then some [] else (cutAt (· == ':') before).mapM ipv6Piece?
    let right ← if after.isEmpty then some [] else ipv6Pieces? (cutAt (· == ':') after)
    let given := left.length + right.length
    if given ≤ 7 then return left ++ List.replicate (8 - given) 0 ++ right else none

end Url
end LinkRouting
