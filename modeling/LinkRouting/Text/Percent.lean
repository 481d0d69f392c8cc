import LinkRouting.Text.Utf8

/-!
# Percent-encoding

`%` and two hexadecimal digits stand for one byte.  Decoding works on bytes: an escape gives its
byte, and everything else stays, a `%` without two digits after it and a `+` included
(`decodeBytes`).  The decoded bytes need not be UTF-8; `decode?` is the decoded text where they are.

Encoding (`encodeWith`) writes a chosen set of ASCII characters, and all characters past ASCII, as
the escapes of their UTF-8 bytes.
-/

namespace LinkRouting
namespace Percent

/-- The value of a hexadecimal digit, given as a byte. -/
def hexValue? (b : UInt8) : Option Nat :=
  let n := b.toNat
  if 0x30 ≤ n ∧ n ≤ 0x39 then some (n - 0x30)
  else if 0x41 ≤ n ∧ n ≤ 0x46 then some (n - 0x41 + 10)
  else if 0x61 ≤ n ∧ n ≤ 0x66 then some (n - 0x61 + 10)
  else none

/-- The byte that two hexadecimal digits write. -/
def escape? (high low : UInt8) : Option UInt8 :=
  match hexValue? high, hexValue? low with
  | some h, some l => some (UInt8.ofNat (h * 16 + l))
  | _, _ => none

/-- Replaces every complete escape by its byte. -/
def decodeBytes : List UInt8 → List UInt8
  | 0x25 :: high :: low :: rest =>
    match escape? high low with
    | some b => b :: decodeBytes rest
    | none => 0x25 :: decodeBytes (high :: low :: rest)
  | b :: rest => b :: decodeBytes rest
  | [] => []

/-- The decoded text, if the decoded bytes are UTF-8. -/
def decode? (text : String) : Option String :=
  (Utf8.decode? (decodeBytes (Utf8.encode text.toList))).map String.ofList

/-- The decoded text, with U+FFFD where the decoded bytes are not UTF-8. -/
def decodeLossy (text : String) : String :=
  String.ofList (Utf8.decodeLossy (decodeBytes (Utf8.encode text.toList)))

/-- A hexadecimal digit in upper case. -/
def hexDigit (n : Nat) : Char :=
  if n < 10 then Char.ofNat (0x30 + n) else Char.ofNat (0x41 + (n - 10))

/-- The escape of a byte. -/
def escape (b : UInt8) : List Char :=
  ['%', hexDigit (b.toNat / 16), hexDigit (b.toNat % 16)]

/-- The text with the characters past ASCII, and those of the set, written as escapes. -/
def encodeWith (set : Char → Bool) (cs : List Char) : List Char :=
  cs.flatMap fun c =>
    if c.toNat ≥ 0x80 || set c then (String.utf8EncodeChar c).flatMap escape else [c]

end Percent
end LinkRouting
