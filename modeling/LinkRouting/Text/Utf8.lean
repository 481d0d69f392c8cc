/-!
# UTF-8

Text is written as UTF-8 one character after another (`encode`), and bytes are read back by a
machine that takes one byte at a time.  Between characters the machine owes nothing; after the first
byte of a longer character it is `Pending`: so many bytes are still owed, and the next one must lie
between two bounds.  The bounds are the ordinary continuation bytes except after the first bytes
`E0`, `ED`, `F0` and `F4`, where a part of them would give an overlong form, a surrogate or a value
past the last code point.

A byte that does not fit ends the character begun before it, which is then one malformed piece, and
is read again as a first byte.  `pieces` is the result for all input; `decode?` accepts it when no
piece is malformed, and `decodeLossy` writes U+FFFD for each malformed piece.
-/

namespace LinkRouting
namespace Utf8

/-- The bytes of a text. -/
def encode (cs : List Char) : List UInt8 :=
  cs.flatMap String.utf8EncodeChar

@[simp]
theorem encode_nil : encode [] = [] := rfl

@[simp]
theorem encode_cons (c : Char) (cs : List Char) :
    encode (c :: cs) = String.utf8EncodeChar c ++ encode cs := by
  simp [encode]

@[simp]
theorem encode_append (cs ds : List Char) : encode (cs ++ ds) = encode cs ++ encode ds := by
  simp [encode]

/-- What a run of bytes stands for: one character, or nothing that UTF-8 can write. -/
inductive Piece where
  | scalar (c : Char)
  | malformed
  deriving DecidableEq, Repr

/-- The state inside a character: the bytes owed, the bounds of the next one, the bits so far. -/
structure Pending where
  owed : Nat
  low : Nat
  high : Nat
  value : Nat
  deriving DecidableEq, Repr

/-- Reads a byte between characters. -/
def lead (b : Nat) : List Piece × Option Pending :=
  if b < 0x80 then ([.scalar (Char.ofNat b)], none)
  else if b < 0xC2 then ([.malformed], none)
  else if b < 0xE0 then ([], some ⟨1, 0x80, 0xBF, b - 0xC0⟩)
  else if b < 0xF0 then
    ([], some ⟨2, if b = 0xE0 then 0xA0 else 0x80, if b = 0xED then 0x9F else 0xBF, b - 0xE0⟩)
  else if b < 0xF5 then
    ([], some ⟨3, if b = 0xF0 then 0x90 else 0x80, if b = 0xF4 then 0x8F else 0xBF, b - 0xF0⟩)
  else ([.malformed], none)

/-- Reads one byte: the pieces it completes, and the state after it. -/
def step : Option Pending → Nat → List Piece × Option Pending
  | none, b => lead b
  | some p, b =>
    if p.low ≤ b ∧ b ≤ p.high then
      let value := p.value * 64 + (b - 0x80)
      if p.owed ≤ 1 then ([.scalar (Char.ofNat value)], none)
      else ([], some ⟨p.owed - 1, 0x80, 0xBF, value⟩)
    else (.malformed :: (lead b).1, (lead b).2)

/-- The pieces of a byte sequence; a character cut short by the end is malformed. -/
def pieces : Option Pending → List UInt8 → List Piece
  | none, [] => []
  | some _, [] => [.malformed]
  | state, b :: bs => (step state b.toNat).1 ++ pieces (step state b.toNat).2 bs

/-- The character of a piece, if it is one. -/
def Piece.scalar? : Piece → Option Char
  | .scalar c => some c
  | .malformed => none

/-- The character of a piece, with U+FFFD for a malformed one. -/
def Piece.orReplacement : Piece → Char
  | .scalar c => c
  | .malformed => '\uFFFD'

/-- The text of well-formed bytes. -/
def decode? (bs : List UInt8) : Option (List Char) :=
  (pieces none bs).mapM Piece.scalar?

/-- The text of any bytes, each malformed piece replaced by U+FFFD. -/
def decodeLossy (bs : List UInt8) : List Char :=
  (pieces none bs).map Piece.orReplacement

end Utf8
end LinkRouting
