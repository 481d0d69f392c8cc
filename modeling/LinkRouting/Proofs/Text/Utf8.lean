import Mathlib
import LinkRouting.Text.Utf8

/-! # Reading back what was written in UTF-8

The machine reads the bytes of one character as that character and stands between
characters again (`pieces_encodeChar`), so it reads back every text
(`decode?_encode`).  The four lengths of a character are four runs of the machine.
In each the bounds of the next byte are met: the lengths exclude overlong forms, and
`Char` excludes surrogates and values past the last code point.
-/
namespace LinkRouting
namespace Utf8

theorem toNat_ofNat {b : Nat} (h : b < 256) : (UInt8.ofNat b).toNat = b := by
  rw [UInt8.toNat_ofNat']
  exact Nat.mod_eq_of_lt h

/-- A byte between characters that is one by itself. -/
theorem pieces_ascii {b : Nat} (h : b < 0x80) (bs : List UInt8) :
    pieces none (UInt8.ofNat b :: bs) = .scalar (Char.ofNat b) :: pieces none bs := by
  rw [pieces, step, toNat_ofNat (by omega), lead, if_pos h]
  rfl

/-- A byte between characters that begins a longer one. -/
theorem pieces_lead {b : Nat} {p : Pending} (hb : b < 256) (h : lead b = ([], some p))
    (bs : List UInt8) : pieces none (UInt8.ofNat b :: bs) = pieces (some p) bs := by
  rw [pieces, step, toNat_ofNat hb, h]
  rfl

theorem lead_two : ∀ q < 0x20, 2 ≤ q → lead (q + 0xC0) = ([], some ⟨1, 0x80, 0xBF, q⟩) := by
  decide

theorem lead_three : ∀ q < 0x10, lead (q + 0xE0) =
    ([], some ⟨2, if q = 0 then 0xA0 else 0x80, if q = 13 then 0x9F else 0xBF, q⟩) := by
  decide

theorem lead_four : ∀ q < 5, lead (q + 0xF0) =
    ([], some ⟨3, if q = 0 then 0x90 else 0x80, if q = 4 then 0x8F else 0xBF, q⟩) := by
  decide

variable {owed low high value b : Nat}

/-- The last byte that a character owes. -/
theorem pieces_last (hb : low ≤ b ∧ b ≤ high) (h256 : b < 256) (bs : List UInt8) :
    pieces (some ⟨1, low, high, value⟩) (UInt8.ofNat b :: bs) =
      .scalar (Char.ofNat (value * 64 + (b - 0x80))) :: pieces none bs := by
  rw [pieces, step, toNat_ofNat h256, if_pos hb]
  rfl

/-- A byte that a character owes, after which it owes more. -/
theorem pieces_more (hb : low ≤ b ∧ b ≤ high) (h256 : b < 256) (bs : List UInt8) :
    pieces (some ⟨owed + 2, low, high, value⟩) (UInt8.ofNat b :: bs) =
      pieces (some ⟨owed + 1, 0x80, 0xBF, value * 64 + (b - 0x80)⟩) bs := by
  rw [pieces, step, toNat_ofNat h256, if_pos hb]
  rfl

/-- **The bytes of a character are read as the character.** -/
theorem pieces_encodeChar (c : Char) (bs : List UInt8) :
    pieces none (String.utf8EncodeChar c ++ bs) = .scalar c :: pieces none bs := by
  have hvalid : c.val.toNat < 0xD800 ∨ 0xDFFF < c.val.toNat ∧ c.val.toNat < 0x110000 := c.valid
  have hchar : ∀ n, n = c.val.toNat → Piece.scalar (Char.ofNat n) = .scalar c := fun n hn => by
    rw [hn]
    exact congrArg _ (Char.ofNat_toNat c)
  rw [String.utf8EncodeChar]
  generalize c.val.toNat = v at hvalid hchar
  split_ifs with h1 h2 h3
  · rw [List.singleton_append, pieces_ascii (by omega), hchar v rfl]
  · rw [Nat.mod_eq_of_lt (by omega)]
    simp only [List.cons_append, List.nil_append]
    rw [pieces_lead (by omega) (lead_two (v / 64) (by omega) (by omega)),
      pieces_last (by omega) (by omega), hchar _ (by omega)]
  · -- Under `E0` the second byte is past the overlong forms, under `ED` before the surrogates.
    rw [Nat.mod_eq_of_lt (a := v / 4096) (by omega)]
    simp only [List.cons_append, List.nil_append]
    rw [pieces_lead (by omega) (lead_three (v / 4096) (by omega)),
      pieces_more (by constructor <;> split_ifs <;> omega) (by omega),
      pieces_last (by omega) (by omega), hchar _ (by omega)]
  · -- Under `F0` it is past the overlong forms, under `F4` before the last code point.
    rw [Nat.mod_eq_of_lt (a := v / 262144) (by omega)]
    simp only [List.cons_append, List.nil_append]
    rw [pieces_lead (by omega) (lead_four (v / 262144) (by omega)),
      pieces_more (by constructor <;> split_ifs <;> omega) (by omega),
      pieces_more (by omega) (by omega), pieces_last (by omega) (by omega), hchar _ (by omega)]

theorem pieces_encode (cs : List Char) : pieces none (encode cs) = cs.map .scalar := by
  induction cs with
  | nil => rfl
  | cons c cs ih => rw [encode_cons, pieces_encodeChar, ih, List.map_cons]

/-- **A text is read back from its bytes.** -/
theorem decode?_encode (cs : List Char) : decode? (encode cs) = some cs := by
  rw [decode?, pieces_encode]
  induction cs with
  | nil => rfl
  | cons c cs ih => rw [List.map_cons, List.mapM_cons, ih]; rfl

end Utf8
end LinkRouting
