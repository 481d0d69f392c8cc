import LinkRouting.Proofs.Text.Utf8
import LinkRouting.Text.Percent

/-! # Decoding what was percent-encoded

An encoding that escapes `%` can be undone (`decode?_encodeWith`): an escape gives
back its byte, and a character that is kept is a single byte other than `%`, which
decoding keeps as well.

An encoding that keeps `%` and the digits cannot be told from the text by what it
decodes to (`decode?_encodeWith_of_kept`).  The escapes that were in the text are still
there, and none has come up by chance: a `%` that was not followed by two digits is not
followed by two digits now, as what is written for a byte begins with `%` or is the byte.
-/
namespace LinkRouting
namespace Percent

/-- A byte other than `%` stays. -/
theorem decodeBytes_cons_of_ne {b : UInt8} (h : b ≠ 0x25) (bs : List UInt8) :
    decodeBytes (b :: bs) = b :: decodeBytes bs := by
  rw [decodeBytes]
  intro _ _ _ hb
  exact absurd hb h

theorem encodeChar_ascii {c : Char} (h : c.toNat < 0x80) :
    String.utf8EncodeChar c = [UInt8.ofNat c.toNat] := by
  rw [String.utf8EncodeChar]
  exact if_pos (Nat.le_of_lt_succ h)

theorem hexDigit_ascii : ∀ n < 16, (hexDigit n).toNat < 0x80 := by decide

theorem hexValue?_hexDigit : ∀ n < 16, hexValue? (UInt8.ofNat (hexDigit n).toNat) = some n := by
  decide

theorem encode_escape (b : UInt8) :
    Utf8.encode (escape b) =
      [0x25, UInt8.ofNat (hexDigit (b.toNat / 16)).toNat,
        UInt8.ofNat (hexDigit (b.toNat % 16)).toNat] := by
  have hb : b.toNat < 256 := b.toNat_lt
  simp only [escape, Utf8.encode_cons, Utf8.encode_nil,
    encodeChar_ascii (hexDigit_ascii (b.toNat / 16) (by omega)),
    encodeChar_ascii (hexDigit_ascii (b.toNat % 16) (by omega))]
  rfl

/-- An escape gives its byte. -/
theorem decodeBytes_escape (b : UInt8) (bs : List UInt8) :
    decodeBytes (Utf8.encode (escape b) ++ bs) = b :: decodeBytes bs := by
  have hb : b.toNat < 256 := b.toNat_lt
  have hvalue : escape? (UInt8.ofNat (hexDigit (b.toNat / 16)).toNat)
      (UInt8.ofNat (hexDigit (b.toNat % 16)).toNat) = some b := by
    rw [escape?, hexValue?_hexDigit _ (by omega), hexValue?_hexDigit _ (by omega)]
    dsimp only
    rw [Nat.div_add_mod', UInt8.ofNat_toNat]
  rw [encode_escape]
  simp only [List.cons_append, List.nil_append]
  rw [decodeBytes, hvalue]

theorem decodeBytes_escapes (bs cs : List UInt8) :
    decodeBytes (Utf8.encode (bs.flatMap escape) ++ cs) = bs ++ decodeBytes cs := by
  induction bs with
  | nil => rfl
  | cons b bs ih =>
    rw [List.flatMap_cons, Utf8.encode_append, List.append_assoc, decodeBytes_escape, ih,
      List.cons_append]

section
variable {set : Char → Bool} (hset : set '%' = true)
include hset

/-- What is written for a character gives back its bytes. -/
theorem decodeBytes_encodeWith (cs : List Char) :
    decodeBytes (Utf8.encode (encodeWith set cs)) = Utf8.encode cs := by
  induction cs with
  | nil => rfl
  | cons c cs ih =>
    rw [encodeWith, List.flatMap_cons, ← encodeWith, Utf8.encode_append, Utf8.encode_cons]
    split
    · rw [decodeBytes_escapes, ih]
    · next hkept =>
      have hascii : c.toNat < 0x80 := by
        simp only [ge_iff_le, Bool.or_eq_true, decide_eq_true_eq, not_or, not_le] at hkept
        exact hkept.1
      have hne : UInt8.ofNat c.toNat ≠ 0x25 := by
        intro he
        have hc : c.toNat = '%'.toNat := by
          have := congrArg UInt8.toNat he
          rwa [Utf8.toNat_ofNat (by omega)] at this
        rw [Char.toNat_inj.mp hc, hset, Bool.or_true] at hkept
        exact hkept rfl
      rw [Utf8.encode_cons, Utf8.encode_nil, encodeChar_ascii hascii]
      exact (decodeBytes_cons_of_ne hne _).trans (congrArg _ ih)

/-- **A text is read back from its escapes**, provided that `%` is escaped. -/
theorem decode?_encodeWith (text : String) :
    decode? (String.ofList (encodeWith set text.toList)) = some text := by
  rw [decode?, String.toList_ofList, decodeBytes_encodeWith hset, Utf8.decode?_encode,
    Option.map_some, String.ofList_toList]

end
/-! ### Escapes that were there before -/

/-- The byte that two digits at the start of some bytes write. -/
def digits? : List UInt8 → Option UInt8
  | high :: low :: _ => escape? high low
  | _ => none

/-- `%` stays where no two digits follow it. -/
theorem decodeBytes_percent {bs : List UInt8} (h : digits? bs = none) :
    decodeBytes (0x25 :: bs) = 0x25 :: decodeBytes bs := by
  cases bs with
  | nil => rfl
  | cons high bs =>
    cases bs with
    | nil => rfl
    | cons low bs =>
      rw [digits?] at h
      rw [decodeBytes, h]

/-- Two bytes write another only if both are digits. -/
theorem isSome_of_escape?_eq_some {high low b : UInt8} (h : escape? high low = some b) :
    (hexValue? high).isSome ∧ (hexValue? low).isSome := by
  rw [escape?] at h
  split at h
  · next hhigh hlow => exact ⟨by rw [hhigh]; rfl, by rw [hlow]; rfl⟩
  · cases h

theorem hexValue?_percent : hexValue? 0x25 = none := by decide

theorem escape?_eq_none_left {high : UInt8} (h : hexValue? high = none) (low : UInt8) :
    escape? high low = none := by
  rw [escape?, h]

theorem escape?_eq_none_right {low : UInt8} (h : hexValue? low = none) (high : UInt8) :
    escape? high low = none := by
  rw [escape?, h]
  cases hexValue? high <;> rfl

theorem digits?_cons_eq_none {high : UInt8} (h : hexValue? high = none) (bs : List UInt8) :
    digits? (high :: bs) = none := by
  cases bs with
  | nil => rfl
  | cons low bs => exact escape?_eq_none_left h low

/-- A byte as an encoding writes it. -/
def written (set : Char → Bool) (b : UInt8) : List UInt8 :=
  if 0x80 ≤ b.toNat ∨ set (Char.ofNat b.toNat) = true then Utf8.encode (escape b) else [b]

/-- A character past ASCII has no byte within it. -/
theorem le_of_mem_encodeChar {c : Char} (hc : 0x80 ≤ c.toNat) :
    ∀ b ∈ String.utf8EncodeChar c, 0x80 ≤ b.toNat := by
  have hvalid : c.val.toNat < 0xD800 ∨ 0xDFFF < c.val.toNat ∧ c.val.toNat < 0x110000 := c.valid
  have hc' : 0x80 ≤ c.val.toNat := hc
  intro b hb
  rw [String.utf8EncodeChar] at hb
  generalize c.val.toNat = v at hvalid hc' hb
  split_ifs at hb with h1 h2 h3
  · omega
  · simp only [List.mem_cons, List.not_mem_nil, or_false] at hb
    rcases hb with rfl | rfl <;> rw [Utf8.toNat_ofNat (by omega)] <;> omega
  · simp only [List.mem_cons, List.not_mem_nil, or_false] at hb
    rcases hb with rfl | rfl | rfl <;> rw [Utf8.toNat_ofNat (by omega)] <;> omega
  · simp only [List.mem_cons, List.not_mem_nil, or_false] at hb
    rcases hb with rfl | rfl | rfl | rfl <;> rw [Utf8.toNat_ofNat (by omega)] <;> omega

/-- **An encoding writes byte by byte.** -/
theorem encode_encodeWith (set : Char → Bool) (cs : List Char) :
    Utf8.encode (encodeWith set cs) = (Utf8.encode cs).flatMap (written set) := by
  induction cs with
  | nil => rfl
  | cons c cs ih =>
    rw [encodeWith, List.flatMap_cons, ← encodeWith, Utf8.encode_append, ih, Utf8.encode_cons,
      List.flatMap_append]
    congr 1
    by_cases hc : 0x80 ≤ c.toNat
    · have hwritten : ∀ b ∈ String.utf8EncodeChar c, Utf8.encode (escape b) = written set b :=
        fun b hb => (if_pos (.inl (le_of_mem_encodeChar hc b hb))).symm
      rw [if_pos (by simp [hc]), Utf8.encode, List.flatMap_assoc]
      exact List.flatMap_congr hwritten
    · have hbyte : (UInt8.ofNat c.toNat).toNat = c.toNat := Utf8.toNat_ofNat (by omega)
      have hchar : String.utf8EncodeChar c = [UInt8.ofNat c.toNat] := encodeChar_ascii (by omega)
      rw [hchar, List.flatMap_singleton, List.flatMap_singleton, written, hbyte,
        Char.ofNat_toNat]
      by_cases hset : set c = true
      · rw [if_pos (by simp [hset]), if_pos (.inr hset)]
      · rw [if_neg (by simp [hc, hset]), if_neg (by simp [hc, hset]), Utf8.encode_cons,
          Utf8.encode_nil, hchar]
        rfl

section
variable {set : Char → Bool} (hpercent : set '%' = false)
  (hdigit : ∀ b, (hexValue? b).isSome → set (Char.ofNat b.toNat) = false)
include hdigit

theorem written_digit {b : UInt8} (h : (hexValue? b).isSome) : written set b = [b] := by
  have hascii : b.toNat < 0x80 := by
    by_contra hlarge
    rw [hexValue?, if_neg (by omega), if_neg (by omega), if_neg (by omega)] at h
    cases h
  rw [written, if_neg]
  rintro (hlarge | hset)
  · omega
  · rw [hdigit b h] at hset
    cases hset

/-- No digit comes to stand where there was none. -/
theorem digits?_written (bs : List UInt8) : digits? (bs.flatMap (written set)) = digits? bs := by
  -- An escape begins with `%`, which is no digit.
  have hescape : ∀ (b : UInt8) (cs : List UInt8), digits? (Utf8.encode (escape b) ++ cs) = none :=
    fun b cs => by rw [encode_escape]; exact digits?_cons_eq_none hexValue?_percent _
  cases bs with
  | nil => rfl
  | cons high bs =>
    rw [List.flatMap_cons]
    cases hhigh : hexValue? high with
    | none =>
      rw [digits?_cons_eq_none hhigh, written]
      split
      · exact hescape high _
      · exact digits?_cons_eq_none hhigh _
    | some value =>
      rw [written_digit hdigit (by rw [hhigh]; rfl), List.singleton_append]
      cases bs with
      | nil => rfl
      | cons low bs =>
        rw [List.flatMap_cons, written]
        split
        · next hwritten =>
          have hlow : hexValue? low = none := by
            by_contra hsome
            have hkept := written_digit hdigit (Option.isSome_iff_ne_none.mpr hsome)
            rw [written, if_pos hwritten, encode_escape] at hkept
            cases hkept
          rw [encode_escape]
          exact (escape?_eq_none_right hexValue?_percent high).trans
            (escape?_eq_none_right hlow high).symm
        · rfl

include hpercent

/-- **Decoding undoes an encoding that leaves escapes alone**: what was written as an
escape gives back its byte, and the escapes that were there before, also those that are
cut short, are read as they were. -/
theorem decodeBytes_written (bs : List UInt8) :
    decodeBytes (bs.flatMap (written set)) = decodeBytes bs := by
  have hkept : written set 0x25 = [0x25] := by
    rw [written, if_neg]
    rintro (hlarge | hset)
    · exact absurd hlarge (by decide)
    · exact absurd (hpercent.symm.trans hset) Bool.false_ne_true
  fun_induction decodeBytes bs with
  | case1 high low rest b hb ih =>
    obtain ⟨hhigh, hlow⟩ := isSome_of_escape?_eq_some hb
    rw [List.flatMap_cons, List.flatMap_cons, List.flatMap_cons, hkept,
      written_digit hdigit hhigh, written_digit hdigit hlow]
    simp only [List.cons_append, List.nil_append]
    rw [decodeBytes, hb]
    exact congrArg _ ih
  | case2 high low rest hnone ih =>
    rw [List.flatMap_cons, hkept, List.singleton_append, decodeBytes_percent, ih]
    rw [digits?_written hdigit]
    exact hnone
  | case3 b rest hno ih =>
    rw [List.flatMap_cons]
    by_cases hb : b = 0x25
    · subst hb
      rw [hkept, List.singleton_append, decodeBytes_percent, ih]
      rw [digits?_written hdigit]
      cases rest with
      | nil => rfl
      | cons high rest =>
        cases rest with
        | nil => rfl
        | cons low rest => exact absurd rfl (hno high low rest rfl)
    · rw [written]
      split
      · rw [decodeBytes_escape, ih]
      · rw [List.singleton_append, decodeBytes_cons_of_ne hb, ih]
  | case4 => rfl

theorem decode?_encodeWith_of_kept (text : String) :
    decode? (String.ofList (encodeWith set text.toList)) = decode? text := by
  rw [decode?, String.toList_ofList, encode_encodeWith, decodeBytes_written hpercent hdigit,
    ← decode?]

end

/-! ### Text without escapes -/

/-- Only `%` has the byte of `%` in it. -/
theorem not_mem_encode {cs : List Char} (h : '%' ∉ cs) : 0x25 ∉ Utf8.encode cs := by
  intro hmem
  obtain ⟨c, hc, hb⟩ := List.mem_flatMap.mp hmem
  by_cases hlarge : 0x80 ≤ c.toNat
  · exact absurd (le_of_mem_encodeChar hlarge _ hb) (by decide)
  · rw [encodeChar_ascii (Nat.lt_of_not_le hlarge), List.mem_singleton] at hb
    have hvalue : 0x25 = c.toNat := by
      rw [← Utf8.toNat_ofNat (b := c.toNat) (by omega), ← hb]
      rfl
    have hpercent : c = '%' := by
      rw [← Char.ofNat_toNat c, ← hvalue]
    exact h (hpercent ▸ hc)

theorem decodeBytes_of_not_mem {bs : List UInt8} (h : 0x25 ∉ bs) : decodeBytes bs = bs := by
  induction bs with
  | nil => rfl
  | cons b bs ih =>
    rw [List.mem_cons, not_or] at h
    rw [decodeBytes_cons_of_ne (Ne.symm h.1), ih h.2]

/-- **Text without `%` is what it decodes to.** -/
theorem decode?_of_not_mem {text : String} (h : '%' ∉ text.toList) :
    decode? text = some text := by
  rw [decode?, decodeBytes_of_not_mem (not_mem_encode h), Utf8.decode?_encode, Option.map_some,
    String.ofList_toList]

end Percent
end LinkRouting
