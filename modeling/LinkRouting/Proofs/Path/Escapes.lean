import LinkRouting.Proofs.Path.Scan
import LinkRouting.Proofs.Text.Percent

/-! # Escapes in a path

Escapes hold no separator, so a path with characters written as escapes is cut at the
same places (`scan_encodeWith`): its tokens are those of the path, the literals written
the same way.
-/
namespace LinkRouting

namespace Percent

theorem hexDigit_ne : ∀ n < 16, hexDigit n ≠ '/' ∧ hexDigit n ≠ '.' := by decide

theorem ne_of_mem_escape {b : UInt8} {c : Char} (h : c ∈ escape b) : c ≠ '/' ∧ c ≠ '.' := by
  have hb : b.toNat < 256 := b.toNat_lt
  rw [escape, List.mem_cons, List.mem_cons, List.mem_singleton] at h
  rcases h with rfl | rfl | rfl
  · decide
  · exact hexDigit_ne _ (by omega)
  · exact hexDigit_ne _ (by omega)

section
variable {set : Char → Bool}

/-- What an encoding writes is an escape, or a character that is kept. -/
theorem of_mem_encodeWith {c : Char} {cs : List Char} (h : c ∈ encodeWith set cs) :
    (∃ b, c ∈ escape b) ∨ c ∈ cs ∧ set c = false := by
  rw [encodeWith, List.mem_flatMap] at h
  obtain ⟨d, hd, hc⟩ := h
  split at hc
  · obtain ⟨b, -, hb⟩ := List.mem_flatMap.mp hc
    exact .inl ⟨b, hb⟩
  · next hkept =>
    obtain rfl := List.mem_singleton.mp hc
    simp only [Bool.or_eq_true, not_or] at hkept
    exact .inr ⟨hd, Bool.eq_false_of_not_eq_true hkept.2⟩

theorem encodeWith_cons_of_kept {c : Char} (hascii : c.toNat < 0x80) (hc : set c = false)
    (cs : List Char) : encodeWith set (c :: cs) = c :: encodeWith set cs := by
  rw [encodeWith, List.flatMap_cons, ← encodeWith, if_neg]
  · rfl
  · simp [hc, hascii]

theorem encodeWith_cons (c : Char) (cs : List Char) :
    encodeWith set (c :: cs) = encodeWith set [c] ++ encodeWith set cs := by
  rw [← List.singleton_append]
  exact List.flatMap_append

theorem encodeWith_ne_nil {cs : List Char} (h : cs ≠ []) : encodeWith set cs ≠ [] := by
  obtain ⟨c, cs, rfl⟩ := List.exists_cons_of_ne_nil h
  intro hnil
  rw [encodeWith, List.flatMap_cons, List.append_eq_nil_iff] at hnil
  have hfirst := hnil.1
  split at hfirst
  · obtain ⟨b, bs, hbytes⟩ := List.exists_cons_of_ne_nil (String.utf8EncodeChar_ne_nil (c := c))
    rw [hbytes] at hfirst
    cases hfirst
  · cases hfirst

end
end Percent

namespace Path
variable {set : Char → Bool}

/-- What is written for a text could stand in a path, if the separators in it are
escaped. -/
theorem isLiteralText_encodeWith {text : String} (hne : text ≠ "")
    (hfree : ∀ c ∈ text.toList, set c = false → c ≠ '/' ∧ c ≠ '.') :
    IsLiteralText (String.ofList (Percent.encodeWith set text.toList)) := by
  have hmem : ∀ c ∈ Percent.encodeWith set text.toList, c ≠ '/' ∧ c ≠ '.' := by
    intro c hc
    rcases Percent.of_mem_encodeWith hc with ⟨b, hb⟩ | ⟨hc, hkept⟩
    · exact Percent.ne_of_mem_escape hb
    · exact hfree c hc hkept
  rw [IsLiteralText, String.toList_ofList]
  refine ⟨Percent.encodeWith_ne_nil fun hnil => hne (String.toList_inj.mp hnil), ?_, ?_⟩
  · exact fun hc => (hmem _ hc).1 rfl
  · exact fun hc => (hmem _ hc).2 rfl

/-- A token with the characters of a literal written as escapes. -/
def Token.encodeWith (set : Char → Bool) : Token → Token
  | slash => .slash
  | dot => .dot
  | literal text => .literal (String.ofList (Percent.encodeWith set text.toList))

variable (hslash : set '/' = false) (hdot : set '.' = false)
include hslash hdot

theorem Token.toList_text_encodeWith (token : Token) :
    (token.encodeWith set).text.toList = Percent.encodeWith set token.text.toList := by
  cases token with
  | slash =>
    show "/".toList = Percent.encodeWith set "/".toList
    exact (Percent.encodeWith_cons_of_kept (by decide) hslash []).symm
  | dot =>
    show ".".toList = Percent.encodeWith set ".".toList
    exact (Percent.encodeWith_cons_of_kept (by decide) hdot []).symm
  | literal text => exact String.toList_ofList

omit hslash hdot in
theorem Canonical.map_encodeWith {tokens : List Token} (h : Canonical tokens) :
    Canonical (tokens.map (Token.encodeWith set)) := by
  obtain ⟨hspaced, htexts⟩ := canonical_iff.mp h
  refine canonical_iff.mpr ⟨?_, fun text hmem => ?_⟩
  · rw [List.map_map]
    convert hspaced using 2
    ext token
    cases token <;> rfl
  · obtain ⟨token, htoken, heq⟩ := List.mem_map.mp hmem
    cases token with
    | slash => cases heq
    | dot => cases heq
    | literal own =>
      obtain ⟨hne, hslash, hdot⟩ := htexts own htoken
      obtain rfl := Token.literal.inj heq
      refine isLiteralText_encodeWith (fun he => hne (by rw [he]; rfl)) fun c hc _ => ?_
      exact ⟨fun he => hslash (he ▸ hc), fun he => hdot (he ▸ hc)⟩

/-- **A path with characters written as escapes is cut at the same places.** -/
theorem scan_encodeWith (text : String) :
    scan (String.ofList (Percent.encodeWith set text.toList)) =
      (scan text).map (Token.encodeWith set) := by
  have hwritten : String.ofList (Percent.encodeWith set text.toList) =
      render ((scan text).map (Token.encodeWith set)) := by
    rw [← String.toList_inj, String.toList_ofList, toList_render, List.flatMap_map]
    conv_lhs => rw [← render_scan text, toList_render]
    rw [Percent.encodeWith, List.flatMap_assoc]
    exact List.flatMap_congr fun token _ => (Token.toList_text_encodeWith hslash hdot token).symm
  rw [hwritten, scan_render (canonical_scan text).map_encodeWith]

end Path
end LinkRouting
