import Mathlib
import LinkRouting.Pattern.Canonical

/-! # Cutting a pattern and writing it again

Nothing of a pattern is lost when it is cut into tokens (`render_scan`), and each token
is one that can stand in a pattern (`isWritten_of_mem_scan`).  So a parenthesis in a
text is always a token of its own (`mem_toList_render_iff`).

The other way, tokens that are written are cut into themselves again if they are
canonical, and only then (`scan_render_eq_iff`).  What decides it are neighbours: a
fragment goes on over the token behind it unless that token ends it, so a symbol before
a `.`, or a literal before a symbol, comes back as one token.
-/
namespace LinkRouting
namespace Pattern

theorem isName_iff {cs : List Char} : IsName cs ↔ ∀ c ∈ cs, isBoundary c = false := by
  simp [IsName, isBoundary, and_assoc]

/-- The tokens that a pattern can have, read one by one and neighbour by neighbour. -/
theorem canonical_iff {ts : List Token} :
    Canonical ts ↔ (∀ t ∈ ts, t.IsWritten) ∧
      ts.IsChain fun t u => t.isFragment = true → u.endsFragment = true := by
  constructor
  · intro h
    induction h with
    | nil => exact ⟨nofun, .nil⟩
    | last ht => exact ⟨by simpa using ht, .singleton _⟩
    | cons ht hnext _ ih =>
      exact ⟨List.forall_mem_cons.mpr ⟨ht, ih.1⟩, List.isChain_cons_cons.mpr ⟨hnext, ih.2⟩⟩
  · rintro ⟨hwritten, hchain⟩
    induction ts with
    | nil => exact .nil
    | cons t ts ih =>
      obtain ⟨ht, hts⟩ := List.forall_mem_cons.mp hwritten
      cases ts with
      | nil => exact .last ht
      | cons u ts =>
        obtain ⟨hnext, hrest⟩ := List.isChain_cons_cons.mp hchain
        exact .cons ht hnext (ih hts hrest)

/-- A written fragment is one that the scanner can read: it starts as no separator and no
parenthesis does, and goes on without a boundary. -/
theorem Token.IsWritten.exists_fragment {t : Token} (h : t.IsWritten) (ht : t.isFragment = true) :
    ∃ c cs, t = fragment c cs ∧ (c ≠ '/' ∧ c ≠ '.' ∧ c ≠ '(' ∧ c ≠ ')') ∧ IsName cs := by
  cases t with
  | slash | dot | openParen | closeParen => cases ht
  | symbol name => exact ⟨':', name.toList, by simp [fragment], by decide, h⟩
  | star name => exact ⟨'*', name.toList, by simp [fragment], by decide, h⟩
  | literal text =>
    rw [IsWritten] at h
    cases hcs : text.toList with
    | nil => rw [hcs] at h; exact h.elim
    | cons c cs =>
      rw [hcs] at h
      obtain ⟨hdot, hcolon, hname⟩ := h
      obtain ⟨⟨hslash, hopen, hclose, hstar⟩, hrest⟩ := List.forall_mem_cons.mp hname
      refine ⟨c, cs, ?_, ⟨hslash, hdot, hopen, hclose⟩, hrest⟩
      rw [fragment, if_neg hcolon, if_neg hstar, ← hcs, String.ofList_toList]

namespace Scanner

/-- Nothing is lost when a text is cut. -/
theorem text_tokens (s : Scanner) : (s.tokens.flatMap fun t => t.text.toList) = s.rest := by
  fun_induction tokens s with
  | case1 s h =>
    obtain ⟨rest⟩ := s
    cases rest with
    | nil => rfl
    | cons c r =>
      simp only [next?] at h
      split_ifs at h
  | case2 s t s' h ih => rw [List.flatMap_cons, ih, next?_text h]

theorem isName_takeWhile (cs : List Char) : IsName (cs.takeWhile (!isBoundary ·)) :=
  isName_iff.mpr fun _ hc => by simpa using List.mem_takeWhile_imp hc

/-- A token that is taken can stand in a pattern. -/
theorem next?_isWritten {s s' : Scanner} {t : Token} (h : s.next? = some (t, s')) :
    t.IsWritten := by
  obtain ⟨rest⟩ := s
  cases rest with
  | nil => cases h
  | cons c r =>
    simp only [next?] at h
    split_ifs at h with hslash hdot hopen hclose
    all_goals cases h
    -- The separators and the parentheses are done; a fragment is left.
    · trivial
    · trivial
    · trivial
    · trivial
    · have hname := isName_takeWhile r
      unfold fragment
      split_ifs with hcolon hstar
      · rwa [Token.IsWritten, String.toList_ofList]
      · rwa [Token.IsWritten, String.toList_ofList]
      · rw [Token.IsWritten, String.toList_ofList]
        refine ⟨hdot, hcolon, fun d hd => ?_⟩
        rcases List.mem_cons.mp hd with rfl | hd
        · exact ⟨hslash, hopen, hclose, hstar⟩
        · exact hname d hd

theorem isWritten_of_mem_tokens (s : Scanner) : ∀ t ∈ s.tokens, t.IsWritten := by
  fun_induction tokens s with
  | case1 s h => exact nofun
  | case2 s t s' h ih => exact List.forall_mem_cons.mpr ⟨next?_isWritten h, ih⟩

/-! ### Where a fragment ends -/

theorem tokens_of_next?_eq_none {s : Scanner} (h : s.next? = none) : s.tokens = [] := by
  rw [tokens]
  split
  · rfl
  · next h' => rw [h] at h'; cases h'

theorem tokens_of_next?_eq_some {s s' : Scanner} {t : Token} (h : s.next? = some (t, s')) :
    s.tokens = t :: s'.tokens := by
  rw [tokens]
  split
  · next h' => rw [h] at h'; cases h'
  · next h' => rw [h] at h'; cases h'; rfl

/-- A fragment that is taken stops at a boundary. -/
theorem next?_isFragment {s s' : Scanner} {t : Token} (h : s.next? = some (t, s'))
    (ht : t.isFragment = true) : ∀ c ∈ s'.rest.head?, isBoundary c = true := by
  obtain ⟨rest⟩ := s
  cases rest with
  | nil => cases h
  | cons c r =>
    simp only [next?] at h
    split_ifs at h
    all_goals cases h
    · cases ht
    · cases ht
    · cases ht
    · cases ht
    · intro d hd
      have hstop := List.head?_dropWhile_not (!isBoundary ·) r
      rw [Option.mem_def.mp hd] at hstop
      simpa using hstop

/-- A token that is taken at a boundary ends the fragment before it. -/
theorem next?_endsFragment {s s' : Scanner} {u : Token} (h : s.next? = some (u, s'))
    (hs : ∀ c ∈ s.rest.head?, isBoundary c = true) : u.endsFragment = true := by
  obtain ⟨rest⟩ := s
  cases rest with
  | nil => cases h
  | cons c r =>
    have hc : c = '/' ∨ c = '(' ∨ c = ')' ∨ c = '*' := by
      simpa [isBoundary, or_assoc] using hs c rfl
    rcases hc with rfl | rfl | rfl | rfl
    all_goals cases h; rfl

theorem canonical_tokens (s : Scanner) : Canonical s.tokens := by
  refine canonical_iff.mpr ⟨isWritten_of_mem_tokens s, ?_⟩
  fun_induction tokens s with
  | case1 s _ => exact .nil
  | case2 s t s' h ih =>
    refine List.isChain_cons.mpr ⟨fun u hu ht => ?_, ih⟩
    -- What the fragment stopped at begins the next token.
    cases hnext : s'.next? with
    | none => rw [tokens_of_next?_eq_none hnext] at hu; cases hu
    | some next =>
      rw [tokens_of_next?_eq_some hnext] at hu
      obtain rfl := Option.some.inj hu
      exact next?_endsFragment hnext (next?_isFragment h ht)

/-- **A written token is taken off the text before which it stands**, unless it is a
fragment and the text goes on with it. -/
theorem next?_text_append {t : Token} (h : t.IsWritten) {r : List Char}
    (hr : t.isFragment = true → ∀ c ∈ r.head?, isBoundary c = true) :
    (⟨t.text.toList ++ r⟩ : Scanner).next? = some (t, ⟨r⟩) := by
  by_cases ht : t.isFragment = true
  · obtain ⟨c, cs, rfl, ⟨hslash, hdot, hopen, hclose⟩, hname⟩ := h.exists_fragment ht
    -- The run goes on through the whole fragment and stops right behind it.
    have hgo : ∀ d ∈ cs, (!isBoundary d) = true := by
      intro d hd
      rw [isName_iff.mp hname d hd]
      rfl
    have hstop : r.takeWhile (!isBoundary ·) = [] ∧ r.dropWhile (!isBoundary ·) = r := by
      cases r with
      | nil => exact ⟨rfl, rfl⟩
      | cons d r => simp [hr ht d rfl]
    rw [fragment_text, next?]
    simp only [List.cons_append, if_neg hslash, if_neg hdot, if_neg hopen, if_neg hclose]
    rw [List.takeWhile_append_of_pos hgo, List.dropWhile_append_of_pos hgo, hstop.1, hstop.2,
      List.append_nil]
  · cases t with
    | slash | dot | openParen | closeParen => rfl
    | literal text | symbol name | star name => exact absurd rfl ht

/-- Tokens that end a fragment begin with a boundary. -/
theorem isBoundary_head_text {u : Token} (hu : u.endsFragment = true) (r : List Char) :
    ∀ c ∈ (u.text.toList ++ r).head?, isBoundary c = true := by
  cases u with
  | slash | openParen | closeParen => simp [Token.text, isBoundary]
  | star name => simp [Token.text, isBoundary]
  | dot | literal text | symbol name => cases hu

/-- A list of tokens that a pattern can have is what its text is cut into. -/
theorem tokens_text {ts : List Token} (h : Canonical ts) :
    (⟨ts.flatMap fun t => t.text.toList⟩ : Scanner).tokens = ts := by
  induction h with
  | nil => exact tokens_of_next?_eq_none rfl
  | @last t ht =>
    rw [List.flatMap_singleton, ← List.append_nil t.text.toList,
      tokens_of_next?_eq_some (next?_text_append ht fun _ => by simp)]
    exact congrArg _ (tokens_of_next?_eq_none rfl)
  | @cons t u ts ht hnext _ ih =>
    rw [List.flatMap_cons, tokens_of_next?_eq_some (next?_text_append ht fun hfragment => ?_), ih]
    rw [List.flatMap_cons]
    exact isBoundary_head_text (hnext hfragment) _

end Scanner

theorem toList_render (ts : List Token) :
    (render ts).toList = ts.flatMap fun t => t.text.toList := by
  rw [render, String.toList_join, List.flatMap_map]

theorem render_cons (t : Token) (ts : List Token) : render (t :: ts) = t.text ++ render ts :=
  String.join_cons

/-- **A pattern is what its tokens write.** -/
theorem render_scan (pattern : String) : render (scan pattern) = pattern := by
  rw [← String.toList_inj, toList_render]
  exact Scanner.text_tokens _

theorem canonical_scan (pattern : String) : Canonical (scan pattern) :=
  Scanner.canonical_tokens _

/-- **What is written from the tokens of a pattern is cut into them again.** -/
theorem scan_render {ts : List Token} (h : Canonical ts) : scan (render ts) = ts := by
  rw [scan, Scanner.ofText, toList_render]
  exact Scanner.tokens_text h

/-- **Cutting and writing are inverse on the canonical lists, and on no others.**  Every
pattern is written again from its tokens, and a list of tokens is cut again from its text
exactly if its texts can stand in a pattern and each fragment is the last token or comes
before one that ends it. -/
theorem scan_render_eq_iff :
    (∀ pattern, render (scan pattern) = pattern) ∧
      ∀ ts, scan (render ts) = ts ↔ Canonical ts := by
  refine ⟨render_scan, fun ts => ⟨?_, scan_render⟩⟩
  intro h
  rw [← h]
  exact canonical_scan _

/-- A symbol goes on over a dot behind it. -/
example : scan (render [.slash, .symbol "id", .dot, .symbol "format"]) =
    [.slash, .symbol "id.:format"] := by cbv

/-- Every token of a pattern can stand in one. -/
theorem isWritten_of_mem_scan {pattern : String} {t : Token} (h : t ∈ scan pattern) :
    t.IsWritten :=
  Scanner.isWritten_of_mem_tokens _ t h

/-- A written literal is a name, with a beginning of its own. -/
theorem Token.IsWritten.isName {text : String} (h : (Token.literal text).IsWritten) :
    IsName text.toList := by
  rw [IsWritten] at h
  cases hcs : text.toList with
  | nil => exact nofun
  | cons c cs => rw [hcs] at h; exact h.2.2

/-- A written token has a `(` only if it is one. -/
theorem Token.IsWritten.mem_text_iff {t : Token} (h : t.IsWritten) :
    '(' ∈ t.text.toList ↔ t = .openParen := by
  cases t with
  | literal text => exact iff_of_false (fun hmem => (h.isName _ hmem).2.1 rfl) (by simp)
  | symbol name | star name =>
    refine iff_of_false (fun hmem => ?_) (by simp)
    rw [text, String.toList_append, List.mem_append] at hmem
    rcases hmem with hmem | hmem
    · simp at hmem
    · exact (h _ hmem).2.1 rfl
  | slash | dot | openParen | closeParen => simp [text]

theorem mem_toList_render_of_mem {ts : List Token} (h : .openParen ∈ ts) :
    '(' ∈ (render ts).toList := by
  rw [toList_render]
  exact List.mem_flatMap.mpr ⟨_, h, List.mem_singleton.mpr rfl⟩

/-- **A `(` in the text of written tokens is a token of its own.** -/
theorem mem_toList_render_iff {ts : List Token} (h : ∀ t ∈ ts, t.IsWritten) :
    '(' ∈ (render ts).toList ↔ .openParen ∈ ts := by
  refine ⟨fun hmem => ?_, mem_toList_render_of_mem⟩
  rw [toList_render] at hmem
  obtain ⟨t, ht, hmem⟩ := List.mem_flatMap.mp hmem
  exact (h t ht).mem_text_iff.mp hmem ▸ ht

theorem mem_toList_iff (pattern : String) :
    '(' ∈ pattern.toList ↔ .openParen ∈ scan pattern := by
  rw [← mem_toList_render_iff fun _ => isWritten_of_mem_scan, render_scan]

end Pattern
end LinkRouting
