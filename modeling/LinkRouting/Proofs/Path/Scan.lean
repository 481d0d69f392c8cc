import Mathlib
import LinkRouting.Path.Canonical

/-! # Cutting a path and writing it again

The tokens that a path is cut into are those lists in which each literal could
stand in a path and no two literals stand side by side (`canonical_iff`,
`canonical_scan`).  A list of this kind is cut into itself again when it is written
out (`scan_render`), and no other list is (`scan_render_eq_self_iff`).  The scanner
gives the tokens one call at a time, and says that it is at its end when it has given
them all (`Scanner.tokens_iterate_advance`, `Scanner.isDone_iff`).
-/
namespace LinkRouting
namespace Path

/-- Whether a token ends the literal before it. -/
def Token.isSeparator : Token → Bool
  | .literal _ => false
  | _ => true

/-- Lists of places, each a separator or not, without two that are not side by
side. -/
def Spaced (places : List Bool) : Prop :=
  places.IsChain fun a b => a = true ∨ b = true

theorem spaced_nil : Spaced [] := List.IsChain.nil

theorem spaced_cons_iff {a : Bool} {places : List Bool} :
    Spaced (a :: places) ↔ (∀ b ∈ places.head?, a = true ∨ b = true) ∧ Spaced places :=
  List.isChain_cons

/-- What can stand in a path can be read off the places. -/
theorem canonical_iff {ts : List Token} :
    Canonical ts ↔
      Spaced (ts.map Token.isSeparator) ∧ ∀ text, .literal text ∈ ts → IsLiteralText text := by
  constructor
  · intro h
    induction h with
    | nil => exact ⟨spaced_nil, nofun⟩
    | slash _ ih | dot _ ih =>
      exact ⟨spaced_cons_iff.mpr ⟨fun _ _ => .inl rfl, ih.1⟩, by simpa using ih.2⟩
    | last htext => exact ⟨List.IsChain.singleton _, by simpa using htext⟩
    | beforeSlash htext _ ih | beforeDot htext _ ih =>
      refine ⟨spaced_cons_iff.mpr ⟨fun b hb => .inr (Option.some.inj hb).symm, ih.1⟩, ?_⟩
      intro text hmem
      rcases List.mem_cons.mp hmem with heq | hmem
      · exact Token.literal.inj heq ▸ htext
      · exact ih.2 text hmem
  · rintro ⟨hspaced, htexts⟩
    induction ts with
    | nil => exact .nil
    | cons t ts ih =>
      rw [List.map_cons, spaced_cons_iff] at hspaced
      have hts := ih hspaced.2 fun text h => htexts text (List.mem_cons_of_mem _ h)
      cases t with
      | slash => exact .slash hts
      | dot => exact .dot hts
      | literal text =>
        -- A literal is the last token, or the one behind it is a separator.
        have htext := htexts text List.mem_cons_self
        cases ts with
        | nil => exact .last htext
        | cons u ts =>
          cases u with
          | slash => exact .beforeSlash htext hts
          | dot => exact .beforeDot htext hts
          | literal other => exact absurd (hspaced.1 false rfl) (by simp [Token.isSeparator])

/-- The places are spaced where no two literals stand side by side. -/
theorem spaced_iff {ts : List Token} :
    Spaced (ts.map Token.isSeparator) ↔ ∀ a b, ¬ [.literal a, .literal b] <:+: ts := by
  rw [Spaced, List.isChain_map, List.isChain_iff_forall_rel_of_append_cons_cons]
  constructor
  · rintro h a b ⟨before, after, rfl⟩
    rcases h (a := .literal a) (b := .literal b) (List.append_assoc ..) with h | h
    · cases h
    · cases h
  · rintro h t u before after rfl
    cases t with
    | slash | dot => exact .inl rfl
    | literal a =>
      cases u with
      | slash | dot => exact .inr rfl
      | literal b => exact absurd ⟨before, after, List.append_assoc ..⟩ (h a b)

namespace Scanner

theorem tokens_of_next?_eq_none {s : Scanner} (h : s.next? = none) : s.tokens = [] := by
  rw [tokens]
  split
  · rfl
  · next h' => rw [h] at h'; cases h'

theorem tokens_of_next?_eq_some {s s' : Scanner} {t : Token} (h : s.next? = some (t, s')) :
    s.tokens = t :: s'.tokens := by
  rw [tokens]
  split
  · next h' => rw [h] at h'; cases h'
  · next h' => rw [h] at h'; cases h'; rfl

@[simp] theorem tokens_nil : (⟨[]⟩ : Scanner).tokens = [] := tokens_of_next?_eq_none rfl

@[simp] theorem tokens_slash (r : List Char) :
    (⟨'/' :: r⟩ : Scanner).tokens = .slash :: (⟨r⟩ : Scanner).tokens := tokens_of_next?_eq_some rfl

@[simp] theorem tokens_dot (r : List Char) :
    (⟨'.' :: r⟩ : Scanner).tokens = .dot :: (⟨r⟩ : Scanner).tokens := tokens_of_next?_eq_some rfl

/-- A literal is taken up to the next separator. -/
theorem tokens_literal {text : String} (h : IsLiteralText text) {r : List Char}
    (hr : ∀ c ∈ r.head?, isSeparator c = true) :
    (⟨text.toList ++ r⟩ : Scanner).tokens = .literal text :: (⟨r⟩ : Scanner).tokens := by
  obtain ⟨hne, hslash, hdot⟩ := h
  apply tokens_of_next?_eq_some
  cases hcs : text.toList with
  | nil => exact absurd hcs hne
  | cons c cs =>
    -- The run goes on through the whole literal and stops right behind it.
    have hstop : r.takeWhile (!isSeparator ·) = [] ∧ r.dropWhile (!isSeparator ·) = r := by
      cases r with
      | nil => exact ⟨rfl, rfl⟩
      | cons d r => simp [hr d rfl]
    have hcs' : ∀ d ∈ c :: cs, d ≠ '/' ∧ d ≠ '.' := fun d hd =>
      ⟨fun he => hslash (hcs ▸ he ▸ hd), fun he => hdot (hcs ▸ he ▸ hd)⟩
    have hgo : ∀ d ∈ cs, (!isSeparator d) = true := fun d hd => by
      obtain ⟨h1, h2⟩ := hcs' d (List.mem_cons_of_mem _ hd)
      simp [isSeparator, h1, h2]
    obtain ⟨h1, h2⟩ := hcs' c List.mem_cons_self
    simp only [next?, List.cons_append, if_neg h1, if_neg h2]
    rw [List.takeWhile_append_of_pos hgo, List.dropWhile_append_of_pos hgo, hstop.1, hstop.2,
      List.append_nil, ← hcs, String.ofList_toList]

/-- A list of tokens that a path can have is what its text is cut into. -/
theorem tokens_text {ts : List Token} (h : Canonical ts) :
    (⟨ts.flatMap fun t => t.text.toList⟩ : Scanner).tokens = ts := by
  induction h with
  | nil => exact tokens_nil
  | slash _ ih => exact (tokens_slash _).trans (congrArg _ ih)
  | dot _ ih => exact (tokens_dot _).trans (congrArg _ ih)
  | last htext => exact (tokens_literal htext (by simp)).trans (congrArg _ tokens_nil)
  | beforeSlash htext _ ih | beforeDot htext _ ih =>
    refine (tokens_literal htext fun c hc => ?_).trans (congrArg _ ih)
    obtain rfl := Option.some.inj hc
    rfl

/-- The first token is a separator where the text begins with one. -/
theorem isSeparator_head_tokens {s : Scanner} (h : ∀ c ∈ s.rest.head?, isSeparator c = true) :
    ∀ b ∈ (s.tokens.map Token.isSeparator).head?, b = true := by
  obtain ⟨rest⟩ := s
  cases rest with
  | nil => rw [tokens_nil]; nofun
  | cons c r =>
    have hc := h c rfl
    rw [isSeparator, Bool.or_eq_true, beq_iff_eq, beq_iff_eq] at hc
    rcases hc with rfl | rfl
    · rw [tokens_slash]; exact fun b hb => (Option.some.inj hb).symm
    · rw [tokens_dot]; exact fun b hb => (Option.some.inj hb).symm

/-- A literal that is taken could stand in a path, and a separator comes after it. -/
theorem next?_literal {s s' : Scanner} {text : String} (h : s.next? = some (.literal text, s')) :
    IsLiteralText text ∧ ∀ c ∈ s'.rest.head?, isSeparator c = true := by
  obtain ⟨rest⟩ := s
  cases rest with
  | nil => cases h
  | cons c r =>
    simp only [next?] at h
    split_ifs at h with h1 h2
    · cases h
    · cases h
    cases h
    have hgo : ∀ d ∈ r.takeWhile (!isSeparator ·), d ≠ '/' ∧ d ≠ '.' := fun d hd => by
      simpa [isSeparator] using List.mem_takeWhile_imp hd
    refine ⟨⟨by simp, ?_, ?_⟩, fun d hd => ?_⟩
    · rw [String.toList_ofList, List.mem_cons]
      rintro (he | he)
      · exact h1 he.symm
      · exact (hgo _ he).1 rfl
    · rw [String.toList_ofList, List.mem_cons]
      rintro (he | he)
      · exact h2 he.symm
      · exact (hgo _ he).2 rfl
    · have := List.head?_dropWhile_not (!isSeparator ·) r
      rw [Option.mem_def.mp hd] at this
      simpa using this

theorem canonical_tokens (s : Scanner) : Canonical s.tokens := by
  rw [canonical_iff]
  fun_induction tokens s with
  | case1 s _ => exact ⟨spaced_nil, nofun⟩
  | case2 s t s' h ih =>
    rw [List.map_cons, spaced_cons_iff]
    cases t with
    | slash | dot => exact ⟨⟨fun _ _ => .inl rfl, ih.1⟩, by simpa using ih.2⟩
    | literal text =>
      -- What the literal stopped at is the next token.
      obtain ⟨htext, hnext⟩ := next?_literal h
      refine ⟨⟨fun b hb => .inr (isSeparator_head_tokens hnext b hb), ih.1⟩, fun other hmem => ?_⟩
      rcases List.mem_cons.mp hmem with heq | hmem
      · exact Token.literal.inj heq ▸ htext
      · exact ih.2 other hmem

/-- Nothing is lost when a text is cut. -/
theorem text_tokens (s : Scanner) : (s.tokens.flatMap fun t => t.text.toList) = s.rest := by
  fun_induction tokens s with
  | case1 s h =>
    obtain ⟨rest⟩ := s
    cases rest with
    | nil => rfl
    | cons c r =>
      simp only [next?] at h
      split_ifs at h
  | case2 s t s' h ih => rw [List.flatMap_cons, ih, next?_text h]

/-! ## One call at a time -/

/-- The scanner after a call for the next token, which changes nothing at the end. -/
def advance (s : Scanner) : Scanner :=
  (s.next?.map Prod.snd).getD s

/-- A call gives the first of the tokens that are left. -/
theorem fst_next? (s : Scanner) : s.next?.map Prod.fst = s.tokens.head? := by
  cases h : s.next? with
  | none => rw [tokens_of_next?_eq_none h]; rfl
  | some next => rw [tokens_of_next?_eq_some h]; rfl

theorem tokens_advance (s : Scanner) : s.advance.tokens = s.tokens.tail := by
  cases h : s.next? with
  | none =>
    rw [advance, h, tokens_of_next?_eq_none h]
    exact tokens_of_next?_eq_none h
  | some next =>
    rw [advance, h, tokens_of_next?_eq_some h]
    rfl

/-- **Each call takes one token**, as long as there is one. -/
theorem tokens_iterate_advance (s : Scanner) (n : Nat) :
    (advance^[n] s).tokens = s.tokens.drop n := by
  induction n generalizing s with
  | zero => rfl
  | succ n ih => rw [Function.iterate_succ_apply, ih, tokens_advance, List.drop_tail]

/-- **The scanner is at its end where no token is left.** -/
theorem isDone_iff (s : Scanner) : s.isDone = true ↔ s.tokens = [] := by
  rw [isDone, List.isEmpty_iff]
  constructor
  · intro h
    obtain ⟨rest⟩ := s
    obtain rfl : rest = [] := h
    exact tokens_nil
  · intro h
    rw [← s.text_tokens, h, List.flatMap_nil]

end Scanner

theorem canonical_scan (text : String) : Canonical (scan text) := Scanner.canonical_tokens _

theorem toList_render (ts : List Token) :
    (render ts).toList = ts.flatMap fun t => t.text.toList := by
  rw [render, String.toList_join, List.flatMap_map]

theorem render_append (ts us : List Token) : render (ts ++ us) = render ts ++ render us := by
  rw [render, List.map_append, String.join_append, ← render, ← render]

/-- **What is written from the tokens of a path is cut into them again.** -/
theorem scan_render {ts : List Token} (h : Canonical ts) : scan (render ts) = ts := by
  rw [scan, Scanner.ofText, toList_render]
  exact Scanner.tokens_text h

/-- **A path is what its tokens write.** -/
theorem render_scan (text : String) : render (scan text) = text := by
  rw [← String.toList_inj, toList_render]
  exact Scanner.text_tokens _

/-- **Cutting and writing are inverse on just the lists that a path can have.**  Every
path is written again from its tokens.  A list of tokens is cut again from its text exactly
if no literal of it is empty or holds a separator, and no two stand side by side.  And after
any number of calls for the next token, the next call gives the token that comes then, and
the scanner says that it is at its end exactly if none is left. -/
theorem scan_render_eq_self_iff :
    (∀ path, render (scan path) = path) ∧
    (∀ ts, scan (render ts) = ts ↔
      (∀ text, .literal text ∈ ts → IsLiteralText text) ∧
        ∀ a b, ¬ [.literal a, .literal b] <:+: ts) ∧
    ∀ path n,
      (Scanner.advance^[n] (.ofText path)).next?.map Prod.fst = (scan path)[n]? ∧
      ((Scanner.advance^[n] (.ofText path)).isDone = true ↔ (scan path).length ≤ n) := by
  refine ⟨render_scan, fun ts => ?_, fun path n => ⟨?_, ?_⟩⟩
  · rw [and_comm, ← spaced_iff, ← canonical_iff]
    exact ⟨fun h => h ▸ canonical_scan _, scan_render⟩
  · rw [Scanner.fst_next?, Scanner.tokens_iterate_advance, List.head?_drop]
    rfl
  · rw [Scanner.isDone_iff, Scanner.tokens_iterate_advance, List.drop_eq_nil_iff]
    rfl

/-- Literals side by side are written as one. -/
example : scan (render [.literal "page", .literal "js"]) = [.literal "pagejs"] := by cbv

/-- Only the empty path has no tokens. -/
theorem scan_eq_nil_iff (text : String) : scan text = [] ↔ text = "" := by
  constructor
  · intro h
    rw [← render_scan text, h]
    rfl
  · rintro rfl
    exact Scanner.tokens_nil

end Path
end LinkRouting
