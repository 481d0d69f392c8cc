import LinkRouting.Proofs.Pattern.Scan
import LinkRouting.Proofs.RouteTable.Repetition
import LinkRouting.Proofs.RouteTable.Spelling

/-! # Patterns and their own texts

Without symbols and globs, each choice of a pattern's groups has a text of its own, and
this text is the path along the exact edges of the route (`exists_path_tokens`).  It is
matched along them as long as decoding leaves it as it is, since a literal of a path looks
for its edge by its decoded text, while a pattern's literal is taken as it is written
(`HasRegistered.matchPath_own_text`).  A pattern with an escape in it misses its own text
(`own_text_missed`).
-/
namespace LinkRouting

namespace Pattern

/-- **A token that stands for itself is a path**, along the exact edges of its own tokens. -/
theorem Token.exists_own_tokens {t : Token}
    (h : t = .slash ∨ t = .dot ∨ ∃ text, t = .literal text) :
    ∃ own : List Path.Token, t.steps = own.map Step.exact ∧ Path.render own = t.text ∧
      ∀ text, .literal text ∈ own → Path.IsLiteralText text := by
  rcases h with rfl | rfl | ⟨text, rfl⟩
  · exact ⟨[.slash], rfl, rfl, by simp⟩
  · exact ⟨[.dot], rfl, rfl, by simp⟩
  · obtain ⟨-, hown⟩ := Path.canonical_iff.mp (Path.canonical_scan text)
    exact ⟨Path.scan text, rfl, Path.render_scan text, hown⟩

/-- **What is left without placeholders is a path.**  It takes the exact edges of the tokens
of its text. -/
theorem exists_path_tokens {way : List Token}
    (hplain : ∀ t ∈ way, t = .slash ∨ t = .dot ∨ ∃ text, t = .literal text) :
    ∃ tokens : List Path.Token, steps way = tokens.map Step.exact ∧
      Path.render tokens = render way ∧
      ∀ text, .literal text ∈ tokens → Path.IsLiteralText text := by
  induction way with
  | nil => exact ⟨[], rfl, rfl, nofun⟩
  | cons t way ih =>
    obtain ⟨tokens, hsteps, hrender, htexts⟩ := ih fun u hu => hplain u (List.mem_cons_of_mem _ hu)
    obtain ⟨own, hown, hownRender, hownTexts⟩ :=
      Token.exists_own_tokens (hplain t List.mem_cons_self)
    refine ⟨own ++ tokens, ?_, ?_, fun text hmem => ?_⟩
    · rw [steps_cons, hown, hsteps, List.map_append]
    · rw [Path.render_append, render_cons, hownRender, hrender]
    · exact (List.mem_append.mp hmem).elim (hownTexts text) (htexts text)

end Pattern

namespace Trie
variable {ι : Type} {t : Trie ι}

/-- **A path takes the exact edges of its tokens** where decoding leaves it as it is. -/
theorem walk_exact {tokens : List Path.Token} {v x : Nat}
    (h : t.follow? v (tokens.map Label.exact) = some x)
    (hkeys : ∀ text, .literal text ∈ tokens → literalKey text = text) (decode : Bool)
    (b : Bindings) : t.walk decode v b tokens = .ok (x, b) := by
  induction tokens generalizing v with
  | nil =>
    obtain rfl : v = x := Option.some.inj h
    rfl
  | cons token tokens ih =>
    rw [List.map_cons, follow?] at h
    obtain ⟨w, hw, hrest⟩ := Option.bind_eq_some_iff.mp h
    have hstep : t.step decode v b token = .ok (w, b) := by
      cases token with
      | slash | dot => exact step_separator rfl hw b
      | literal text =>
        rw [step, hkeys text List.mem_cons_self]
        change t.next? v (.literal text) = some w at hw
        rw [hw]
    rw [walk, hstep]
    exact ih hrest fun text hmem => hkeys text (List.mem_cons_of_mem _ hmem)

end Trie

namespace RouteTable
open Pattern (choices steps)

variable {ι : Type} {r : RouteTable ι} {pattern : String} {way : List Pattern.Token}

/-- The text of a choice is cut into the tokens of its route. -/
theorem map_label_steps (hgram : Pattern.Grammatical (Pattern.scan pattern))
    (hsymbol : ∀ name, .symbol name ∉ Pattern.scan pattern)
    (hstar : ∀ name, .star name ∉ Pattern.scan pattern)
    (hway : way ∈ choices (Pattern.scan pattern)) :
    (steps way).map Step.label = (Path.scan (Pattern.render way)).map Label.exact := by
  have hplain : ∀ t ∈ way, t = .slash ∨ t = .dot ∨ ∃ text, t = .literal text := by
    intro t ht
    have hmem := (Pattern.sublist_of_mem_choices hgram.balanced hway).subset ht
    obtain ⟨ho, hc⟩ := Pattern.ne_paren_of_mem_choices hgram.balanced hway t ht
    cases t with
    | slash => exact .inl rfl
    | dot => exact .inr (.inl rfl)
    | openParen => exact absurd rfl ho
    | closeParen => exact absurd rfl hc
    | literal text => exact .inr (.inr ⟨text, rfl⟩)
    | symbol name => exact absurd hmem (hsymbol name)
    | star name => exact absurd hmem (hstar name)
  obtain ⟨tokens, hsteps, hrender, htexts⟩ := Pattern.exists_path_tokens hplain
  have hlabels : (steps way).map Step.label = tokens.map Label.exact := by
    rw [hsteps, List.map_map]
    rfl
  have hspellable := hgram.spellable (List.mem_map_of_mem hway)
  have hcanonical : Path.Canonical tokens := by
    refine Path.canonical_iff.mpr ⟨?_, htexts⟩
    have hspaced := hspellable.spaced
    rw [hlabels, List.map_map] at hspaced
    exact hspaced
  rw [hlabels, ← hrender, Path.scan_render hcanonical]

/-- A text that decoding leaves as it is is matched along its own edges. -/
theorem HasRegistered.exists_matchPath (h : r.HasRegistered pattern)
    (hway : way ∈ choices (Pattern.scan pattern))
    (hlabels : (steps way).map Step.label = (Path.scan (Pattern.render way)).map Label.exact)
    (hkeys : ∀ text, .literal text ∈ Path.scan (Pattern.render way) →
      Trie.literalKey text = text) :
    ∃ i, r.matchPath (Pattern.render way) = .ok ⟨i, .empty⟩ := by
  have hroute : (steps way).map Step.label ∈ Pattern.routes (Pattern.scan pattern) :=
    List.mem_map_of_mem hway
  have hend := h.isEnd hroute
  obtain ⟨v, hv⟩ := Option.isSome_iff_exists.mp (Trie.hasVertex_of_isEnd hend)
  rw [Trie.routeAt?_of_follow? hv] at hend
  obtain ⟨i, hi⟩ := Option.isSome_iff_exists.mp hend
  have hne : Pattern.render way ≠ "" := by
    intro hempty
    obtain ⟨rest, hrest⟩ := h.grammatical.slash_prefix hroute
    rw [hlabels, hempty, (Path.scan_eq_nil_iff "").mpr rfl] at hrest
    cases hrest
  rw [hlabels] at hv
  exact ⟨i, matchPath_eq_ok_iff.mpr ⟨hne, v, Trie.walk_exact hv hkeys _ _, hi⟩⟩

/-- A text has no character that the pattern has not. -/
theorem not_mem_literal {c : Char} (hgram : Pattern.Grammatical (Pattern.scan pattern))
    (hway : way ∈ choices (Pattern.scan pattern)) (hc : c ∉ pattern.toList) {text : String}
    (htext : .literal text ∈ Path.scan (Pattern.render way)) : c ∉ text.toList := by
  intro hmem
  apply hc
  have hrender : c ∈ (Pattern.render way).toList := by
    rw [← Path.render_scan (Pattern.render way), Path.toList_render]
    exact List.mem_flatMap.mpr ⟨_, htext, hmem⟩
  rw [Pattern.toList_render] at hrender
  obtain ⟨t, ht, hct⟩ := List.mem_flatMap.mp hrender
  rw [← Pattern.render_scan pattern, Pattern.toList_render]
  have hsub := Pattern.sublist_of_mem_choices hgram.balanced hway
  exact List.mem_flatMap.mpr ⟨t, hsub.subset ht, hct⟩

/-- **A pattern without placeholders matches its own text.**  Whatever else is registered, the
text that is left of a pattern when groups are taken or left is matched without parameters if
all its literals are what they decode to, and so if the pattern has no `%`. -/
theorem HasRegistered.matchPath_own_text (h : r.HasRegistered pattern)
    (hsymbol : ∀ name, .symbol name ∉ Pattern.scan pattern)
    (hstar : ∀ name, .star name ∉ Pattern.scan pattern) :
    ∀ way ∈ choices (Pattern.scan pattern),
      ((∀ text, .literal text ∈ Path.scan (Pattern.render way) → Trie.literalKey text = text) →
        ∃ i, r.matchPath (Pattern.render way) = .ok ⟨i, .empty⟩) ∧
      ('%' ∉ pattern.toList → ∃ i, r.matchPath (Pattern.render way) = .ok ⟨i, .empty⟩) := by
  intro way hway
  have hlabels := map_label_steps h.grammatical hsymbol hstar hway
  refine ⟨h.exists_matchPath hway hlabels, fun hpercent => ?_⟩
  apply h.exists_matchPath hway hlabels
  intro text htext
  have hno := not_mem_literal h.grammatical hway hpercent htext
  rw [Trie.literalKey, Percent.decode?_of_not_mem hno, Option.getD_some]

/-- The group of `/a.b(/é)` is taken, beside `/:x`. -/
theorem HasRegistered.matchPath_own_text_group :
    ∃ r : RouteTable Nat, r = RouteTable.empty.registerEach [("/a.b(/é)", 3), ("/:x", 4)] ∧
      r.HasRegistered "/a.b(/é)" ∧ ∃ i, r.matchPath "/a.b/é" = .ok ⟨i, .empty⟩ := by
  have hfirst : RouteTable.empty.register "/a.b(/é)" 3 =
      .ok (RouteTable.empty.registerEach [("/a.b(/é)", 3)]) := by cbv
  have hleads : (RouteTable.empty.registerEach [("/a.b(/é)", 3)]).LeadsTo
      (RouteTable.empty.registerEach [("/a.b(/é)", 3), ("/:x", 4)]) :=
    LeadsTo.refl.registerEach [("/:x", 4)]
  have h : (RouteTable.empty.registerEach [("/a.b(/é)", 3), ("/:x", 4)]).HasRegistered
      "/a.b(/é)" := ⟨_, _, 3, .empty, hfirst, hleads⟩
  have hscan : Pattern.scan "/a.b(/é)" =
      [.slash, .literal "a.b", .openParen, .slash, .literal "é", .closeParen] := by cbv
  have hway : [.slash, .literal "a.b", .slash, .literal "é"] ∈
      choices (Pattern.scan "/a.b(/é)") := by
    rw [hscan]
    decide
  have hown := h.matchPath_own_text (by rw [hscan]; simp) (by rw [hscan]; simp) _ hway
  exact ⟨_, rfl, h, hown.2 (by decide)⟩

/-- **A pattern with an escape misses its own text.**  The edge of `/a%20b` is taken by its
name as it is written, and the path looks for the decoded one. -/
theorem own_text_missed :
    ¬ ∀ (r : RouteTable Nat) (pattern : String), r.HasRegistered pattern →
      (∀ name, .symbol name ∉ Pattern.scan pattern) →
      (∀ name, .star name ∉ Pattern.scan pattern) →
      ∀ way ∈ choices (Pattern.scan pattern),
        ∃ i, r.matchPath (Pattern.render way) = .ok ⟨i, .empty⟩ := by
  intro hall
  have hscan : Pattern.scan "/a%20b" = [.slash, .literal "a%20b"] := by cbv
  have hreg : RouteTable.empty.register "/a%20b" 3 =
      .ok (RouteTable.empty.registerEach [("/a%20b", 3)]) := by cbv
  have hmissed : (RouteTable.empty.registerEach [("/a%20b", 3)]).matchPath "/a%20b" =
      .error (.noLiteralEdge "a%20b") := by cbv
  obtain ⟨i, hi⟩ := hall _ "/a%20b" ⟨_, _, 3, .empty, hreg, .refl⟩ (by rw [hscan]; simp)
    (by rw [hscan]; simp) [.slash, .literal "a%20b"] (by rw [hscan]; decide)
  cases hmissed.symm.trans hi

end RouteTable
end LinkRouting
