import LinkRouting.Pattern.Filling
import LinkRouting.Proofs.RouteTable.OwnText

/-! # Where patterns and paths are cut

A pattern is cut otherwise than a path: a `.` may stand inside its literals, and a parenthesis is a
token of its own.  Still the text of each choice, with a text in place of each placeholder, is cut
into one token for each edge on the way to the end that was laid for it
(`register_scan_render_fill`).  A literal's edges are those of the path that it is itself, and a
text in place of a placeholder has separators or nothing beside it, since what may follow text in
the grammar begins with a separator, in a group too (`Grammatical.spellable`).
-/
namespace LinkRouting

namespace Taken
variable {ls : List Label} {texts : List String} {tokens : List Path.Token}

theorem append_exact (h : Taken ls texts tokens) (own : List Path.Token) :
    Taken (own.map Label.exact ++ ls) texts (own ++ tokens) := by
  induction own with
  | nil => exact h
  | cons token own ih => exact ih.exact token

/-- What is taken has separators where the labels have them. -/
theorem map_isSeparator (h : Taken ls texts tokens) :
    tokens.map Path.Token.isSeparator = ls.map Label.isSeparator := by
  induction h with
  | nil => rfl
  | exact token _ ih => exact congrArg (token.isSeparator :: ·) ih
  | parameter text _ ih => exact congrArg (false :: ·) ih

end Taken

namespace Pattern
variable {t : Token} {ts way : List Token} {texts : List String}

theorem fill_cons_of_own (ht : t.isPlaceholder = false) :
    fill (t :: ts) texts = t :: fill ts texts := by
  rw [fill]
  simp [ht]

theorem fill_cons_of_placeholder (ht : t.isPlaceholder = true) (text : String) :
    fill (t :: ts) (text :: texts) = .literal text :: fill ts texts := by
  rw [fill]
  exact ht

/-- A placeholder takes whatever literal there is. -/
theorem map_label_steps_of_placeholder (ht : t.isPlaceholder = true) :
    t.steps.map Step.label = [.parameter] := by
  cases t with
  | symbol name | star name => rfl
  | slash | dot | openParen | closeParen | literal text => cases ht

/-- Any other token of a choice stands for itself. -/
theorem stands_of_not_placeholder (ht : t.isPlaceholder = false)
    (hparen : t ≠ .openParen ∧ t ≠ .closeParen) :
    t = .slash ∨ t = .dot ∨ ∃ text, t = .literal text := by
  cases t with
  | slash => exact .inl rfl
  | dot => exact .inr (.inl rfl)
  | literal text => exact .inr (.inr ⟨text, rfl⟩)
  | openParen => exact absurd rfl hparen.1
  | closeParen => exact absurd rfl hparen.2
  | symbol name | star name => cases ht

/-- **What is filled is a path with one token for each label.** -/
theorem exists_taken (hparen : ∀ t ∈ way, t ≠ .openParen ∧ t ≠ .closeParen)
    (hlength : texts.length = way.countP Token.isPlaceholder)
    (htexts : ∀ text ∈ texts, Path.IsLiteralText text) :
    ∃ tokens, Taken ((steps way).map Step.label) texts tokens ∧
      Path.render tokens = render (fill way texts) ∧
      ∀ text, .literal text ∈ tokens → Path.IsLiteralText text := by
  induction way generalizing texts with
  | nil =>
    obtain rfl := List.length_eq_zero_iff.mp hlength
    exact ⟨[], .nil, rfl, nofun⟩
  | cons t way ih =>
    have hparens := fun u hu => hparen u (List.mem_cons_of_mem t hu)
    cases ht : t.isPlaceholder with
    | true =>
      -- The token takes the first of the texts.
      rw [List.countP_cons_of_pos ht] at hlength
      obtain ⟨text, texts, rfl⟩ := List.exists_cons_of_length_eq_add_one hlength
      obtain ⟨tokens, htaken, hrender, hown⟩ := ih hparens (Nat.succ.inj hlength)
        fun other hmem => htexts other (List.mem_cons_of_mem _ hmem)
      refine ⟨.literal text :: tokens, ?_, ?_, fun other hmem => ?_⟩
      · rw [steps_cons, List.map_append, map_label_steps_of_placeholder ht]
        exact htaken.parameter text
      · rw [fill_cons_of_placeholder ht, render_cons, ← hrender]
        exact String.join_cons
      · rcases List.mem_cons.mp hmem with heq | hmem
        · exact Path.Token.literal.inj heq ▸ htexts text List.mem_cons_self
        · exact hown other hmem
    | false =>
      rw [List.countP_cons_of_neg (Bool.eq_false_iff.mp ht)] at hlength
      obtain ⟨tokens, htaken, hrender, hown⟩ := ih hparens hlength htexts
      obtain ⟨own, hsteps, hownRender, hownTexts⟩ :=
        Token.exists_own_tokens (stands_of_not_placeholder ht (hparen t List.mem_cons_self))
      refine ⟨own ++ tokens, ?_, ?_, fun text hmem => ?_⟩
      · rw [steps_cons, hsteps, List.map_append, List.map_map]
        exact htaken.append_exact own
      · rw [fill_cons_of_own ht, render_cons, Path.render_append, hownRender, hrender]
      · exact (List.mem_append.mp hmem).elim (hownTexts text) (hown text)

end Pattern

namespace RouteTable
open Pattern (choices steps fill Token.isPlaceholder)

variable {ι : Type} {r r' : RouteTable ι} {pattern : String} {i : ι}

/-- **Patterns and paths are cut at the same places.**  Whatever groups of a pattern are taken, and
whatever is put in place of its placeholders, the text that comes of it is cut into one token for
each edge on the way to the end that was laid for this choice: the token of an exact edge, and the
whole text for a parameter edge. -/
theorem register_scan_render_fill (hr : r.Reachable) (h : r.register pattern i = .ok r') :
    ∀ way ∈ choices (Pattern.scan pattern), ∀ texts : List String,
      texts.length = way.countP Token.isPlaceholder →
      (∀ text ∈ texts, Path.IsLiteralText text) →
      ∃ v, r'.trie.follow? Trie.root ((steps way).map Step.label) = some v ∧
        (r'.trie.vertex v).isTerminal = true ∧
        ∀ ls, r'.trie.follow? Trie.root ls = some v →
          Taken ls texts (Path.scan (Pattern.render (fill way texts))) := by
  intro way hway texts hlength htexts
  obtain ⟨hgram, hwf, -⟩ := register_gains hr.wellFormed h
  have hroute : (steps way).map Step.label ∈ Pattern.routes (Pattern.scan pattern) :=
    List.mem_map_of_mem hway
  have hend := ((register_adds hr h).isEnd_iff _).mpr (.inr hroute)
  obtain ⟨v, hv⟩ := Option.isSome_iff_exists.mp (Trie.hasVertex_of_isEnd hend)
  rw [Trie.routeAt?_of_follow? hv] at hend
  refine ⟨v, hv, hend, fun ls hls => ?_⟩
  obtain rfl := hwf.labels_unique hls hv
  obtain ⟨tokens, htaken, hrender, hown⟩ :=
    Pattern.exists_taken (Pattern.ne_paren_of_mem_choices hgram.balanced hway) hlength htexts
  have hcanonical : Path.Canonical tokens :=
    Path.canonical_iff.mpr ⟨htaken.map_isSeparator ▸ (hgram.spellable hroute).spaced, hown⟩
  rwa [← hrender, Path.scan_render hcanonical]

/-- Both groups of `/a.b(.:x)(/*y)` are taken, and an escaped `/` is not a separator. -/
theorem register_scan_render_fill_groups :
    ∃ r : RouteTable Nat, RouteTable.empty.register "/a.b(.:x)(/*y)" 3 = .ok r ∧
      ∃ ls v, ls = [.exact .slash, .exact (.literal "a"), .exact .dot, .exact (.literal "b"),
          .exact .dot, .parameter, .exact .slash, .parameter] ∧
        r.trie.follow? Trie.root ls = some v ∧ (r.trie.vertex v).isTerminal = true ∧
        Taken ls ["q", "%2F é"] (Path.scan "/a.b.q/%2F é") := by
  have h : RouteTable.empty.register "/a.b(.:x)(/*y)" 3 =
      .ok (RouteTable.empty.registerEach [("/a.b(.:x)(/*y)", 3)]) := by cbv
  have hscan : Pattern.scan "/a.b(.:x)(/*y)" =
      [.slash, .literal "a.b", .openParen, .dot, .symbol "x", .closeParen, .openParen, .slash,
        .star "y", .closeParen] := by cbv
  have hway : [.slash, .literal "a.b", .dot, .symbol "x", .slash, .star "y"] ∈
      choices (Pattern.scan "/a.b(.:x)(/*y)") := by
    rw [hscan]
    decide
  have hlabels : (steps [.slash, .literal "a.b", .dot, .symbol "x", .slash, .star "y"]).map
      Step.label = [.exact .slash, .exact (.literal "a"), .exact .dot, .exact (.literal "b"),
        .exact .dot, .parameter, .exact .slash, .parameter] := by cbv
  have hrender : Pattern.render (fill [.slash, .literal "a.b", .dot, .symbol "x", .slash,
      .star "y"] ["q", "%2F é"]) = "/a.b.q/%2F é" := by cbv
  obtain ⟨v, hv, hend, htaken⟩ :=
    register_scan_render_fill .empty h _ hway ["q", "%2F é"] rfl (by decide)
  exact ⟨_, h, _, v, hlabels, hv, hend, hrender ▸ htaken _ hv⟩

end RouteTable
end LinkRouting
