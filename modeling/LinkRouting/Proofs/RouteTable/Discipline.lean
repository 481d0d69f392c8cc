import LinkRouting.Proofs.Pattern.Scan
import LinkRouting.Proofs.RouteTable.Spelling
import LinkRouting.Proofs.Trie.Extension

/-! # The labels of a routing trie

Whatever patterns are registered, the labels on the way to a vertex keep a discipline
(`Reachable.disciplined`): they begin with `/`, no two of them that take text stand side
by side, and a literal among them holds no character at which a pattern or a path is
cut.  The first two come from the grammar and the last from the two scanners, which cut
a pattern at `/`, `(`, `)` and `*` and then its literals at `/` and `.`.

A literal of a path is decoded only after the path was cut.  If a `/` or a `.` comes out
of its escapes, then there is no exact edge for it anywhere in the trie, and it stays one
token: a parameter takes it whole, or the path is not matched
(`label_discipline`).
-/
namespace LinkRouting

/-- A text that the exact edge of a literal can have. -/
def IsEdgeText (text : String) : Prop :=
  text ≠ "" ∧ ∀ c ∈ text.toList, c ∉ ['/', '.', '(', ')', '*']

/-- **Labels that keep the discipline** of those on the way to a vertex. -/
structure Disciplined (ls : List Label) : Prop extends Spellable ls where
  head : ∀ l ∈ ls.head?, l = .exact .slash
  literal : ∀ text, .exact (.literal text) ∈ ls → IsEdgeText text

namespace Disciplined
variable {ls ms : List Label}

theorem nil : Disciplined [] :=
  ⟨Spellable.behind_nil.toSpellable, nofun, nofun⟩

theorem of_isPrefix (h : Disciplined ms) (hp : ls <+: ms) : Disciplined ls := by
  refine ⟨h.toSpellable.of_isPrefix hp, fun l hl => ?_,
    fun text hmem => h.literal text (hp.subset hmem)⟩
  obtain ⟨rest, rfl⟩ := hp
  exact h.head l (by rw [List.head?_append, Option.mem_def.mp hl]; rfl)

/-- The last of the labels and the one before it do not both take text. -/
theorem separator_or {l m : Label} (h : Disciplined (ls ++ [l, m])) :
    l.isSeparator = true ∨ m.isSeparator = true := by
  have hspaced := h.spaced
  rw [List.map_append, Path.Spaced, List.isChain_append] at hspaced
  exact (List.isChain_cons_cons.mp hspaced.2.1).1

end Disciplined

namespace Pattern

/-- What the text of a literal is cut into has texts without a boundary. -/
theorem isEdgeText_of_mem_scan {text piece : String} (htext : IsName text.toList)
    (h : .literal piece ∈ Path.scan text) : IsEdgeText piece := by
  obtain ⟨hne, hslash, hdot⟩ := (Path.canonical_iff.mp (Path.canonical_scan text)).2 piece h
  constructor
  · intro hempty
    exact hne (by rw [hempty]; rfl)
  · intro c hc
    have hmem : c ∈ text.toList := by
      rw [← Path.render_scan text, Path.toList_render]
      exact List.mem_flatMap.mpr ⟨_, h, hc⟩
    obtain ⟨-, hopen, hclose, hstar⟩ := htext c hmem
    have hslash' : c ≠ '/' := fun he => hslash (he ▸ hc)
    have hdot' : c ≠ '.' := fun he => hdot (he ▸ hc)
    simp [hslash', hdot', hopen, hclose, hstar]

/-- **The literals of a pattern's routes hold nothing at which text is cut.** -/
theorem isEdgeText_of_mem_routes {pattern text : String} {ls : List Label}
    (h : Balanced (scan pattern)) (hls : ls ∈ routes (scan pattern))
    (hmem : .exact (.literal text) ∈ ls) : IsEdgeText text := by
  obtain ⟨way, hway, rfl⟩ := List.mem_map.mp hls
  obtain ⟨s, hs, hlabel⟩ := List.mem_map.mp hmem
  obtain ⟨t, ht, hst⟩ := List.mem_flatMap.mp hs
  have hwritten := isWritten_of_mem_scan ((sublist_of_mem_choices h hway).subset ht)
  cases t with
  | slash | dot =>
    obtain rfl := List.mem_singleton.mp hst
    cases hlabel
  | symbol name | star name =>
    obtain rfl := List.mem_singleton.mp hst
    cases hlabel
  | openParen | closeParen => cases hst
  | literal whole =>
    obtain ⟨token, htoken, rfl⟩ := List.mem_map.mp hst
    obtain rfl := Label.exact.inj hlabel
    exact isEdgeText_of_mem_scan hwritten.isName htoken

end Pattern

namespace Trie
variable {ι : Type}

/-- A literal edge or the parameter edge of the first vertex leads to the second. -/
def EntersByText (t : Trie ι) (v w : Nat) : Prop :=
  (∃ text, (.literal text, w) ∈ (t.vertex v).exact) ∨
    ∃ e, (t.vertex v).parameter = some e ∧ e.target = w

/-- **The label discipline of a trie.** -/
structure HasDiscipline (t : Trie ι) : Prop where
  root_isTerminal : (t.vertex root).isTerminal = false
  root_parameter : (t.vertex root).parameter = none
  root_exact : ∀ e ∈ (t.vertex root).exact, e.1 = .slash
  literal : ∀ v text w, (.literal text, w) ∈ (t.vertex v).exact → IsEdgeText text
  after_text : ∀ v w, t.EntersByText v w →
    (t.vertex w).parameter = none ∧ ∀ text x, (.literal text, x) ∉ (t.vertex w).exact

/-- **A literal of a path is captured whole**: the tokens before it lead to a vertex whose
parameter edge takes it, and what it binds is among what the rest of the path goes on
with. -/
def CapturesWhole (t : Trie ι) (decode : Bool) (before : List Path.Token) (text : String)
    (after : List Path.Token) (b : Bindings) : Prop :=
  ∃ v c e w, t.walk decode root .empty before = .ok (v, c) ∧ t.parameter? v = some e ∧
    t.walk decode e.target (c.set e.name (captureValue decode text)) after = .ok (w, b)

end Trie

/-- A `/` or a `.` comes out of the escapes of a text. -/
def HidesSeparator (text : String) : Prop :=
  ∃ decoded, Percent.decode? text = some decoded ∧
    ('/' ∈ decoded.toList ∨ '.' ∈ decoded.toList)

theorem HidesSeparator.not_isEdgeText {text : String} (h : HidesSeparator text) :
    ¬ IsEdgeText (Trie.literalKey text) := by
  obtain ⟨decoded, hdecoded, hmem⟩ := h
  rw [Trie.literalKey, hdecoded, Option.getD_some]
  rintro ⟨-, hkept⟩
  rcases hmem with hmem | hmem
  · exact hkept _ hmem (by decide)
  · exact hkept _ hmem (by decide)

namespace RouteTable
variable {ι : Type} {r : RouteTable ι} {path : String}

/-- The labels on the way to a vertex keep the discipline. -/
theorem Reachable.disciplined (hr : r.Reachable) {ls : List Label} (h : r.trie.HasVertex ls) :
    Disciplined ls := by
  induction hr generalizing ls with
  | empty =>
    rw [(Trie.hasVertex_empty ls).mp h]
    exact .nil
  | @register r r' pattern i hr hreg ih =>
    rcases (hasVertex_register hr.wellFormed hreg ls).mp h with hold | ⟨route, hroute, hp⟩
    · exact ih hold
    · obtain ⟨hgram, -⟩ := register_gains hr.wellFormed hreg
      refine Disciplined.of_isPrefix ⟨hgram.spellable hroute, fun l hl => ?_,
        fun text => Pattern.isEdgeText_of_mem_routes hgram.balanced hroute⟩ hp
      obtain ⟨rest, rfl⟩ := hgram.slash_prefix hroute
      exact (Option.some.inj hl).symm
  | withDecoding _ _ ih => exact ih h

/-- From the root, all edges are for `/`. -/
theorem Reachable.label_eq_slash (hr : r.Reachable) {l : Label} {w : Nat}
    (h : r.trie.child? Trie.root l = some w) : l = .exact .slash := by
  have hvertex : r.trie.HasVertex ([] ++ [l]) := by
    rw [Trie.hasVertex_concat_iff (Trie.follow?_nil _ _), h]
    rfl
  exact (hr.disciplined hvertex).head l rfl

/-- The labels on the way to an edge, with its own, keep the discipline. -/
theorem Reachable.exists_disciplined (hr : r.Reachable) {v w : Nat} {l : Label}
    (h : r.trie.child? v l = some w) :
    ∃ ls, r.trie.follow? Trie.root ls = some v ∧ Disciplined (ls ++ [l]) := by
  have hv : v < r.trie.size := by
    obtain ⟨hlt, hsize⟩ := hr.wellFormed.later h
    omega
  obtain ⟨ls, hls⟩ := hr.wellFormed.exists_follow? hv
  refine ⟨ls, hls, hr.disciplined ?_⟩
  rw [Trie.hasVertex_concat_iff hls, h]
  rfl

/-- The text of a literal edge holds nothing at which text is cut. -/
theorem Reachable.isEdgeText (hr : r.Reachable) {v w : Nat} {text : String}
    (h : r.trie.child? v (.exact (.literal text)) = some w) : IsEdgeText text := by
  obtain ⟨ls, -, hls⟩ := hr.exists_disciplined h
  exact hls.literal text List.mem_concat_self

/-- Of two edges, one behind the other, one is for a separator. -/
theorem Reachable.separator_or (hr : r.Reachable) {v w x : Nat} {l m : Label}
    (hw : r.trie.child? v l = some w) (hx : r.trie.child? w m = some x) :
    l.isSeparator = true ∨ m.isSeparator = true := by
  obtain ⟨ls, hls, -⟩ := hr.exists_disciplined hw
  have hvertex : r.trie.HasVertex (ls ++ [l, m]) := by
    apply Trie.hasVertex_of_follow? (v := x)
    rw [Trie.follow?_append, hls, Option.bind_some, Trie.follow?, hw, Option.bind_some,
      Trie.follow?, hx]
    rfl
  exact (hr.disciplined hvertex).separator_or

theorem Reachable.hasDiscipline (hr : r.Reachable) : r.trie.HasDiscipline := by
  have hexact : ∀ {v token w}, (token, w) ∈ (r.trie.vertex v).exact →
      r.trie.child? v (.exact token) = some w := by
    intro v token w he
    exact (hr.wellFormed.sorted v).mem_iff_lookup.mp he
  have hparameter : ∀ {v e}, (r.trie.vertex v).parameter = some e →
      r.trie.child? v .parameter = some e.target := by
    intro v e he
    rw [Trie.child?, Trie.parameter?, he, Option.map_some]
  constructor
  case root_isTerminal =>
    rw [Vertex.isTerminal, hr.identifier_root]
    rfl
  case root_parameter =>
    cases he : (r.trie.vertex Trie.root).parameter with
    | none => rfl
    | some e => exact absurd (hr.label_eq_slash (hparameter he)) (by simp)
  case root_exact =>
    intro e he
    exact Label.exact.inj (hr.label_eq_slash (hexact he))
  case literal =>
    intro v text w he
    exact hr.isEdgeText (hexact he)
  case after_text =>
    -- The edge that leads in takes text, so none that leads on does.
    intro v w hvw
    obtain ⟨l, hl, hvw⟩ : ∃ l : Label, l.isSeparator = false ∧ r.trie.child? v l = some w := by
      rcases hvw with ⟨text, he⟩ | ⟨e, he, rfl⟩
      · exact ⟨_, rfl, hexact he⟩
      · exact ⟨_, rfl, hparameter he⟩
    have hnext : ∀ {m x}, r.trie.child? w m = some x → m.isSeparator = true := by
      intro m x hx
      exact (hr.separator_or hvw hx).resolve_left (by simp [hl])
    constructor
    · cases he : (r.trie.vertex w).parameter with
      | none => rfl
      | some e => exact absurd (hnext (hparameter he)) (by simp [Label.isSeparator])
    · intro text x he
      exact absurd (hnext (hexact he)) (by simp [Label.isSeparator, Path.Token.isSeparator])

/-! ### What the discipline means for paths -/

/-- No edge is for a literal in which a separator is hidden. -/
theorem Reachable.next?_eq_none (hr : r.Reachable) {text : String} (h : HidesSeparator text)
    (v : Nat) : r.trie.next? v (.literal (Trie.literalKey text)) = none := by
  cases hnext : r.trie.next? v (.literal (Trie.literalKey text)) with
  | none => rfl
  | some w => exact absurd (hr.isEdgeText (v := v) hnext) h.not_isEdgeText

/-- The walk captures such a literal whole, or ends without a match. -/
theorem Reachable.capturesWhole (hr : r.Reachable) {before after : List Path.Token}
    {text : String} (hscan : Path.scan path = before ++ .literal text :: after)
    (h : HidesSeparator text) {m : Match ι} (hm : r.matchPath path = .ok m) :
    r.trie.CapturesWhole r.decodeParameters before text after m.parameters := by
  obtain ⟨i, b⟩ := m
  obtain ⟨-, w, hwalk, -⟩ := matchPath_eq_ok_iff.mp hm
  rw [hscan, Trie.walk_append] at hwalk
  obtain ⟨⟨v, c⟩, hbefore, hrest⟩ := bind_eq_ok.mp hwalk
  rw [Trie.walk] at hrest
  split at hrest
  · next x d hstep =>
    rcases Trie.step_eq_ok hstep with ⟨-, hsep, -⟩ | ⟨text', htext, hstep⟩
    · cases hsep
    · obtain rfl := Path.Token.literal.inj htext
      rcases hstep with ⟨hnext, -⟩ | ⟨e, he, rfl, rfl⟩
      · rw [hr.next?_eq_none h] at hnext
        cases hnext
      · exact ⟨v, c, e, w, hbefore, he, hrest⟩
  · cases hrest

/-- A path that is matched begins with `/`. -/
theorem Reachable.head?_eq_slash (hr : r.Reachable) {m : Match ι} (hm : r.matchPath path = .ok m) :
    path.toList.head? = some '/' := by
  obtain ⟨i, b⟩ := m
  obtain ⟨hpath, v, hwalk, -⟩ := matchPath_eq_ok_iff.mp hm
  cases hscan : Path.scan path with
  | nil => exact absurd ((Path.scan_eq_nil_iff path).mp hscan) hpath
  | cons token tokens =>
    rw [hscan, Trie.walk] at hwalk
    split at hwalk
    · next x d hstep =>
      -- The first token is taken along an edge of the root.
      have hchild := Trie.toOption_step (t := r.trie) r.decodeParameters Trie.root .empty token
      rw [hstep] at hchild
      have hlabel := hr.label_eq_slash hchild.symm
      obtain rfl : token = .slash := by
        cases token with
        | slash => rfl
        | dot => cases hlabel
        | literal text =>
          rw [Trie.labelAt] at hlabel
          split at hlabel
          · cases hlabel
          · cases hlabel
      rw [← Path.render_scan path, Path.toList_render, hscan]
      rfl
    · cases hwalk

/-- **The label discipline, and what it means for paths.**  In every table that
registrations lead to, no route ends at the root, whose only edge is for `/`; the text of
a literal edge is not empty and holds none of `/`, `.`, `(`, `)` and `*`; and behind a
literal edge or a parameter edge there is neither.  So a literal of a path with a `/` or a
`.` among its escapes has no exact edge anywhere: either the path is not matched, or a
parameter has taken the literal whole.  And no path is matched that does not begin with
`/`. -/
theorem label_discipline (hr : r.Reachable) :
    r.trie.HasDiscipline ∧
    (∀ path before text after, Path.scan path = before ++ .literal text :: after →
      HidesSeparator text →
        (∀ v, r.trie.next? v (.literal (Trie.literalKey text)) = none) ∧
        ((∃ miss, r.matchPath path = .error miss) ∨
          ∃ m, r.matchPath path = .ok m ∧
            r.trie.CapturesWhole r.decodeParameters before text after m.parameters)) ∧
    ∀ path, path.toList.head? ≠ some '/' → ∃ miss, r.matchPath path = .error miss := by
  refine ⟨hr.hasDiscipline, ?_, ?_⟩
  · intro path before text after hscan hhides
    refine ⟨hr.next?_eq_none hhides, ?_⟩
    cases hm : r.matchPath path with
    | error miss => exact .inl ⟨miss, rfl⟩
    | ok m => exact .inr ⟨m, rfl, hr.capturesWhole hscan hhides hm⟩
  · intro path hhead
    cases hm : r.matchPath path with
    | error miss => exact ⟨miss, rfl⟩
    | ok m => exact absurd (hr.head?_eq_slash hm) hhead

/-- Beside `/docs/a/b`, the route `/docs/:name` takes `/docs/a%2Fb`, and captures `a/b`. -/
theorem label_discipline_escaped :
    ∃ r : RouteTable Nat,
      r = RouteTable.empty.registerEach [("/docs/a/b", 3), ("/docs/:name", 4)] ∧
      r.trie.HasDiscipline ∧
      HidesSeparator "a%2Fb" ∧
      r.matchPath "/docs/a%2Fb" = .ok ⟨4, ⟨[("name", "a/b")]⟩⟩ ∧
      r.trie.CapturesWhole true [.slash, .literal "docs", .slash] "a%2Fb" [] ⟨[("name", "a/b")]⟩ ∧
      "docs/a".toList.head? ≠ some '/' ∧ ∃ miss, r.matchPath "docs/a" = .error miss := by
  obtain ⟨hdiscipline, hcaptured, hslash⟩ := label_discipline (ι := Nat)
    (Reachable.empty.registerEach [("/docs/a/b", 3), ("/docs/:name", 4)])
  have hhides : HidesSeparator "a%2Fb" := ⟨"a/b", by cbv, by decide⟩
  have hscan : Path.scan "/docs/a%2Fb" = [.slash, .literal "docs", .slash] ++ [.literal "a%2Fb"] := by
    cbv
  have hmatch : (RouteTable.empty.registerEach
      [("/docs/a/b", 3), ("/docs/:name", 4)]).matchPath "/docs/a%2Fb" =
        .ok ⟨4, ⟨[("name", "a/b")]⟩⟩ := by cbv
  have hdocs : "docs/a".toList.head? ≠ some '/' := by decide
  refine ⟨_, rfl, hdiscipline, hhides, hmatch, ?_, hdocs, hslash _ hdocs⟩
  obtain ⟨-, ⟨miss, hmiss⟩ | ⟨m, hm, hwhole⟩⟩ := hcaptured _ _ _ _ hscan hhides
  · rw [hmatch] at hmiss
    cases hmiss
  · rw [hmatch] at hm
    cases hm
    have hdecode : (RouteTable.empty.registerEach
        [("/docs/a/b", 3), ("/docs/:name", 4)]).decodeParameters = true := by cbv
    rwa [hdecode] at hwhole

end RouteTable
end LinkRouting
