import LinkRouting.Proofs.Pattern.Check
import LinkRouting.Proofs.Pattern.Rules
import LinkRouting.Proofs.RouteTable.Registration
import LinkRouting.Proofs.Trie.Walk

/-! # A glob is a symbol

A glob takes one literal, as a symbol does.  A pattern whose globs are written as symbols
(`globsAsSymbols`) is cut at the same places (`scan_globsAsSymbols`): in a pattern that is
accepted a glob comes right after `/`, so there is no fragment before it, which a `*` would
end and a `:` would not.  The plan is the same one too (`Grammatical.ofTokens_map`), since
nothing follows a glob in its part of the pattern, and where nothing follows a symbol a route
ends as it does behind a glob.  So the two patterns are laid as one trie, in which every step
takes one token of a path (`RouteTable.register_globsAsSymbols`).
-/
namespace LinkRouting
namespace Pattern

/-- The symbol of the same name for a glob, and every other token itself. -/
def Token.globAsSymbol : Token → Token
  | .star name => .symbol name
  | t => t

/-- A pattern with each glob written as a symbol. -/
def globsAsSymbols (pattern : String) : String :=
  render ((scan pattern).map Token.globAsSymbol)

/-! ## The text -/

namespace Token
variable {t : Token}

theorem isWritten_globAsSymbol : t.globAsSymbol.IsWritten ↔ t.IsWritten := by
  cases t <;> rfl

theorem isFragment_globAsSymbol : t.globAsSymbol.isFragment = t.isFragment := by
  cases t <;> rfl

theorem endsFragment_globAsSymbol (h : ∀ name, t ≠ .star name) :
    t.globAsSymbol.endsFragment = t.endsFragment := by
  cases t with
  | star name => exact absurd rfl (h name)
  | slash | dot | openParen | closeParen | literal text | symbol name => rfl

/-- Only the `*` of a glob is written in another way. -/
theorem toList_text_globAsSymbol (h : t.IsWritten) :
    t.globAsSymbol.text.toList = t.text.toList.map fun c => if c = '*' then ':' else c := by
  have hname : ∀ {cs : List Char}, IsName cs →
      (cs.map fun c => if c = '*' then ':' else c) = cs := fun hcs =>
    (List.map_congr_left fun c hc => if_neg (hcs c hc).2.2.2).trans (List.map_id _)
  cases t with
  | slash | dot | openParen | closeParen => rfl
  | literal text => exact (hname h.isName).symm
  | symbol name | star name =>
    simp only [globAsSymbol, text, String.toList_append, List.map_append, hname h]
    rfl

end Token

/-- The text differs in the `*` of the globs, which become `:`. -/
theorem toList_globsAsSymbols (pattern : String) :
    (globsAsSymbols pattern).toList =
      pattern.toList.map fun c => if c = '*' then ':' else c := by
  conv_rhs => rw [← render_scan pattern]
  rw [globsAsSymbols, toList_render, toList_render, List.flatMap_map, List.map_flatMap]
  exact List.flatMap_congr fun t ht => Token.toList_text_globAsSymbol (isWritten_of_mem_scan ht)

/-- The tokens are still those of a pattern, since no fragment comes before a glob. -/
theorem Canonical.map_globAsSymbol {ts : List Token} (h : Canonical ts) (hrules : KeepsRules ts) :
    Canonical (ts.map Token.globAsSymbol) := by
  obtain ⟨hwritten, hchain⟩ := canonical_iff.mp h
  rw [List.isChain_iff_forall_rel_of_append_cons_cons] at hchain
  refine canonical_iff.mpr ⟨?_, ?_⟩
  · intro u hu
    obtain ⟨t, ht, rfl⟩ := List.mem_map.mp hu
    exact Token.isWritten_globAsSymbol.mpr (hwritten t ht)
  · rw [List.isChain_map, List.isChain_iff_forall_rel_of_append_cons_cons]
    intro t u before after hts hfragment
    rw [Token.isFragment_globAsSymbol] at hfragment
    -- A symbol ends no fragment as the glob did, but before it comes a `/`.
    rw [Token.endsFragment_globAsSymbol]
    · exact hchain hts hfragment
    · rintro name rfl
      have hslash := hrules.star (before ++ [t]) name ⟨after, by rw [hts]; simp⟩
      rw [List.getLast?_concat] at hslash
      obtain rfl := Option.some.inj hslash
      cases hfragment

theorem KeepsRules.of_check {ts : List Token} (h : check ts = .ok ()) : KeepsRules ts := by
  obtain ⟨a, hverdict⟩ := exists_verdict ts
  obtain rfl := h.symm.trans hverdict.check_eq
  cases hverdict with
  | ok hrules => exact hrules

/-- **The pattern is cut at the same places** when its globs are written as symbols. -/
theorem scan_globsAsSymbols {pattern : String} (h : check (scan pattern) = .ok ()) :
    scan (globsAsSymbols pattern) = (scan pattern).map Token.globAsSymbol :=
  scan_render ((canonical_scan pattern).map_globAsSymbol (.of_check h))

/-! ## The plan -/

theorem Balanced.map_globAsSymbol {ts : List Token} (h : Balanced ts) :
    Balanced (ts.map Token.globAsSymbol) := by
  induction h with
  | nil => exact .nil
  | @cons t ts ho hc _ ih =>
    cases t with
    | openParen => exact absurd rfl ho
    | closeParen => exact absurd rfl hc
    | slash | dot | literal text | symbol name | star name =>
      exact .cons (by simp [Token.globAsSymbol]) (by simp [Token.globAsSymbol]) ih
  | group _ _ ihi iha =>
    rw [List.map_append, List.map_cons, List.map_cons]
    exact .group ihi iha

mutual

theorem Grammar.Tail.afterSlash_map {ts : List Token} (trail trail' : List Token) :
    Grammar.Tail ts → afterSlash trail' (ts.map Token.globAsSymbol) = afterSlash trail ts
  | .nil => by rw [List.map_nil, afterSlash, afterSlash]
  | .literal h => by
    simp only [List.map_cons, Token.globAsSymbol]
    rw [afterSlash, afterSlash, h.afterSegment_map]
  | .symbol h => by
    simp only [List.map_cons, Token.globAsSymbol]
    rw [afterSlash, afterSlash, h.afterSegment_map]
  | .star => by
    -- Nothing follows the glob, and the segment of a symbol may end there too.
    rw [List.map_singleton, Token.globAsSymbol, afterSlash, afterSlash, afterSegment]
    rfl
  | .groups h => by
    obtain ⟨us, rfl, hus⟩ := h.inGroup_map
    simp only [List.map_cons, Token.globAsSymbol]
    rw [afterSlash, afterSlash, hus]

theorem Grammar.Rest.afterSegment_map {ts : List Token} (trail trail' : List Token) :
    Grammar.Rest ts → afterSegment trail' (ts.map Token.globAsSymbol) = afterSegment trail ts
  | .nil => by rw [List.map_nil, afterSegment, afterSegment]
  | .slash h => by
    simp only [List.map_cons, Token.globAsSymbol]
    rw [afterSegment, afterSegment, h.afterSlash_map]
  | .dot h => by
    simp only [List.map_cons, Token.globAsSymbol]
    rw [afterSegment, afterSegment, h.afterDot_map]
  | .groups h => by
    obtain ⟨us, rfl, hus⟩ := h.inGroup_map
    simp only [List.map_cons, Token.globAsSymbol]
    rw [afterSegment, afterSegment, hus]

theorem Grammar.DotTail.afterDot_map {ts : List Token} (trail trail' : List Token) :
    Grammar.DotTail ts → afterDot trail' (ts.map Token.globAsSymbol) = afterDot trail ts
  | .literal h => by
    simp only [List.map_cons, Token.globAsSymbol]
    rw [afterDot, afterDot, h.afterSegment_map]
  | .symbol h => by
    simp only [List.map_cons, Token.globAsSymbol]
    rw [afterDot, afterDot, h.afterSegment_map]

theorem Grammar.Groups.inGroup_map {ts : List Token} : Grammar.Groups ts →
    ∃ us, ts = .openParen :: us ∧ ∀ trail trail',
      inGroup trail' (us.map Token.globAsSymbol) = inGroup trail us
  | .last h => by
    refine ⟨_, List.cons_append, fun trail trail' => ?_⟩
    simp only [List.map_append, List.map_singleton, Token.globAsSymbol]
    rw [inGroup_of_balanced h.balanced.map_globAsSymbol, inGroup_of_balanced h.balanced,
      h.groupBody_map, afterGroup, afterGroup]
  | .cons h k => by
    obtain ⟨us, rfl, hus⟩ := k.inGroup_map
    refine ⟨_, List.cons_append, fun trail trail' => ?_⟩
    simp only [List.map_append, List.map_cons, Token.globAsSymbol]
    rw [inGroup_of_balanced h.balanced.map_globAsSymbol, inGroup_of_balanced h.balanced,
      h.groupBody_map, afterGroup, afterGroup, hus]

theorem Grammar.Body.groupBody_map {ts : List Token} (trail trail' : List Token) :
    Grammar.Body ts → groupBody trail' (ts.map Token.globAsSymbol) = groupBody trail ts
  | .nil => by rw [List.map_nil, groupBody, groupBody]
  | .slash h => by
    simp only [List.map_cons, Token.globAsSymbol]
    rw [groupBody, groupBody, h.afterSlash_map]
  | .dot h => by
    simp only [List.map_cons, Token.globAsSymbol]
    rw [groupBody, groupBody, h.afterDot_map]

end

/-- **The plan is the same** when the globs are written as symbols. -/
theorem Grammatical.ofTokens_map {ts : List Token} (h : Grammatical ts) :
    Plan.ofTokens (ts.map Token.globAsSymbol) = Plan.ofTokens ts := by
  cases h with
  | slash h =>
    simp only [List.map_cons, Token.globAsSymbol]
    rw [Plan.ofTokens, Plan.ofTokens, h.afterSlash_map]

end Pattern

/-! ## The table -/

/-- What is bound is the value of one literal among the tokens. -/
theorem Fits.exists_literal {decode : Bool} {steps : List Step} {tokens : List Path.Token}
    {bs : List (String × String)} (h : Fits decode steps tokens bs) {name value : String}
    (hmem : (name, value) ∈ bs) :
    ∃ text, .literal text ∈ tokens ∧ value = Trie.captureValue decode text := by
  induction h with
  | nil => cases hmem
  | separator _ _ ih | literal _ ih =>
    obtain ⟨text, htext, hvalue⟩ := ih hmem
    exact ⟨text, List.mem_cons_of_mem _ htext, hvalue⟩
  | capture _ ih =>
    rcases List.mem_cons.mp hmem with heq | hmem
    · cases heq
      exact ⟨_, List.mem_cons_self, rfl⟩
    · obtain ⟨text, htext, hvalue⟩ := ih hmem
      exact ⟨text, List.mem_cons_of_mem _ htext, hvalue⟩

namespace RouteTable
variable {ι : Type} {r r' : RouteTable ι} {pattern path : String} {i : ι} {m : Match ι}

/-- **A matched path takes a route step by step**, one token of the path for each step. -/
theorem exists_fits_of_matchPath (hm : r.matchPath path = .ok m) :
    ∃ v steps bs, r.trie.Leads Trie.root steps v ∧
      (r.trie.vertex v).identifier = some m.identifier ∧
      Fits r.decodeParameters steps (Path.scan path) bs ∧ m.parameters = .ofList bs := by
  obtain ⟨j, b⟩ := m
  obtain ⟨-, v, hwalk, hid⟩ := matchPath_eq_ok_iff.mp hm
  obtain ⟨steps, bs, hleads, hfits, hb⟩ := Trie.walk_eq_ok hwalk
  exact ⟨v, steps, bs, hleads, hid, hfits, hb⟩

/-- **A parameter is one literal of the path.** -/
theorem exists_literal_of_matchPath (hm : r.matchPath path = .ok m) {name value : String}
    (hvalue : m.parameters.get? name = some value) :
    ∃ text, .literal text ∈ Path.scan path ∧
      value = Trie.captureValue r.decodeParameters text := by
  obtain ⟨_, _, bs, -, -, hfits, hbs⟩ := exists_fits_of_matchPath hm
  rw [hbs, Bindings.get?_ofList] at hvalue
  obtain ⟨before, after, hsplit, -⟩ := List.lookup_eq_some_iff.mp hvalue
  have hmem : (name, value) ∈ bs.reverse :=
    hsplit ▸ List.mem_append_right before List.mem_cons_self
  exact hfits.exists_literal (List.mem_reverse.mp hmem)

/-- **A glob is a symbol.**  Where a pattern is accepted, so is the pattern with the `*` of
each glob as a `:`, which is cut at the same places, and both lead to the same table.  So the
two match the same paths with the same parameters.  In that table a path that is matched
takes a route with one token for each step, and no capture, a glob's or a symbol's, binds
more than one literal of the path. -/
theorem register_globsAsSymbols (hr : r.Reachable) (h : r.register pattern i = .ok r') :
    (Pattern.globsAsSymbols pattern).toList =
      pattern.toList.map (fun c => if c = '*' then ':' else c) ∧
    Pattern.scan (Pattern.globsAsSymbols pattern) =
      (Pattern.scan pattern).map Pattern.Token.globAsSymbol ∧
    r.register (Pattern.globsAsSymbols pattern) i = .ok r' ∧
    ∀ path m, r'.matchPath path = .ok m →
      (∃ v steps bs, r'.trie.Leads Trie.root steps v ∧
        (r'.trie.vertex v).identifier = some m.identifier ∧
        Fits r'.decodeParameters steps (Path.scan path) bs ∧ m.parameters = .ofList bs) ∧
      ∀ name value, m.parameters.get? name = some value → ∃ text,
        .literal text ∈ Path.scan path ∧ value = Trie.captureValue r'.decodeParameters text := by
  obtain ⟨hgram, -, -⟩ := register_gains hr.wellFormed h
  obtain ⟨hcheck, t, hlay, rfl⟩ := register_eq_ok h
  have hscan := Pattern.scan_globsAsSymbols hcheck
  refine ⟨Pattern.toList_globsAsSymbols pattern, hscan, ?_, fun _ _ hm =>
    ⟨exists_fits_of_matchPath hm, fun _ _ => exists_literal_of_matchPath hm⟩⟩
  -- The plan is the same, so it is a pattern of the grammar that has the symbols.
  have hplan := hgram.ofTokens_map
  have hgram' := (Pattern.faultless_ofTokens_iff _).mp (hplan ▸ hgram.isOf.faultless)
  simp only [register, hscan, hgram'.check_eq_ok, hplan, hlay]

/-- Globs in groups side by side and inside one another, one of them with a `:` in its name. -/
theorem register_globsAsSymbols_groups :
    ∃ r r' : RouteTable Nat, r = RouteTable.empty.registerEach [("/a", 1)] ∧
      r.register "/b(/*x)(/c(/*:y))" 7 = .ok r' ∧
      Pattern.globsAsSymbols "/b(/*x)(/c(/*:y))" = "/b(/:x)(/c(/::y))" ∧
      r.register "/b(/:x)(/c(/::y))" 7 = .ok r' ∧
      r'.matchPath "/b/1/c/2" = .ok ⟨7, ⟨[("x", "1"), (":y", "2")]⟩⟩ ∧
      (∃ v steps bs, r'.trie.Leads Trie.root steps v ∧
        (r'.trie.vertex v).identifier = some 7 ∧
        Fits r'.decodeParameters steps (Path.scan "/b/1/c/2") bs ∧
        ⟨[("x", "1"), (":y", "2")]⟩ = Bindings.ofList bs) ∧
      (∃ text, .literal text ∈ Path.scan "/b/1/c/2" ∧
        "1" = Trie.captureValue r'.decodeParameters text) ∧
      ∃ miss, r'.matchPath "/b/1/2" = .error miss := by
  have h : (RouteTable.empty.registerEach [("/a", 1)]).register "/b(/*x)(/c(/*:y))" 7 =
      .ok (RouteTable.empty.registerEach [("/a", 1), ("/b(/*x)(/c(/*:y))", 7)]) := by cbv
  have hglobs : Pattern.globsAsSymbols "/b(/*x)(/c(/*:y))" = "/b(/:x)(/c(/::y))" := by cbv
  have hm : (RouteTable.empty.registerEach
      [("/a", 1), ("/b(/*x)(/c(/*:y))", 7)]).matchPath "/b/1/c/2" =
        .ok ⟨7, ⟨[("x", "1"), (":y", "2")]⟩⟩ := by cbv
  have hmiss : (RouteTable.empty.registerEach
      [("/a", 1), ("/b(/*x)(/c(/*:y))", 7)]).matchPath "/b/1/2" = .error (.noLiteralEdge "2") := by
    cbv
  obtain ⟨-, -, hsame, hmatched⟩ := register_globsAsSymbols (Reachable.empty.registerEach _) h
  obtain ⟨hfits, hliteral⟩ := hmatched _ _ hm
  exact ⟨_, _, rfl, h, hglobs, hglobs ▸ hsame, hm, hfits, hliteral "x" "1" (by cbv), _, hmiss⟩

end RouteTable
end LinkRouting
