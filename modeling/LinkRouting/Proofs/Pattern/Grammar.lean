import LinkRouting.Proofs.Pattern.Routes

/-! # Plans of grammatical patterns

The plan of a list of tokens has no fault exactly if the tokens are a pattern of
the grammar (`faultless_ofTokens_iff`), and its routes are then the steps of the
pattern's choices (`Grammatical.isOf`).  Both are proved production by
production: one way along the recursion that makes the plan, the other along the
derivation.
-/
namespace LinkRouting
namespace Pattern

/-! ### Every group of a grammatical pattern is closed -/

mutual

theorem Grammar.Tail.balanced {ts : List Token} : Grammar.Tail ts → Balanced ts
  | .nil => .nil
  | .literal h => .cons nofun nofun h.balanced
  | .symbol h => .cons nofun nofun h.balanced
  | .star => .cons nofun nofun .nil
  | .groups h => h.balanced

theorem Grammar.Rest.balanced {ts : List Token} : Grammar.Rest ts → Balanced ts
  | .nil => .nil
  | .slash h => .cons nofun nofun h.balanced
  | .dot h => .cons nofun nofun h.balanced
  | .groups h => h.balanced

theorem Grammar.DotTail.balanced {ts : List Token} : Grammar.DotTail ts → Balanced ts
  | .literal h => .cons nofun nofun h.balanced
  | .symbol h => .cons nofun nofun h.balanced

theorem Grammar.Groups.balanced {ts : List Token} : Grammar.Groups ts → Balanced ts
  | .last h => .group h.balanced .nil
  | .cons h k => .group h.balanced k.balanced

theorem Grammar.Body.balanced {ts : List Token} : Grammar.Body ts → Balanced ts
  | .nil => .nil
  | .slash h => .cons nofun nofun h.balanced
  | .dot h => .cons nofun nofun h.balanced

end

/-- The body of a group ends at the first `)` that closes no group inside it. -/
theorem closeGroup?_append_of_balanced {ts : List Token} (h : Balanced ts) :
    ∀ (depth : Nat) (rest : List Token),
      closeGroup? depth (ts ++ rest) =
        (closeGroup? depth rest).map fun (inner, after) => (ts ++ inner, after) := by
  induction h with
  | nil =>
    intro depth rest
    simp
  | @cons t ts ho hc _ ih =>
    intro depth rest
    cases t with
    | openParen => exact absurd rfl ho
    | closeParen => exact absurd rfl hc
    | _ => simp [closeGroup?, ih, Function.comp_def]
  | group _ _ ihi iha =>
    intro depth rest
    simp [closeGroup?, ihi, iha, Function.comp_def]

theorem closeGroup?_of_balanced {inner : List Token} (h : Balanced inner) (after : List Token) :
    closeGroup? 0 (inner ++ .closeParen :: after) = some (inner, after) := by
  rw [closeGroup?_append_of_balanced h]
  simp [closeGroup?]

theorem inGroup_of_closeGroup?_eq_none {ts : List Token} (h : closeGroup? 0 ts = none)
    (trail : List Token) : inGroup trail ts = .fault .unbalanced := by
  rw [inGroup]
  split
  · rfl
  · next hs => rw [h] at hs; cases hs

theorem inGroup_of_closeGroup?_eq_some {ts inner after : List Token}
    (h : closeGroup? 0 ts = some (inner, after)) (trail : List Token) :
    inGroup trail ts =
      .group (groupBody trail inner)
        (afterGroup (.closeParen :: (inner.reverse ++ trail)) after) := by
  rw [inGroup]
  split
  · next hn => rw [h] at hn; cases hn
  · next hs =>
    rw [h] at hs
    obtain ⟨rfl, rfl⟩ := Prod.mk.inj (Option.some.inj hs)
    rfl

theorem inGroup_of_balanced {inner : List Token} (h : Balanced inner) (trail after : List Token) :
    inGroup trail (inner ++ .closeParen :: after) =
      .group (groupBody trail inner)
        (afterGroup (.closeParen :: (inner.reverse ++ trail)) after) :=
  inGroup_of_closeGroup?_eq_some (closeGroup?_of_balanced h after) trail

/-! ### A plan without a fault comes from a grammatical pattern -/

theorem faultless_ofLiteral {text : String} {rest : Plan} :
    (Plan.ofLiteral text rest).Faultless ↔ rest.Faultless := by
  unfold Plan.ofLiteral
  induction Path.scan text with
  | nil => rfl
  | cons token tokens ih => exact ih

theorem routes_ofLiteral (text : String) (rest : Plan) :
    (Plan.ofLiteral text rest).routes = rest.routes.map ((Token.literal text).steps ++ ·) := by
  rw [Plan.ofLiteral, Token.steps]
  induction Path.scan text with
  | nil => simp
  | cons token tokens ih => simp [Plan.routes, ih, Function.comp_def]

mutual

theorem tail_of_faultless (trail : List Token) : ∀ ts : List Token,
    (afterSlash trail ts).Faultless → Grammar.Tail ts
  | [], _ => .nil
  | .literal _ :: ts, h => by
    rw [afterSlash, faultless_ofLiteral] at h
    exact .literal (rest_of_faultless _ ts h)
  | .symbol _ :: ts, h => by
    rw [afterSlash] at h
    exact .symbol (rest_of_faultless _ ts h)
  | .star _ :: ts, h => by
    rw [afterSlash, Plan.Faultless] at h
    split at h
    · next hts => rw [List.isEmpty_iff.mp hts]; exact .star
    · exact h.elim
  | .openParen :: ts, h => by
    rw [afterSlash] at h
    exact .groups (groups_of_faultless _ ts h)
  | .slash :: _, h | .dot :: _, h | .closeParen :: _, h => by
    simp [afterSlash, Plan.Faultless] at h
termination_by ts => ts.length

theorem rest_of_faultless (trail : List Token) : ∀ ts : List Token,
    (afterSegment trail ts).Faultless → Grammar.Rest ts
  | [], _ => .nil
  | .slash :: ts, h => by
    rw [afterSegment] at h
    exact .slash (tail_of_faultless _ ts h)
  | .dot :: ts, h => by
    rw [afterSegment] at h
    exact .dot (dotTail_of_faultless _ ts h)
  | .openParen :: ts, h => by
    rw [afterSegment] at h
    exact .groups (groups_of_faultless _ ts h)
  | .literal _ :: _, h | .symbol _ :: _, h | .star _ :: _, h | .closeParen :: _, h => by
    simp [afterSegment, Plan.Faultless] at h
termination_by ts => ts.length

theorem dotTail_of_faultless (trail : List Token) : ∀ ts : List Token,
    (afterDot trail ts).Faultless → Grammar.DotTail ts
  | .literal _ :: ts, h => by
    rw [afterDot, faultless_ofLiteral] at h
    exact .literal (rest_of_faultless _ ts h)
  | .symbol _ :: ts, h => by
    rw [afterDot] at h
    exact .symbol (rest_of_faultless _ ts h)
  | [], h | .slash :: _, h | .dot :: _, h | .star _ :: _, h | .openParen :: _, h
  | .closeParen :: _, h => by
    simp [afterDot, Plan.Faultless] at h
termination_by ts => ts.length

theorem groups_of_faultless (trail ts : List Token) (h : (inGroup trail ts).Faultless) :
    Grammar.Groups (.openParen :: ts) := by
  rw [inGroup] at h
  split at h
  · exact h.elim
  · next inner after hs =>
    -- The body and what comes after it are shorter, which the recursion goes by.
    obtain ⟨hinner, hafter⟩ := closeGroup?_length hs
    have hi := body_of_faultless _ inner h.1
    rw [closeGroup?_append hs]
    match after with
    | [] => exact .last hi
    | .openParen :: after =>
      have ha := h.2
      rw [afterGroup] at ha
      exact .cons hi (groups_of_faultless _ after ha)
    | .slash :: _ | .dot :: _ | .closeParen :: _ | .literal _ :: _ | .symbol _ :: _
    | .star _ :: _ =>
      simp [afterGroup, Groups.Faultless] at h
termination_by ts.length
decreasing_by
  · exact hinner
  · exact Nat.lt_of_succ_lt hafter

theorem body_of_faultless (trail : List Token) : ∀ ts : List Token,
    (groupBody trail ts).Faultless → Grammar.Body ts
  | [], _ => .nil
  | .slash :: ts, h => by
    rw [groupBody] at h
    exact .slash (tail_of_faultless _ ts h)
  | .dot :: ts, h => by
    rw [groupBody] at h
    exact .dot (dotTail_of_faultless _ ts h)
  | .literal _ :: _, h | .symbol _ :: _, h | .star _ :: _, h | .openParen :: _, h
  | .closeParen :: _, h => by
    simp [groupBody, Plan.Faultless] at h
termination_by ts => ts.length

end

/-! ### The routes of a grammatical pattern are its choices -/

/-- The plan has no fault, and a route for each choice of the tokens. -/
structure Plan.IsOf (plan : Plan) (ts : List Token) : Prop where
  faultless : plan.Faultless
  mem_routes : ∀ route, route ∈ plan.routes ↔ ∃ way ∈ choices ts, route = steps way

/-- The groups have no fault, and a route for each choice of the tokens. -/
structure Groups.IsOf (gs : Groups) (ts : List Token) : Prop where
  faultless : gs.Faultless
  mem_routes : ∀ route, route ∈ gs.routesAfter [[]] ↔ ∃ way ∈ choices ts, route = steps way

theorem Plan.isOf_stop : Plan.stop.IsOf [] where
  faultless := trivial
  mem_routes route := by simp [Plan.routes, choices_nil]

/-- A token that is no parenthesis puts its steps before every route. -/
theorem Plan.IsOf.cons {plan plan' : Plan} {t : Token} {ts : List Token} (h : plan.IsOf ts)
    (hts : Balanced ts) (ho : t ≠ .openParen) (hc : t ≠ .closeParen) (hf : plan'.Faultless)
    (hroutes : plan'.routes = plan.routes.map (t.steps ++ ·)) : plan'.IsOf (t :: ts) where
  faultless := hf
  mem_routes route := by
    simp only [hroutes, List.mem_map, h.mem_routes, mem_choices_cons hts ho hc]
    constructor
    · rintro ⟨_, ⟨way, hway, rfl⟩, rfl⟩
      exact ⟨t :: way, ⟨way, hway, rfl⟩, rfl⟩
    · rintro ⟨_, ⟨way, hway, rfl⟩, rfl⟩
      exact ⟨steps way, ⟨way, hway, rfl⟩, rfl⟩

theorem Plan.IsOf.literal {plan : Plan} {ts : List Token} (h : plan.IsOf ts) (hts : Balanced ts)
    (text : String) : (Plan.ofLiteral text plan).IsOf (.literal text :: ts) :=
  h.cons hts nofun nofun (faultless_ofLiteral.mpr h.faultless) (routes_ofLiteral text plan)

theorem Plan.IsOf.symbol {plan : Plan} {ts : List Token} (h : plan.IsOf ts) (hts : Balanced ts)
    (name : String) : (Plan.capture name plan).IsOf (.symbol name :: ts) :=
  h.cons hts nofun nofun h.faultless rfl

theorem Plan.IsOf.slash {plan : Plan} {ts : List Token} (h : plan.IsOf ts) (hts : Balanced ts) :
    (Plan.exact .slash plan).IsOf (.slash :: ts) :=
  h.cons hts nofun nofun h.faultless rfl

theorem Plan.IsOf.dot {plan : Plan} {ts : List Token} (h : plan.IsOf ts) (hts : Balanced ts) :
    (Plan.exact .dot plan).IsOf (.dot :: ts) :=
  h.cons hts nofun nofun h.faultless rfl

theorem Groups.isOf_done : Groups.done.IsOf [] where
  faultless := trivial
  mem_routes route := by simp [Groups.routesAfter, choices_nil]

theorem Groups.IsOf.group {body : Plan} {rest : Groups} {inner after : List Token}
    (hb : body.IsOf inner) (hr : rest.IsOf after) (hi : Balanced inner) (ha : Balanced after) :
    (Groups.group body rest).IsOf (.openParen :: inner ++ .closeParen :: after) where
  faultless := ⟨hb.faultless, hr.faultless⟩
  mem_routes route := by
    rw [Groups.routesAfter, Groups.mem_routesAfter]
    simp only [mem_choices_group hi ha, List.mem_append, List.mem_singleton, List.mem_flatMap,
      mem_shortestFirst, List.mem_map, hb.mem_routes, hr.mem_routes]
    constructor
    · -- The group is left in the one route before it, or taken behind that route.
      rintro ⟨way, hway, _, ⟨rest, hrest, rfl⟩, rfl⟩
      rcases hway with rfl | ⟨_, rfl, _, ⟨first, hfirst, rfl⟩, rfl⟩
      · exact ⟨rest, ⟨[], .inl rfl, rest, hrest, rfl⟩, rfl⟩
      · exact ⟨first ++ rest, ⟨first, .inr hfirst, rest, hrest, rfl⟩, by simp⟩
    · rintro ⟨_, ⟨first, hfirst, rest, hrest, rfl⟩, rfl⟩
      refine ⟨steps first, ?_, _, ⟨rest, hrest, rfl⟩, steps_append first rest⟩
      rcases hfirst with rfl | hfirst
      · exact .inl rfl
      · exact .inr ⟨[], rfl, steps first, ⟨first, hfirst, rfl⟩, rfl⟩

mutual

theorem Grammar.Tail.isOf {ts : List Token} (trail : List Token) :
    Grammar.Tail ts → (afterSlash trail ts).IsOf ts
  | .nil => by rw [afterSlash]; exact Plan.isOf_stop
  | .literal h => by rw [afterSlash]; exact (h.isOf _).literal h.balanced _
  | .symbol h => by rw [afterSlash]; exact (h.isOf _).symbol h.balanced _
  | .star => by
    rw [afterSlash]
    exact Plan.isOf_stop.cons .nil nofun nofun trivial rfl
  | .groups h => by
    obtain ⟨us, rfl, hus⟩ := h.isOf
    rw [afterSlash]
    exact ⟨(hus _).faultless, (hus _).mem_routes⟩

theorem Grammar.Rest.isOf {ts : List Token} (trail : List Token) :
    Grammar.Rest ts → (afterSegment trail ts).IsOf ts
  | .nil => by rw [afterSegment]; exact Plan.isOf_stop
  | .slash h => by rw [afterSegment]; exact (h.isOf _).slash h.balanced
  | .dot h => by rw [afterSegment]; exact (h.isOf _).dot h.balanced
  | .groups h => by
    obtain ⟨us, rfl, hus⟩ := h.isOf
    rw [afterSegment]
    exact ⟨(hus _).faultless, (hus _).mem_routes⟩

theorem Grammar.DotTail.isOf {ts : List Token} (trail : List Token) :
    Grammar.DotTail ts → (afterDot trail ts).IsOf ts
  | .literal h => by rw [afterDot]; exact (h.isOf _).literal h.balanced _
  | .symbol h => by rw [afterDot]; exact (h.isOf _).symbol h.balanced _

/-- Groups begin with a `(`, which is read before them. -/
theorem Grammar.Groups.isOf {ts : List Token} : Grammar.Groups ts →
    ∃ us, ts = .openParen :: us ∧ ∀ trail, (inGroup trail us).IsOf ts
  | .last h => by
    refine ⟨_, List.cons_append, fun trail => ?_⟩
    rw [inGroup_of_balanced h.balanced, afterGroup]
    exact (Groups.isOf_done).group (h.isOf _) h.balanced .nil
  | .cons h k => by
    obtain ⟨us, rfl, hus⟩ := k.isOf
    refine ⟨_, List.cons_append, fun trail => ?_⟩
    rw [inGroup_of_balanced h.balanced, afterGroup]
    exact .group (h.isOf _) (hus _) h.balanced k.balanced

theorem Grammar.Body.isOf {ts : List Token} (trail : List Token) :
    Grammar.Body ts → (groupBody trail ts).IsOf ts
  | .nil => by rw [groupBody]; exact Plan.isOf_stop
  | .slash h => by rw [groupBody]; exact (h.isOf _).slash h.balanced
  | .dot h => by rw [groupBody]; exact (h.isOf _).dot h.balanced

end

/-! ### Whole patterns -/

theorem Grammatical.balanced {ts : List Token} (h : Grammatical ts) : Balanced ts := by
  cases h with
  | slash h => exact .cons nofun nofun h.balanced

/-- **The plan of a pattern has a route for each choice of its groups.** -/
theorem Grammatical.isOf {ts : List Token} (h : Grammatical ts) : (Plan.ofTokens ts).IsOf ts := by
  cases h with
  | slash h => exact (h.isOf _).slash h.balanced

/-- **The plan of tokens has no fault exactly if they are a pattern of the
grammar.** -/
theorem faultless_ofTokens_iff (ts : List Token) :
    (Plan.ofTokens ts).Faultless ↔ Grammatical ts := by
  refine ⟨fun h => ?_, fun h => h.isOf.faultless⟩
  match ts with
  | .slash :: ts => exact .slash (tail_of_faultless _ ts h)
  | [] => exact h.elim
  | .dot :: _ | .openParen :: _ | .closeParen :: _ | .literal _ :: _ | .symbol _ :: _
  | .star _ :: _ => exact h.elim

/-- The labels of the routes that a pattern's plan asks for. -/
theorem mem_routes_iff {ts : List Token} (h : Grammatical ts) (ls : List Label) :
    ls ∈ routes ts ↔ ∃ route ∈ (Plan.ofTokens ts).routes, ls = route.map Step.label := by
  simp only [routes, List.mem_map, h.isOf.mem_routes]
  constructor
  · rintro ⟨way, hway, rfl⟩
    exact ⟨_, ⟨way, hway, rfl⟩, rfl⟩
  · rintro ⟨_, ⟨way, hway, rfl⟩, rfl⟩
    exact ⟨way, hway, rfl⟩

end Pattern
end LinkRouting
