import LinkRouting.Proofs.Pattern.Grammar

/-! # How the plan of a pattern begins, and where its faults lie

A plan begins with steps that all its routes share, and these lead to an end, to a
fault or to the first groups (`Plan.Begins`).  The steps before the first groups are
those of the tokens before the first `(`, and what is a fault up to there is told with
a text that has no `(`.  A fault from there on is told with one that has
(`Offence.Behind`).
-/
namespace LinkRouting
namespace Pattern

mutual

/-- Every fault in the plan has a property. -/
def Plan.EveryFault (P : Offence → Prop) : Plan → Prop
  | .stop => True
  | .exact _ rest => rest.EveryFault P
  | .capture _ rest => rest.EveryFault P
  | .groups gs => gs.EveryFault P
  | .fault offence => P offence

/-- Every fault in the groups has a property. -/
def Groups.EveryFault (P : Offence → Prop) : Groups → Prop
  | .done => True
  | .group body rest => body.EveryFault P ∧ rest.EveryFault P
  | .fault offence => P offence

end

mutual

theorem Plan.everyFault_of_faultless (P : Offence → Prop) : ∀ plan : Plan,
    plan.Faultless → plan.EveryFault P
  | .stop, _ => trivial
  | .exact _ rest, h => rest.everyFault_of_faultless P h
  | .capture _ rest, h => rest.everyFault_of_faultless P h
  | .groups gs, h => gs.everyFault_of_faultless P h

theorem Groups.everyFault_of_faultless (P : Offence → Prop) : ∀ gs : Groups,
    gs.Faultless → gs.EveryFault P
  | .done, _ => trivial
  | .group body rest, h =>
    ⟨body.everyFault_of_faultless P h.1, rest.everyFault_of_faultless P h.2⟩

end

mutual

theorem Plan.everyFault_imp {P Q : Offence → Prop} (himp : ∀ o, P o → Q o) : ∀ plan : Plan,
    plan.EveryFault P → plan.EveryFault Q
  | .stop, _ => trivial
  | .exact _ rest, h => rest.everyFault_imp himp h
  | .capture _ rest, h => rest.everyFault_imp himp h
  | .groups gs, h => gs.everyFault_imp himp h
  | .fault _, h => himp _ h

theorem Groups.everyFault_imp {P Q : Offence → Prop} (himp : ∀ o, P o → Q o) : ∀ gs : Groups,
    gs.EveryFault P → gs.EveryFault Q
  | .done, _ => trivial
  | .group body rest, h => ⟨body.everyFault_imp himp h.1, rest.everyFault_imp himp h.2⟩
  | .fault _, h => himp _ h

end

/-! ### The first fault -/

mutual

/-- The first fault of a plan. -/
def Plan.firstFault? : Plan → Option Offence
  | .stop => none
  | .exact _ rest => rest.firstFault?
  | .capture _ rest => rest.firstFault?
  | .groups gs => gs.firstFault?
  | .fault offence => some offence

/-- The first fault of groups side by side. -/
def Groups.firstFault? : Groups → Option Offence
  | .done => none
  | .group body rest => body.firstFault?.or rest.firstFault?
  | .fault offence => some offence

end

mutual

theorem Plan.firstFault?_eq_none_iff : ∀ plan : Plan, plan.firstFault? = none ↔ plan.Faultless
  | .stop => iff_of_true rfl trivial
  | .exact _ rest => rest.firstFault?_eq_none_iff
  | .capture _ rest => rest.firstFault?_eq_none_iff
  | .groups gs => gs.firstFault?_eq_none_iff
  | .fault _ => iff_of_false nofun id

theorem Groups.firstFault?_eq_none_iff : ∀ gs : Groups, gs.firstFault? = none ↔ gs.Faultless
  | .done => iff_of_true rfl trivial
  | .group body rest => by
    rw [Groups.firstFault?, Option.or_eq_none_iff, body.firstFault?_eq_none_iff,
      rest.firstFault?_eq_none_iff]
    rfl
  | .fault _ => iff_of_false nofun id

end

/-! ### Steps that all routes of a plan share -/

/-- A plan behind a step. -/
def Plan.step : Step → Plan → Plan
  | .exact token, rest => .exact token rest
  | .capture name, rest => .capture name rest

/-- A plan behind steps. -/
def Plan.along (ss : List Step) (rest : Plan) : Plan :=
  ss.foldr Plan.step rest

theorem Plan.along_append (ss ss' : List Step) (rest : Plan) :
    along (ss ++ ss') rest = along ss (along ss' rest) :=
  List.foldr_append

theorem Plan.everyFault_along {P : Offence → Prop} (ss : List Step) {rest : Plan} :
    (along ss rest).EveryFault P ↔ rest.EveryFault P := by
  induction ss with
  | nil => rfl
  | cons s ss ih => cases s <;> exact ih

theorem Plan.ofLiteral_eq_along (text : String) (rest : Plan) :
    ofLiteral text rest = along (Token.literal text).steps rest := by
  rw [ofLiteral, along, Token.steps, List.foldr_map]
  rfl

theorem firstFault?_ofLiteral (text : String) (rest : Plan) :
    (Plan.ofLiteral text rest).firstFault? = rest.firstFault? := by
  unfold Plan.ofLiteral
  induction Path.scan text with
  | nil => rfl
  | cons token tokens ih => exact ih

theorem everyFault_ofLiteral {P : Offence → Prop} {text : String} {rest : Plan} :
    (Plan.ofLiteral text rest).EveryFault P ↔ rest.EveryFault P := by
  rw [Plan.ofLiteral_eq_along, Plan.everyFault_along]

/-! ### A fault is told with the tokens before it -/

/-- An offence behind a trail: a group is not closed, or what follows the trail, and
perhaps more, is not expected. -/
def Offence.Behind (trail : List Token) (o : Offence) : Prop :=
  o = .unbalanced ∨ ∃ more, o = .after (more ++ trail)

theorem Offence.behind_after (trail : List Token) : (Offence.after trail).Behind trail :=
  .inr ⟨[], rfl⟩

theorem Offence.Behind.of_append {before trail : List Token} {o : Offence}
    (h : o.Behind (before ++ trail)) : o.Behind trail := by
  rcases h with rfl | ⟨more, rfl⟩
  · exact .inl rfl
  · exact .inr ⟨more ++ before, by rw [List.append_assoc]⟩

theorem Offence.Behind.of_cons {t : Token} {trail : List Token} {o : Offence}
    (h : o.Behind (t :: trail)) : o.Behind trail :=
  Offence.Behind.of_append (List.singleton_append ▸ h)

theorem Plan.EveryFault.of_cons {t : Token} {trail : List Token} {plan : Plan}
    (h : plan.EveryFault (Offence.Behind (t :: trail))) : plan.EveryFault (Offence.Behind trail) :=
  plan.everyFault_imp (fun _ => Offence.Behind.of_cons) h

theorem Groups.EveryFault.of_cons {t : Token} {trail : List Token} {gs : Groups}
    (h : gs.EveryFault (Offence.Behind (t :: trail))) : gs.EveryFault (Offence.Behind trail) :=
  gs.everyFault_imp (fun _ => Offence.Behind.of_cons) h

-- What is told behind a longer trail has this one in it, so every reader hands on what
-- the readers that it calls prove.
mutual

theorem everyFault_afterSlash (trail : List Token) : ∀ ts : List Token,
    (afterSlash trail ts).EveryFault (Offence.Behind trail)
  | [] => by rw [afterSlash]; trivial
  | .literal _ :: ts => by
    rw [afterSlash, everyFault_ofLiteral]
    exact (everyFault_afterSegment _ ts).of_cons
  | .symbol _ :: ts => by
    rw [afterSlash]
    exact (everyFault_afterSegment _ ts).of_cons
  | .star _ :: ts => by
    rw [afterSlash, Plan.EveryFault]
    split
    · trivial
    · exact (Offence.behind_after _).of_cons
  | .openParen :: ts => by
    rw [afterSlash]
    exact (everyFault_inGroup _ ts).of_cons
  | .slash :: _ | .dot :: _ | .closeParen :: _ => by
    simp [afterSlash, Plan.EveryFault, Offence.behind_after]
termination_by ts => ts.length

theorem everyFault_afterDot (trail : List Token) : ∀ ts : List Token,
    (afterDot trail ts).EveryFault (Offence.Behind trail)
  | .literal _ :: ts => by
    rw [afterDot, everyFault_ofLiteral]
    exact (everyFault_afterSegment _ ts).of_cons
  | .symbol _ :: ts => by
    rw [afterDot]
    exact (everyFault_afterSegment _ ts).of_cons
  | [] | .slash :: _ | .dot :: _ | .star _ :: _ | .openParen :: _ | .closeParen :: _ => by
    simp [afterDot, Plan.EveryFault, Offence.behind_after]
termination_by ts => ts.length

theorem everyFault_afterSegment (trail : List Token) : ∀ ts : List Token,
    (afterSegment trail ts).EveryFault (Offence.Behind trail)
  | [] => by rw [afterSegment]; trivial
  | .slash :: ts => by
    rw [afterSegment]
    exact (everyFault_afterSlash _ ts).of_cons
  | .dot :: ts => by
    rw [afterSegment]
    exact (everyFault_afterDot _ ts).of_cons
  | .openParen :: ts => by
    rw [afterSegment]
    exact (everyFault_inGroup _ ts).of_cons
  | .literal _ :: _ | .symbol _ :: _ | .star _ :: _ | .closeParen :: _ => by
    simp [afterSegment, Plan.EveryFault, Offence.behind_after]
termination_by ts => ts.length

theorem everyFault_inGroup (trail ts : List Token) :
    (inGroup trail ts).EveryFault (Offence.Behind trail) := by
  rw [inGroup]
  split
  · exact .inl rfl
  · next inner after hs =>
    obtain ⟨hinner, hafter⟩ := closeGroup?_length hs
    exact ⟨everyFault_groupBody _ inner,
      Groups.everyFault_imp (fun _ h => h.of_cons.of_append) _ (everyFault_afterGroup _ after)⟩
termination_by ts.length
decreasing_by
  · exact hinner
  · exact hafter

theorem everyFault_groupBody (trail : List Token) : ∀ ts : List Token,
    (groupBody trail ts).EveryFault (Offence.Behind trail)
  | [] => by rw [groupBody]; trivial
  | .slash :: ts => by
    rw [groupBody]
    exact (everyFault_afterSlash _ ts).of_cons
  | .dot :: ts => by
    rw [groupBody]
    exact (everyFault_afterDot _ ts).of_cons
  | .literal _ :: _ | .symbol _ :: _ | .star _ :: _ | .openParen :: _ | .closeParen :: _ => by
    simp [groupBody, Plan.EveryFault, Offence.behind_after]
termination_by ts => ts.length

theorem everyFault_afterGroup (trail : List Token) : ∀ ts : List Token,
    (afterGroup trail ts).EveryFault (Offence.Behind trail)
  | [] => by rw [afterGroup]; trivial
  | .openParen :: ts => by
    rw [afterGroup]
    exact (everyFault_inGroup _ ts).of_cons
  | .slash :: _ | .dot :: _ | .literal _ :: _ | .symbol _ :: _ | .star _ :: _
  | .closeParen :: _ => by
    simp [afterGroup, Groups.EveryFault, Offence.behind_after]
termination_by ts => ts.length

end

theorem Offence.Behind.ne_ambiguousGroup {trail : List Token} {o : Offence} (h : o.Behind trail) :
    o ≠ .ambiguousGroup := by
  rcases h with rfl | ⟨more, rfl⟩ <;> nofun

/-- No fault of a plan is that a group is ambiguous. -/
theorem everyFault_ofTokens (ts : List Token) :
    (Plan.ofTokens ts).EveryFault (· ≠ .ambiguousGroup) := by
  match ts with
  | .slash :: ts =>
    exact Plan.everyFault_imp (fun _ h => h.ne_ambiguousGroup) _ (everyFault_afterSlash _ ts)
  | [] => exact nofun
  | .dot :: _ | .openParen :: _ | .closeParen :: _ | .literal _ :: _ | .symbol _ :: _
  | .star _ :: _ => exact nofun

/-! ### How a plan begins -/

/-- The tokens before the first group. -/
def beforeGroups (ts : List Token) : List Token :=
  ts.takeWhile (· ≠ .openParen)

theorem beforeGroups_cons {t : Token} (ht : t ≠ .openParen) (ts : List Token) :
    beforeGroups (t :: ts) = t :: beforeGroups ts :=
  List.takeWhile_cons_of_pos (decide_eq_true ht)

/-- **How the plan of tokens behind a trail begins.** -/
inductive Plan.Begins (trail ts : List Token) (plan : Plan) : Prop
  /-- The steps of all tokens lead to an end. -/
  | stop (h : .openParen ∉ ts) (eq : plan = along (steps ts) .stop)
  /-- Steps lead to a fault before any group. -/
  | fault (ss : List Step) (before : List Token) (h : .openParen ∉ before) (hp : before <+: ts)
    (eq : plan = along ss (.fault (.after (before.reverse ++ trail))))
  /-- The steps of the tokens before the first group lead to groups. -/
  | groups {gs : Groups} {before : List Token} (h : .openParen ∈ ts)
    (hf : gs.EveryFault (Offence.Behind (.openParen :: before)))
    (eq : plan = along (steps (beforeGroups ts)) (.groups gs))

namespace Plan.Begins
variable {trail ts : List Token} {plan plan' : Plan}

theorem cons {t : Token} (h : plan.Begins (t :: trail) ts) (ht : t ≠ .openParen)
    (hplan : plan' = along t.steps plan) : plan'.Begins trail (t :: ts) := by
  have hmem : ∀ {us : List Token}, .openParen ∉ us → .openParen ∉ t :: us := fun hus hmem =>
    (List.mem_cons.mp hmem).elim (fun heq => ht heq.symm) hus
  subst hplan
  cases h with
  | stop hts heq => exact .stop (hmem hts) (by rw [heq, steps_cons, along_append])
  | fault ss before hbefore hp heq =>
    refine .fault (t.steps ++ ss) (t :: before) (hmem hbefore) ?_ ?_
    · exact List.cons_prefix_cons.mpr ⟨rfl, hp⟩
    · rw [heq, along_append, List.reverse_cons, List.append_assoc, List.singleton_append]
  | groups hts hf heq =>
    refine .groups (List.mem_cons_of_mem _ hts) hf ?_
    rw [heq, beforeGroups_cons ht, steps_cons, along_append]

theorem literal {text : String} (h : plan.Begins (.literal text :: trail) ts) :
    (Plan.ofLiteral text plan).Begins trail (.literal text :: ts) :=
  h.cons (by simp) (Plan.ofLiteral_eq_along text plan)

theorem nil : Plan.stop.Begins trail [] :=
  .stop (by simp) rfl

/-- A fault at once. -/
theorem here : (Plan.fault (.after trail)).Begins trail ts :=
  .fault [] [] (by simp) List.nil_prefix rfl

/-- Groups at once. -/
theorem openParen :
    (Plan.groups (inGroup (.openParen :: trail) ts)).Begins trail (.openParen :: ts) :=
  .groups List.mem_cons_self (everyFault_inGroup _ ts) rfl

end Plan.Begins

mutual

theorem begins_afterSlash (trail : List Token) : ∀ ts : List Token,
    (afterSlash trail ts).Begins trail ts
  | [] => by rw [afterSlash]; exact .nil
  | .literal _ :: ts => by rw [afterSlash]; exact (begins_afterSegment _ ts).literal
  | .symbol _ :: ts => by rw [afterSlash]; exact (begins_afterSegment _ ts).cons nofun rfl
  | .star name :: ts => by
    have hrest : (if ts.isEmpty then Plan.stop else .fault (.after (.star name :: trail))).Begins
        (.star name :: trail) ts := by
      split
      · next hts => rw [List.isEmpty_iff.mp hts]; exact .nil
      · exact .here
    rw [afterSlash]
    exact hrest.cons nofun rfl
  | .openParen :: ts => by rw [afterSlash]; exact .openParen
  | .slash :: _ | .dot :: _ | .closeParen :: _ => by simp [afterSlash, Plan.Begins.here]
termination_by ts => ts.length

theorem begins_afterDot (trail : List Token) : ∀ ts : List Token,
    (afterDot trail ts).Begins trail ts
  | .literal _ :: ts => by rw [afterDot]; exact (begins_afterSegment _ ts).literal
  | .symbol _ :: ts => by rw [afterDot]; exact (begins_afterSegment _ ts).cons nofun rfl
  | [] | .slash :: _ | .dot :: _ | .star _ :: _ | .openParen :: _ | .closeParen :: _ => by
    simp [afterDot, Plan.Begins.here]
termination_by ts => ts.length

theorem begins_afterSegment (trail : List Token) : ∀ ts : List Token,
    (afterSegment trail ts).Begins trail ts
  | [] => by rw [afterSegment]; exact .nil
  | .slash :: ts => by rw [afterSegment]; exact (begins_afterSlash _ ts).cons nofun rfl
  | .dot :: ts => by rw [afterSegment]; exact (begins_afterDot _ ts).cons nofun rfl
  | .openParen :: ts => by rw [afterSegment]; exact .openParen
  | .literal _ :: _ | .symbol _ :: _ | .star _ :: _ | .closeParen :: _ => by
    simp [afterSegment, Plan.Begins.here]
termination_by ts => ts.length

end

/-- The plan of a pattern that starts with `/`. -/
theorem begins_ofTokens (ts : List Token) :
    (Plan.ofTokens (.slash :: ts)).Begins [] (.slash :: ts) :=
  (begins_afterSlash _ ts).cons nofun rfl

end Pattern
end LinkRouting
