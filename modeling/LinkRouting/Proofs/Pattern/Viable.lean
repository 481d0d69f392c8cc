import LinkRouting.Proofs.Pattern.Check
import LinkRouting.Proofs.Pattern.Faults
import LinkRouting.Proofs.Pattern.Scan

/-! # The leftmost token that no pattern has there

The readers that make a plan do not read from left to right: they look for the end of a group
before they read its body.  Still, what they tell about the first fault is where the tokens
cease to begin a pattern (`pointsAtLeftmost_ofTokens`).

What a reader has read so far is a *viable prefix*: the patterns that begin with it are those
that go on with a run of the reader's own production and then with what closes the groups that
are open (`Expects`).  Each reader keeps this for the readers that it calls.  A token with which
neither its production nor the closing goes on is therefore one that no pattern has there.
-/
namespace LinkRouting
namespace Pattern

/-! ### How the productions go on -/

namespace Grammar

variable {t : Token} {ts body : List Token} {text name : String}

theorem not_groups_cons (ht : t ≠ .openParen) (ts : List Token) : ¬ Groups (t :: ts) := by
  intro h
  obtain ⟨us, heq, -⟩ := h.isOf
  exact ht (List.cons.inj heq).1

theorem tail_literal_iff : Tail (.literal text :: ts) ↔ Rest ts :=
  ⟨fun | .literal h => h | .groups h => absurd h (not_groups_cons (by simp) _), .literal⟩

theorem tail_symbol_iff : Tail (.symbol name :: ts) ↔ Rest ts :=
  ⟨fun | .symbol h => h | .groups h => absurd h (not_groups_cons (by simp) _), .symbol⟩

theorem tail_star_iff : Tail (.star name :: ts) ↔ ts = [] :=
  ⟨fun | .star => rfl | .groups h => absurd h (not_groups_cons (by simp) _), fun h => h ▸ .star⟩

theorem tail_openParen_iff : Tail (.openParen :: ts) ↔ Groups (.openParen :: ts) :=
  ⟨fun | .groups h => h, .groups⟩

theorem rest_slash_iff : Rest (.slash :: ts) ↔ Tail ts :=
  ⟨fun | .slash h => h | .groups h => absurd h (not_groups_cons (by simp) _), .slash⟩

theorem rest_openParen_iff : Rest (.openParen :: ts) ↔ Groups (.openParen :: ts) :=
  ⟨fun | .groups h => h, .groups⟩

theorem dotTail_literal_iff : DotTail (.literal text :: ts) ↔ Rest ts :=
  ⟨fun | .literal h => h, .literal⟩

theorem dotTail_symbol_iff : DotTail (.symbol name :: ts) ↔ Rest ts :=
  ⟨fun | .symbol h => h, .symbol⟩

theorem body_slash_iff : Body (.slash :: ts) ↔ Tail ts :=
  ⟨fun | .slash h => h, .slash⟩

theorem body_dot_iff : Body (.dot :: ts) ↔ DotTail ts :=
  ⟨fun | .dot h => h, .dot⟩

/-- What may follow a group: nothing, or more groups. -/
def AfterGroup (ts : List Token) : Prop :=
  ts = [] ∨ Groups ts

theorem afterGroup_openParen_iff : AfterGroup (.openParen :: ts) ↔ Groups (.openParen :: ts) :=
  or_iff_right (List.cons_ne_nil _ _)

theorem groups_openParen_iff : Groups (.openParen :: ts) ↔
    ∃ body after, ts = body ++ .closeParen :: after ∧ Body body ∧ AfterGroup after := by
  constructor
  · intro h
    generalize heq : Token.openParen :: ts = us at h
    cases h with
    | @last body hb =>
      obtain rfl := (List.cons.inj heq).2
      exact ⟨body, [], rfl, hb, .inl rfl⟩
    | @cons body after hb ha =>
      obtain rfl := (List.cons.inj heq).2
      exact ⟨body, after, rfl, hb, .inr ha⟩
  · rintro ⟨body, after, rfl, hb, rfl | ha⟩
    · exact .last hb
    · exact .cons hb ha

end Grammar

/-! ### What is expected behind a trail -/

/-- **What is expected behind a trail**: the patterns that begin with its tokens go on with a
run of one kind, and then with what closes the open groups. -/
structure Expects (trail : List Token) (run closing : List Token → Prop) : Prop where
  grammatical_iff : ∀ ts, Grammatical (trail.reverse ++ ts) ↔
    ∃ us rest, ts = us ++ rest ∧ run us ∧ closing rest
  exists_closing : ∃ rest, closing rest
  eq_closeParen : ∀ t rest, closing (t :: rest) → t = .closeParen

/-- The offence points at a token of the pattern with which no pattern can go on there, though
there are patterns that begin with the tokens before. -/
def Offence.PointsAtLeftmost (full : List Token) (o : Offence) : Prop :=
  ∃ before t after, full = before ++ t :: after ∧ o = .unexpected (render before) ∧
    (∃ ts, Grammatical (before ++ ts)) ∧ ∀ ts, ¬ Grammatical (before ++ t :: ts)

namespace Expects
variable {trail inner full after : List Token} {run run' closing : List Token → Prop} {t : Token}

/-- **A token is pointed at** if neither the run nor the closing goes on with it. -/
theorem pointsAt (h : Expects trail run closing) (hrun : ∃ us, run us)
    (hno : ∀ us, ¬ run (t :: us)) (hclose : run [] → t ≠ .closeParen)
    (hfull : full = trail.reverse ++ t :: after) :
    (Offence.after trail).PointsAtLeftmost full := by
  refine ⟨trail.reverse, t, after, hfull, rfl, ?_, fun ts hts => ?_⟩
  · obtain ⟨us, hus⟩ := hrun
    obtain ⟨rest, hrest⟩ := h.exists_closing
    exact ⟨us ++ rest, (h.grammatical_iff _).mpr ⟨us, rest, rfl, hus, hrest⟩⟩
  · obtain ⟨us, rest, heq, hus, hrest⟩ := (h.grammatical_iff _).mp hts
    cases us with
    | nil =>
      rw [List.nil_append] at heq
      subst heq
      exact hclose hus (h.eq_closeParen t ts hrest)
    | cons u us =>
      obtain ⟨rfl, -⟩ := List.cons.inj heq
      exact hno us hus

/-- A run goes on behind its first token. -/
theorem next (h : Expects trail run closing) (ht : t ≠ .closeParen)
    (hiff : ∀ us, run (t :: us) ↔ run' us) : Expects (t :: trail) run' closing where
  grammatical_iff ts := by
    rw [List.reverse_cons, List.append_assoc, List.singleton_append, h.grammatical_iff]
    constructor
    · rintro ⟨us, rest, heq, hus, hrest⟩
      cases us with
      | nil =>
        rw [List.nil_append] at heq
        subst heq
        exact absurd (h.eq_closeParen t ts hrest) ht
      | cons u us =>
        obtain ⟨rfl, rfl⟩ := List.cons.inj heq
        exact ⟨us, rest, rfl, (hiff us).mp hus, hrest⟩
    · rintro ⟨us, rest, rfl, hus, hrest⟩
      exact ⟨t :: us, rest, rfl, (hiff us).mpr hus, hrest⟩
  exists_closing := h.exists_closing
  eq_closeParen := h.eq_closeParen

/-- What closes a group, with more groups after it and what closes those outside it. -/
def ClosingGroup (closing : List Token → Prop) (ts : List Token) : Prop :=
  ∃ after rest, ts = .closeParen :: after ++ rest ∧ Grammar.AfterGroup after ∧ closing rest

/-- **Behind the `(` of a group its body is expected**, and then its `)`. -/
theorem openParen (h : Expects trail run closing)
    (hiff : ∀ us, run (.openParen :: us) ↔ Grammar.Groups (.openParen :: us)) :
    Expects (.openParen :: trail) Grammar.Body (ClosingGroup closing) where
  grammatical_iff ts := by
    rw [(h.next (by simp) hiff).grammatical_iff]
    simp only [Grammar.groups_openParen_iff]
    constructor
    · rintro ⟨_, rest, rfl, ⟨body, after, rfl, hbody, hafter⟩, hrest⟩
      exact ⟨body, .closeParen :: after ++ rest, by simp, hbody, after, rest, rfl, hafter, hrest⟩
    · rintro ⟨body, _, rfl, hbody, after, rest, rfl, hafter, hrest⟩
      exact ⟨body ++ .closeParen :: after, rest, by simp, ⟨body, after, rfl, hbody, hafter⟩, hrest⟩
  exists_closing := by
    obtain ⟨rest, hrest⟩ := h.exists_closing
    exact ⟨_, [], rest, rfl, .inl rfl, hrest⟩
  eq_closeParen := by
    rintro t rest ⟨after, rest', heq, -, -⟩
    exact (List.cons.inj heq).1

/-- **Behind the `)` of a group other groups may follow.**  The body ends at its own `)`, so
it is the one that was read. -/
theorem closeParen (h : Expects trail run closing)
    (hiff : ∀ us, run (.openParen :: us) ↔ Grammar.Groups (.openParen :: us))
    (hinner : Grammar.Body inner) :
    Expects (.closeParen :: (inner.reverse ++ .openParen :: trail)) Grammar.AfterGroup closing where
  grammatical_iff ts := by
    have htrail : (.closeParen :: (inner.reverse ++ .openParen :: trail)).reverse ++ ts =
        (.openParen :: trail).reverse ++ (inner ++ .closeParen :: ts) := by simp
    rw [htrail, (h.openParen hiff).grammatical_iff]
    constructor
    · rintro ⟨body, _, heq, hbody, after, rest, rfl, hafter, hrest⟩
      have hsplit := closeGroup?_of_balanced hinner.balanced ts
      rw [heq, List.cons_append, closeGroup?_of_balanced hbody.balanced] at hsplit
      obtain ⟨-, rfl⟩ := Prod.mk.inj (Option.some.inj hsplit)
      exact ⟨after, rest, rfl, hafter, hrest⟩
    · rintro ⟨after, rest, rfl, hafter, hrest⟩
      exact ⟨inner, _, rfl, hinner, after, rest, rfl, hafter, hrest⟩
  exists_closing := h.exists_closing
  eq_closeParen := h.eq_closeParen

end Expects

/-! ### The readers -/

theorem Balanced.ne_closeParen {t : Token} {ts : List Token} (h : Balanced (t :: ts)) :
    t ≠ .closeParen := by
  generalize heq : t :: ts = us at h
  cases h with
  | nil => cases heq
  | cons ho hc h => exact (List.cons.inj heq).1 ▸ hc
  | group hi ha => exact (List.cons.inj heq).1 ▸ by simp

theorem Balanced.of_cons {t : Token} {ts : List Token} (h : Balanced (t :: ts))
    (ht : t ≠ .openParen) : Balanced ts := by
  generalize heq : t :: ts = us at h
  cases h with
  | nil => cases heq
  | cons ho hc h => exact (List.cons.inj heq).2 ▸ h
  | group hi ha => exact absurd (List.cons.inj heq).1 ht

theorem Balanced.exists_group {ts : List Token} (h : Balanced (.openParen :: ts)) :
    ∃ inner after, ts = inner ++ .closeParen :: after ∧ Balanced inner ∧ Balanced after := by
  generalize heq : Token.openParen :: ts = us at h
  cases h with
  | nil => cases heq
  | cons ho hc h => exact absurd (List.cons.inj heq).1.symm ho
  | @group inner after hi ha => exact ⟨inner, after, (List.cons.inj heq).2, hi, ha⟩

/-- **Where a reader stands** in a list of tokens: it has read the trail, has its run before it,
in which every group is closed, and leaves the rest. -/
structure Place (full trail run rest : List Token) : Prop where
  eq : full = trail.reverse ++ (run ++ rest)
  balanced : Balanced run
  not_dot_behind : ∀ t, t.isFragment = true → ¬ [t, .dot] <:+: full

namespace Place
variable {full trail ts rest : List Token} {t : Token}

theorem next (h : Place full trail (t :: ts) rest) (ht : t ≠ .openParen) :
    Place full (t :: trail) ts rest where
  eq := by
    rw [h.eq]
    simp
  balanced := h.balanced.of_cons ht
  not_dot_behind := h.not_dot_behind

theorem ne_closeParen (h : Place full trail (t :: ts) rest) : t ≠ .closeParen :=
  h.balanced.ne_closeParen

/-- No reader stands between a fragment and a dot. -/
theorem ne_dot {u : Token} (h : Place full (u :: trail) (t :: ts) rest)
    (hu : u.isFragment = true) : t ≠ .dot := by
  rintro rfl
  refine h.not_dot_behind u hu ⟨trail.reverse, ts ++ rest, ?_⟩
  rw [h.eq]
  simp

/-- The body of a group, and what comes after the group. -/
theorem group (h : Place full trail (.openParen :: ts) rest) :
    ∃ inner after, closeGroup? 0 ts = some (inner, after) ∧
      Place full (.openParen :: trail) inner (.closeParen :: (after ++ rest)) ∧
      Place full (.closeParen :: (inner.reverse ++ .openParen :: trail)) after rest := by
  obtain ⟨inner, after, rfl, hi, ha⟩ := h.balanced.exists_group
  refine ⟨inner, after, closeGroup?_of_balanced hi after, ⟨?_, hi, h.not_dot_behind⟩,
    ⟨?_, ha, h.not_dot_behind⟩⟩
  · rw [h.eq]
    simp
  · rw [h.eq]
    simp

end Place

mutual

theorem pointsAt_afterSlash {full trail rest : List Token} {closing : List Token → Prop}
    {o : Offence} (h : Expects trail Grammar.Tail closing) : ∀ ts : List Token,
      Place full trail ts rest → (afterSlash trail ts).firstFault? = some o →
        o.PointsAtLeftmost full
  | [], _, ho => by simp [afterSlash, Plan.firstFault?] at ho
  | .literal text :: ts, hp, ho => by
    rw [afterSlash, firstFault?_ofLiteral] at ho
    exact pointsAt_afterSegment (u := .literal text) rfl
      (h.next (by simp) fun _ => Grammar.tail_literal_iff) ts (hp.next (by simp)) ho
  | .symbol name :: ts, hp, ho => by
    rw [afterSlash] at ho
    exact pointsAt_afterSegment (u := .symbol name) rfl
      (h.next (by simp) fun _ => Grammar.tail_symbol_iff) ts (hp.next (by simp)) ho
  | .star name :: ts, hp, ho => by
    rw [afterSlash, Plan.firstFault?] at ho
    cases ts with
    | nil => cases ho
    | cons t ts =>
      obtain rfl := Option.some.inj ho
      have hnext := h.next (t := .star name) (by simp) fun _ => Grammar.tail_star_iff
      have hplace := hp.next (by simp)
      exact hnext.pointsAt ⟨[], rfl⟩ (fun us hus => by cases hus) (fun _ => hplace.ne_closeParen)
        hplace.eq
  | .openParen :: ts, hp, ho => by
    rw [afterSlash] at ho
    exact pointsAt_inGroup h (fun _ => Grammar.tail_openParen_iff) ts hp ho
  | .slash :: ts, hp, ho | .dot :: ts, hp, ho => by
    simp only [afterSlash, Plan.firstFault?, Option.some.injEq] at ho
    subst ho
    refine h.pointsAt ⟨[], .nil⟩ (fun us hus => ?_) (fun _ => by simp) hp.eq
    cases hus with
    | groups hus => exact Grammar.not_groups_cons (by simp) _ hus
  | .closeParen :: _, hp, _ => absurd rfl hp.ne_closeParen
termination_by ts => ts.length

theorem pointsAt_afterDot {full trail rest : List Token} {closing : List Token → Prop}
    {o : Offence} (h : Expects trail Grammar.DotTail closing) : ∀ ts : List Token,
      Place full trail ts (.closeParen :: rest) → (afterDot trail ts).firstFault? = some o →
        o.PointsAtLeftmost full
  | .literal text :: ts, hp, ho => by
    rw [afterDot, firstFault?_ofLiteral] at ho
    exact pointsAt_afterSegment (u := .literal text) rfl
      (h.next (by simp) fun _ => Grammar.dotTail_literal_iff) ts (hp.next (by simp)) ho
  | .symbol name :: ts, hp, ho => by
    rw [afterDot] at ho
    exact pointsAt_afterSegment (u := .symbol name) rfl
      (h.next (by simp) fun _ => Grammar.dotTail_symbol_iff) ts (hp.next (by simp)) ho
  | [], hp, ho => by
    -- A run that is empty ends before the `)` of its group.
    simp only [afterDot, Plan.firstFault?, Option.some.injEq] at ho
    subst ho
    exact h.pointsAt ⟨[.literal ""], .literal .nil⟩ (fun us hus => by cases hus)
      (fun hnil => by cases hnil) hp.eq
  | .slash :: ts, hp, ho | .dot :: ts, hp, ho | .star _ :: ts, hp, ho
  | .openParen :: ts, hp, ho => by
    simp only [afterDot, Plan.firstFault?, Option.some.injEq] at ho
    subst ho
    exact h.pointsAt ⟨[.literal ""], .literal .nil⟩ (fun us hus => by cases hus)
      (fun hnil => by cases hnil) hp.eq
  | .closeParen :: _, hp, _ => absurd rfl hp.ne_closeParen
termination_by ts => ts.length

theorem pointsAt_afterSegment {full trail rest : List Token} {u : Token}
    {closing : List Token → Prop} {o : Offence} (hu : u.isFragment = true)
    (h : Expects (u :: trail) Grammar.Rest closing) : ∀ ts : List Token,
      Place full (u :: trail) ts rest → (afterSegment (u :: trail) ts).firstFault? = some o →
        o.PointsAtLeftmost full
  | [], _, ho => by simp [afterSegment, Plan.firstFault?] at ho
  | .slash :: ts, hp, ho => by
    rw [afterSegment] at ho
    exact pointsAt_afterSlash (h.next (by simp) fun _ => Grammar.rest_slash_iff) ts
      (hp.next (by simp)) ho
  | .dot :: ts, hp, _ => absurd rfl (hp.ne_dot hu)
  | .openParen :: ts, hp, ho => by
    rw [afterSegment] at ho
    exact pointsAt_inGroup h (fun _ => Grammar.rest_openParen_iff) ts hp ho
  | .literal _ :: ts, hp, ho | .symbol _ :: ts, hp, ho | .star _ :: ts, hp, ho => by
    simp only [afterSegment, Plan.firstFault?, Option.some.injEq] at ho
    subst ho
    refine h.pointsAt ⟨[], .nil⟩ (fun us hus => ?_) (fun _ => by simp) hp.eq
    cases hus with
    | groups hus => exact Grammar.not_groups_cons (by simp) _ hus
  | .closeParen :: _, hp, _ => absurd rfl hp.ne_closeParen
termination_by ts => ts.length

theorem pointsAt_inGroup {full trail rest : List Token} {run closing : List Token → Prop}
    {o : Offence} (h : Expects trail run closing)
    (hiff : ∀ us, run (.openParen :: us) ↔ Grammar.Groups (.openParen :: us)) (ts : List Token)
    (hp : Place full trail (.openParen :: ts) rest)
    (ho : (inGroup (.openParen :: trail) ts).firstFault? = some o) : o.PointsAtLeftmost full := by
  obtain ⟨inner, after, hclose, hinner, hafter⟩ := hp.group
  obtain ⟨hlt, hlt'⟩ := closeGroup?_length hclose
  rw [closeGroup?_append hclose, inGroup_of_balanced hinner.balanced, Groups.firstFault?] at ho
  cases hbody : (groupBody (.openParen :: trail) inner).firstFault? with
  | some o' =>
    rw [hbody, Option.some_or] at ho
    obtain rfl := Option.some.inj ho
    exact pointsAt_groupBody (h.openParen hiff) inner hinner hbody
  | none =>
    rw [hbody, Option.none_or] at ho
    have hgram := body_of_faultless _ inner ((Plan.firstFault?_eq_none_iff _).mp hbody)
    exact pointsAt_afterGroup (h.closeParen hiff hgram) after hafter ho
termination_by ts.length
decreasing_by
  · exact hlt'
  · exact hlt

theorem pointsAt_groupBody {full trail rest : List Token} {closing : List Token → Prop}
    {o : Offence} (h : Expects trail Grammar.Body closing) : ∀ ts : List Token,
      Place full trail ts (.closeParen :: rest) → (groupBody trail ts).firstFault? = some o →
        o.PointsAtLeftmost full
  | [], _, ho => by simp [groupBody, Plan.firstFault?] at ho
  | .slash :: ts, hp, ho => by
    rw [groupBody] at ho
    exact pointsAt_afterSlash (h.next (by simp) fun _ => Grammar.body_slash_iff) ts
      (hp.next (by simp)) ho
  | .dot :: ts, hp, ho => by
    rw [groupBody] at ho
    exact pointsAt_afterDot (h.next (by simp) fun _ => Grammar.body_dot_iff) ts
      (hp.next (by simp)) ho
  | .literal _ :: ts, hp, ho | .symbol _ :: ts, hp, ho | .star _ :: ts, hp, ho
  | .openParen :: ts, hp, ho => by
    simp only [groupBody, Plan.firstFault?, Option.some.injEq] at ho
    subst ho
    exact h.pointsAt ⟨[], .nil⟩ (fun us hus => by cases hus) (fun _ => by simp) hp.eq
  | .closeParen :: _, hp, _ => absurd rfl hp.ne_closeParen
termination_by ts => ts.length

theorem pointsAt_afterGroup {full trail rest : List Token} {closing : List Token → Prop}
    {o : Offence} (h : Expects trail Grammar.AfterGroup closing) : ∀ ts : List Token,
      Place full trail ts rest → (afterGroup trail ts).firstFault? = some o →
        o.PointsAtLeftmost full
  | [], _, ho => by simp [afterGroup, Groups.firstFault?] at ho
  | .openParen :: ts, hp, ho => by
    rw [afterGroup] at ho
    exact pointsAt_inGroup h (fun _ => Grammar.afterGroup_openParen_iff) ts hp ho
  | .slash :: ts, hp, ho | .dot :: ts, hp, ho | .literal _ :: ts, hp, ho
  | .symbol _ :: ts, hp, ho | .star _ :: ts, hp, ho => by
    simp only [afterGroup, Groups.firstFault?, Option.some.injEq] at ho
    subst ho
    refine h.pointsAt ⟨[], .inl rfl⟩ (fun us hus => ?_) (fun _ => by simp) hp.eq
    exact Grammar.not_groups_cons (by simp) us (hus.resolve_left (by simp))
  | .closeParen :: _, hp, _ => absurd rfl hp.ne_closeParen
termination_by ts => ts.length

end

/-- Behind the first `/` the rest of the pattern is expected. -/
theorem expects_slash : Expects [.slash] Grammar.Tail (· = []) where
  grammatical_iff ts := by
    constructor
    · intro h
      cases h with
      | slash h => exact ⟨ts, [], (List.append_nil ts).symm, h, rfl⟩
    · rintro ⟨us, _, rfl, hus, rfl⟩
      rw [List.append_nil]
      exact .slash hus
  exists_closing := ⟨[], rfl⟩
  eq_closeParen := nofun

/-- No dot is cut off the end of a fragment. -/
theorem Canonical.not_dot_behind {ts : List Token} (h : Canonical ts) {t : Token}
    (ht : t.isFragment = true) : ¬ [t, .dot] <:+: ts := by
  rintro ⟨before, after, rfl⟩
  obtain ⟨-, hchain⟩ := canonical_iff.mp h
  rw [List.append_assoc] at hchain
  have hpair := (List.isChain_append.mp hchain).2.1
  cases (List.isChain_cons_cons.mp hpair).1 ht

/-- **The first fault of a plan is told where its tokens cease to begin a pattern.** -/
theorem pointsAtLeftmost_ofTokens {ts : List Token} (hcheck : check ts = .ok ())
    (hts : Canonical ts) {o : Offence} (ho : (Plan.ofTokens ts).firstFault? = some o) :
    o.PointsAtLeftmost ts := by
  have hb := balanced_of_check hcheck
  match ts with
  | .slash :: ts =>
    have hp : Place (.slash :: ts) [.slash] ts [] :=
      ⟨by simp, hb.of_cons (by simp), fun _ => hts.not_dot_behind⟩
    exact pointsAt_afterSlash expects_slash ts hp ho
  | [] => cases hcheck
  | .dot :: _ | .openParen :: _ | .closeParen :: _ | .literal _ :: _ | .symbol _ :: _
  | .star _ :: _ => cases hcheck

end Pattern
end LinkRouting
