import LinkRouting.Proofs.RouteTable.Acceptance
import LinkRouting.Proofs.RouteTable.Growth

/-! # Registering a pattern again

A pattern that a table has registered can be registered again without any change to the
table: all its routes end where they ended before (`HasRegistered.isEnd`), and a trie that
gains only ends that it has stays the same.  But the table may refuse the pattern as
ambiguous, namely if something leads on from where the first group begins by now
(`GroupsMeet`).

If nothing was registered in between, only the routes of the pattern itself lead on from
there, and they do so just if some group is not empty (`Grammatical.passesLead_iff`).
-/
namespace LinkRouting

namespace Pattern

/-- Some group has something in it. -/
def HasFullGroup (ts : List Token) : Prop :=
  ∃ t, t ≠ .closeParen ∧ [.openParen, t] <:+: ts

theorem not_hasFullGroup_nil : ¬ HasFullGroup [] := by
  rintro ⟨t, -, hin⟩
  cases List.infix_nil.mp hin

theorem hasFullGroup_cons {t : Token} (ht : t ≠ .openParen) (ts : List Token) :
    HasFullGroup (t :: ts) ↔ HasFullGroup ts := by
  refine exists_congr fun u => and_congr_right fun _ => ?_
  rw [List.infix_cons_iff, List.cons_prefix_cons]
  exact or_iff_right fun h => ht h.1.symm

/-- An empty group counts for nothing. -/
theorem hasFullGroup_empty_group (ts : List Token) :
    HasFullGroup (.openParen :: .closeParen :: ts) ↔ HasFullGroup ts := by
  rw [← hasFullGroup_cons (t := .closeParen) (by simp) ts]
  refine exists_congr fun u => and_congr_right fun hu => ?_
  rw [List.infix_cons_iff, List.cons_prefix_cons, List.cons_prefix_cons]
  exact or_iff_right fun h => hu h.2.1

/-- A body that is not empty begins with a separator, and so does every way through it. -/
theorem Grammar.Body.steps_ne_nil {body way : List Token} (h : Grammar.Body body)
    (hne : body ≠ []) (hway : way ∈ choices body) : steps way ≠ [] := by
  cases h with
  | nil => exact absurd rfl hne
  | slash h =>
    obtain ⟨rest, -, rfl⟩ := (mem_choices_cons (t := .slash) h.balanced (by simp) (by simp)).mp hway
    rw [steps_cons]
    exact List.cons_ne_nil _ _
  | dot h =>
    obtain ⟨rest, -, rfl⟩ := (mem_choices_cons (t := .dot) h.balanced (by simp) (by simp)).mp hway
    rw [steps_cons]
    exact List.cons_ne_nil _ _

/-- Some way through the tokens has steps. -/
def HasSteps (ts : List Token) : Prop :=
  ∃ way ∈ choices ts, steps way ≠ []

theorem not_hasSteps_nil : ¬ HasSteps [] := by
  rintro ⟨way, hway, hne⟩
  rw [choices_nil, List.mem_singleton] at hway
  subst hway
  exact hne steps_nil

theorem hasSteps_empty_group {ts : List Token} (h : Balanced ts) :
    HasSteps (.openParen :: .closeParen :: ts) ↔ HasSteps ts := by
  have hmem : ∀ way, way ∈ choices (.openParen :: .closeParen :: ts) ↔ way ∈ choices ts := by
    intro way
    refine (mem_choices_group .nil h).trans ?_
    rw [choices_nil]
    simp
  simp only [HasSteps, hmem]

/-- A group with something in it has steps, whatever follows it. -/
theorem Grammar.Body.hasSteps {body after : List Token} (h : Grammar.Body body) (hne : body ≠ [])
    (ha : Balanced after) : HasSteps (.openParen :: body ++ .closeParen :: after) := by
  obtain ⟨first, hfirst⟩ := h.balanced.exists_mem_choices
  obtain ⟨rest, hrest⟩ := ha.exists_mem_choices
  refine ⟨first ++ rest, ?_, ?_⟩
  · exact (mem_choices_group h.balanced ha).mpr ⟨first, .inr hfirst, rest, hrest, rfl⟩
  · rw [steps_append]
    exact List.append_ne_nil_of_left_ne_nil (h.steps_ne_nil hne hfirst) _

theorem Grammar.Body.hasFullGroup {body after : List Token} (h : Grammar.Body body)
    (hne : body ≠ []) : HasFullGroup (.openParen :: body ++ after) := by
  cases h with
  | nil => exact absurd rfl hne
  | @slash ts _ => exact ⟨.slash, by simp, [], ts ++ after, rfl⟩
  | @dot ts _ => exact ⟨.dot, by simp, [], ts ++ after, rfl⟩

/-- A group more leaves it at that. -/
theorem Grammar.Body.hasSteps_iff {body after : List Token} (h : Grammar.Body body)
    (ha : Balanced after) (hiff : HasSteps after ↔ HasFullGroup after) :
    HasSteps (.openParen :: body ++ .closeParen :: after) ↔
      HasFullGroup (.openParen :: body ++ .closeParen :: after) := by
  by_cases hne : body = []
  · subst hne
    exact (hasSteps_empty_group ha).trans (hiff.trans (hasFullGroup_empty_group after).symm)
  · exact iff_of_true (h.hasSteps hne ha) (h.hasFullGroup hne)

/-- Some route of the tokens leads on from where their first group begins. -/
def PassesLead (ts : List Token) : Prop :=
  ∃ route ∈ routes ts, ∃ l, leadLabels ts ++ [l] <+: route

theorem not_passesLead_nil : ¬ PassesLead [] := by
  rintro ⟨route, hroute, l, hp⟩
  obtain rfl : route = [] := List.mem_singleton.mp hroute
  exact List.concat_ne_nil l _ (List.prefix_nil.mp hp)

theorem leadLabels_cons {t : Token} (ht : t ≠ .openParen) (ts : List Token) :
    leadLabels (t :: ts) = t.steps.map Step.label ++ leadLabels ts := by
  rw [leadLabels, beforeGroups_cons ht, steps_cons, List.map_append]
  rfl

theorem passesLead_cons {t : Token} {ts : List Token} (h : Balanced ts) (ho : t ≠ .openParen)
    (hc : t ≠ .closeParen) : PassesLead (t :: ts) ↔ PassesLead ts := by
  have hroutes : routes (t :: ts) = (routes ts).map (t.steps.map Step.label ++ ·) := by
    rw [routes, h.independent.choices_cons ho hc, routes, List.map_map, List.map_map]
    refine List.map_congr_left fun way _ => ?_
    rw [Function.comp_apply, Function.comp_apply, steps_cons, List.map_append]
  rw [PassesLead, hroutes, leadLabels_cons ho]
  simp only [List.mem_map, exists_exists_and_eq_and, List.append_assoc,
    List.prefix_append_right_inj]
  rfl

theorem passesLead_openParen (ts : List Token) :
    PassesLead (.openParen :: ts) ↔ HasSteps (.openParen :: ts) := by
  have hlead : leadLabels (.openParen :: ts) = [] := rfl
  rw [PassesLead, hlead, HasSteps, routes]
  simp only [List.mem_map, exists_exists_and_eq_and, List.nil_append]
  refine exists_congr fun way => and_congr_right fun _ => ?_
  cases steps way with
  | nil => simp
  | cons s ss => simp

/-- A token before the first group changes nothing. -/
theorem passesLead_iff_cons {t : Token} {ts : List Token} (h : Balanced ts) (ho : t ≠ .openParen)
    (hc : t ≠ .closeParen) (hiff : PassesLead ts ↔ HasFullGroup ts) :
    PassesLead (t :: ts) ↔ HasFullGroup (t :: ts) := by
  rw [passesLead_cons h ho hc, hasFullGroup_cons ho, hiff]

theorem passesLead_iff_nil : PassesLead [] ↔ HasFullGroup [] :=
  iff_of_false not_passesLead_nil not_hasFullGroup_nil

/-- Where groups are first, their own steps are what leads on. -/
theorem Grammar.Groups.passesLead_iff {ts : List Token} (h : Grammar.Groups ts) :
    PassesLead ts ↔ HasSteps ts := by
  obtain ⟨us, rfl, -⟩ := h.isOf
  exact passesLead_openParen us

mutual

theorem Grammar.Tail.passesLead_iff {ts : List Token} :
    Grammar.Tail ts → (PassesLead ts ↔ HasFullGroup ts)
  | .nil => passesLead_iff_nil
  | .literal h => passesLead_iff_cons h.balanced (by simp) (by simp) h.passesLead_iff
  | .symbol h => passesLead_iff_cons h.balanced (by simp) (by simp) h.passesLead_iff
  | .star => passesLead_iff_cons .nil (by simp) (by simp) passesLead_iff_nil
  | .groups h => h.passesLead_iff.trans h.hasSteps_iff

theorem Grammar.Rest.passesLead_iff {ts : List Token} :
    Grammar.Rest ts → (PassesLead ts ↔ HasFullGroup ts)
  | .nil => passesLead_iff_nil
  | .slash h => passesLead_iff_cons h.balanced (by simp) (by simp) h.passesLead_iff
  | .dot h => passesLead_iff_cons h.balanced (by simp) (by simp) h.passesLead_iff
  | .groups h => h.passesLead_iff.trans h.hasSteps_iff

theorem Grammar.DotTail.passesLead_iff {ts : List Token} :
    Grammar.DotTail ts → (PassesLead ts ↔ HasFullGroup ts)
  | .literal h => passesLead_iff_cons h.balanced (by simp) (by simp) h.passesLead_iff
  | .symbol h => passesLead_iff_cons h.balanced (by simp) (by simp) h.passesLead_iff

/-- Groups side by side have steps if one of them is not empty. -/
theorem Grammar.Groups.hasSteps_iff {ts : List Token} :
    Grammar.Groups ts → (HasSteps ts ↔ HasFullGroup ts)
  | .last h => h.hasSteps_iff .nil (iff_of_false not_hasSteps_nil not_hasFullGroup_nil)
  | .cons h k => h.hasSteps_iff k.balanced k.hasSteps_iff

end

/-- **A route leads on from where the first group begins just if some group is not empty.** -/
theorem Grammatical.passesLead_iff {ts : List Token} (h : Grammatical ts) :
    PassesLead ts ↔ HasFullGroup ts := by
  cases h with
  | slash h => exact passesLead_iff_cons h.balanced (by simp) (by simp) h.passesLead_iff

end Pattern

namespace RouteTable
open Pattern (HasFullGroup)

variable {ι : Type} {r r' before : RouteTable ι} {pattern : String} {i : ι}

/-! ### What is kept of a pattern -/

theorem LeadsTo.extends (h : r.LeadsTo r') (hr : r.Reachable) : r.trie.Extends r'.trie := by
  induction h with
  | refl => exact .refl _
  | register hleads hreg ih => exact ih.trans (register_extends (hr.leadsTo hleads).wellFormed hreg)
  | withDecoding decode hleads ih => exact ih

theorem HasRegistered.reachable (h : r.HasRegistered pattern) : r.Reachable := by
  obtain ⟨before, first, i, hbefore, hreg, hleads⟩ := h
  exact (hbefore.register hreg).leadsTo hleads

theorem HasRegistered.grammatical (h : r.HasRegistered pattern) :
    Pattern.Grammatical (Pattern.scan pattern) := by
  obtain ⟨before, first, i, hbefore, hreg, -⟩ := h
  exact (register_gains hbefore.wellFormed hreg).1

/-- **All routes of a pattern that was registered end somewhere.** -/
theorem HasRegistered.isEnd (h : r.HasRegistered pattern) {ls : List Label}
    (hls : ls ∈ Pattern.routes (Pattern.scan pattern)) : (r.trie.routeAt? ls).isSome := by
  have hr := h.reachable
  obtain ⟨before, first, i, hbefore, hreg, hleads⟩ := h
  have hfirst := hbefore.register hreg
  have hend : (first.trie.routeAt? ls).isSome := by
    rw [routeAt?_register hbefore.wellFormed hreg, if_pos hls, Option.isSome_or, Option.isSome_some,
      Bool.or_true]
  obtain ⟨v, hv⟩ := Option.isSome_iff_exists.mp (Trie.hasVertex_of_isEnd hend)
  rw [Trie.routeAt?_of_follow? hv] at hend
  obtain ⟨j, hj⟩ := Option.isSome_iff_exists.mp hend
  have hext := hleads.extends hfirst
  rw [Trie.routeAt?_of_follow? (hext.follow?_eq_some hfirst.wellFormed hr.wellFormed hv),
    hext.identifier_eq_some hj, Option.isSome_some]

/-- **A pattern that is accepted again changes nothing.** -/
theorem HasRegistered.register_eq_self (h : r.HasRegistered pattern)
    (hreg : r.register pattern i = .ok r') : r' = r := by
  obtain ⟨hgram, hwf, hg⟩ := register_gains h.reachable.wellFormed hreg
  have htrie : r'.trie = r.trie := by
    refine hg.eq_self h.reachable.wellFormed hwf fun b hb => ?_
    obtain ⟨route, hroute, rfl⟩ := List.mem_map.mp hb
    exact h.isEnd ((Pattern.mem_routes_iff hgram _).mpr ⟨route, hroute, rfl⟩)
  obtain ⟨-, t, -, rfl⟩ := register_eq_ok hreg
  obtain rfl : t = r.trie := htrie
  rfl

/-- Accepted again or refused, a pattern that was registered changes nothing. -/
theorem HasRegistered.attempt_eq_self (h : r.HasRegistered pattern) (j : ι) :
    r.attempt pattern j = r := by
  unfold RouteTable.attempt
  split
  · next hreg => exact h.register_eq_self hreg
  · rfl

/-! ### When it is accepted again -/

/-- The pattern has groups, and something leads on from where the first of them begins. -/
def GroupsMeet (r : RouteTable ι) (pattern : String) : Prop :=
  '(' ∈ pattern.toList ∧ r.trie.GoesOn (Pattern.leadLabels (Pattern.scan pattern))

/-- **A pattern that one table accepts is refused by another just if its groups meet routes
there**, and then as ambiguous. -/
theorem answer_of_accepted (ht : before.trie.WellFormed)
    (hreg : before.register pattern i = .ok r) (hr' : r'.trie.WellFormed) (j : ι) :
    (r'.GroupsMeet pattern ∧ r'.answer pattern j = .error (.unlaid .ambiguousGroup)) ∨
      (¬ r'.GroupsMeet pattern ∧ r'.answer pattern j = .ok ()) := by
  have hok : before.answer pattern i = .ok () := answer_eq_ok_iff.mpr ⟨r, hreg⟩
  cases answerOf_of_check (ι := ι) (register_eq_ok hreg).1 with
  | accepted h ok => exact .inr ⟨fun hmeet => h hmeet.1, ok r' j hr'⟩
  | stopped after h error => cases hok.symm.trans (error before i ht)
  | groups h ambiguous same later =>
    have hbefore : ¬ before.trie.GoesOn (Pattern.leadLabels (Pattern.scan pattern)) := by
      intro hgo
      cases hok.symm.trans (ambiguous before i ht hgo)
    by_cases hgo : r'.trie.GoesOn (Pattern.leadLabels (Pattern.scan pattern))
    · exact .inl ⟨⟨h, hgo⟩, ambiguous r' j hr' hgo⟩
    · exact .inr ⟨fun hmeet => hgo hmeet.2, (same r' before j i hr' ht hgo hbefore).trans hok⟩

/-- A pattern that was registered is accepted without a change, or its groups meet routes. -/
theorem HasRegistered.register_cases (h : r.HasRegistered pattern) (j : ι) :
    (r.GroupsMeet pattern ∧ r.register pattern j = .error (.unlaid .ambiguousGroup)) ∨
      (¬ r.GroupsMeet pattern ∧ r.register pattern j = .ok r) := by
  have hr := h.reachable
  have ⟨before, first, i, hbefore, hreg, _⟩ := h
  rcases answer_of_accepted hbefore.wellFormed hreg hr.wellFormed j with
    ⟨hmeet, hamb⟩ | ⟨hnot, hok⟩
  · exact .inl ⟨hmeet, answer_eq_error_iff.mp hamb⟩
  · obtain ⟨s, hs⟩ := answer_eq_ok_iff.mp hok
    rw [hs, h.register_eq_self hs]
    exact .inr ⟨hnot, rfl⟩

/-- Where a group with something in it was laid, its routes lead on. -/
theorem HasRegistered.groupsMeet (h : r.HasRegistered pattern)
    (hfull : HasFullGroup (Pattern.scan pattern)) : r.GroupsMeet pattern := by
  obtain ⟨route, hroute, l, hp⟩ := h.grammatical.passesLead_iff.mpr hfull
  have hvertex := (Trie.hasVertex_of_isEnd (h.isEnd hroute)).of_isPrefix hp
  obtain ⟨t, -, hin⟩ := hfull
  exact ⟨(Pattern.mem_toList_iff _).mpr (hin.subset List.mem_cons_self),
    Trie.goesOn_iff.mpr ⟨l, hvertex⟩⟩

/-- Where only empty groups were laid at once, nothing leads on. -/
theorem not_groupsMeet_register (ht : before.trie.WellFormed)
    (hreg : before.register pattern i = .ok r)
    (hempty : ¬ HasFullGroup (Pattern.scan pattern)) : ¬ r.GroupsMeet pattern := by
  rintro ⟨hmem, hgo⟩
  obtain ⟨l, hl⟩ := Trie.goesOn_iff.mp hgo
  rcases (hasVertex_register ht hreg _).mp hl with hold | ⟨route, hroute, hp⟩
  · -- The pattern would not have been accepted in the first place.
    rcases answer_of_accepted ht hreg ht i with ⟨-, hamb⟩ | ⟨hnot, -⟩
    · cases (answer_eq_error_iff.mp hamb).symm.trans hreg
    · exact hnot ⟨hmem, Trie.goesOn_iff.mpr ⟨l, hold⟩⟩
  · exact hempty ((register_gains ht hreg).1.passesLead_iff.mp ⟨route, hroute, l, hp⟩)

/-- **Registering a pattern again changes nothing.**  A table that has a pattern registered,
under whatever identifier and with whatever registered since, stays the same when the pattern
comes again under any identifier: it accepts the pattern without a change, or refuses it as
ambiguous.  It accepts a pattern without groups, and refuses one with a group that is not
empty.  A pattern that comes again at once is accepted just if all its groups are empty. -/
theorem HasRegistered.register_again (h : r.HasRegistered pattern) (j : ι) :
    r.attempt pattern j = r ∧
    (r.register pattern j = .ok r ∨ r.register pattern j = .error (.unlaid .ambiguousGroup)) ∧
    ('(' ∉ pattern.toList → r.register pattern j = .ok r) ∧
    (HasFullGroup (Pattern.scan pattern) →
      r.register pattern j = .error (.unlaid .ambiguousGroup)) ∧
    ∀ (before : RouteTable ι) (i : ι), before.Reachable → before.register pattern i = .ok r →
      (r.register pattern j = .ok r ↔ ¬ HasFullGroup (Pattern.scan pattern)) := by
  refine ⟨h.attempt_eq_self j, ?_⟩
  rcases h.register_cases j with ⟨hmeet, hamb⟩ | ⟨hnot, hok⟩
  · have hrefused : r.register pattern j ≠ .ok r := fun hok => by cases hamb.symm.trans hok
    refine ⟨.inr hamb, fun hno => absurd hmeet.1 hno, fun _ => hamb, fun before i hbefore hreg => ?_⟩
    refine iff_of_false hrefused fun hempty => ?_
    exact not_groupsMeet_register hbefore.wellFormed hreg hempty hmeet
  · have hempty : ¬ HasFullGroup (Pattern.scan pattern) := fun hfull => hnot (h.groupsMeet hfull)
    exact ⟨.inl hok, fun _ => hok, fun hfull => absurd hfull hempty,
      fun _ _ _ _ => iff_of_true hok hempty⟩

/-- After `/a` and `/b()`, the second is accepted again; `/a(/:c)` is not, but leaves the
table as it is. -/
theorem HasRegistered.register_again_groups :
    ∃ r s : RouteTable Nat, r.HasRegistered "/a" ∧ r.HasRegistered "/b()" ∧
      s = RouteTable.empty.registerEach [("/a", 3), ("/b()", 4), ("/a(/:c)", 5)] ∧
      r.register "/a" 7 = .ok r ∧ r.register "/b()" 8 = .ok r ∧
      s.HasRegistered "/a(/:c)" ∧ s.attempt "/a(/:c)" 9 = s ∧
      s.register "/a(/:c)" 9 = .error (.unlaid .ambiguousGroup) := by
  have h0 : RouteTable.empty.register "/a" 3 = .ok (RouteTable.empty.registerEach [("/a", 3)]) := by
    cbv
  have h1 : (RouteTable.empty.registerEach [("/a", 3)]).register "/b()" 4 =
      .ok (RouteTable.empty.registerEach [("/a", 3), ("/b()", 4)]) := by cbv
  have h2 : (RouteTable.empty.registerEach [("/a", 3), ("/b()", 4)]).register "/a(/:c)" 5 =
      .ok (RouteTable.empty.registerEach [("/a", 3), ("/b()", 4), ("/a(/:c)", 5)]) := by cbv
  have hr0 : (RouteTable.empty.registerEach [("/a", 3)]).Reachable := Reachable.empty.registerEach _
  have hr1 := hr0.register h1
  have ha : (RouteTable.empty.registerEach [("/a", 3), ("/b()", 4)]).HasRegistered "/a" :=
    ⟨_, _, 3, .empty, h0, LeadsTo.refl.register h1⟩
  have hb : (RouteTable.empty.registerEach [("/a", 3), ("/b()", 4)]).HasRegistered "/b()" :=
    ⟨_, _, 4, hr0, h1, .refl⟩
  have hc : (RouteTable.empty.registerEach
      [("/a", 3), ("/b()", 4), ("/a(/:c)", 5)]).HasRegistered "/a(/:c)" :=
    ⟨_, _, 5, hr1, h2, .refl⟩
  have hbscan : Pattern.scan "/b()" = [.slash, .literal "b", .openParen, .closeParen] := by cbv
  have hbempty : ¬ HasFullGroup (Pattern.scan "/b()") := by
    rw [hbscan, Pattern.hasFullGroup_cons (by simp), Pattern.hasFullGroup_cons (by simp),
      Pattern.hasFullGroup_empty_group]
    exact Pattern.not_hasFullGroup_nil
  have hcscan : Pattern.scan "/a(/:c)" =
      [.slash, .literal "a", .openParen, .slash, .symbol "c", .closeParen] := by cbv
  have hcfull : HasFullGroup (Pattern.scan "/a(/:c)") := by
    rw [hcscan]
    exact ⟨.slash, by simp, [.slash, .literal "a"], [.symbol "c", .closeParen], rfl⟩
  obtain ⟨-, -, hplain, -, -⟩ := ha.register_again 7
  obtain ⟨-, -, -, -, hatonce⟩ := hb.register_again 8
  obtain ⟨hsame, -, -, hrefused, -⟩ := hc.register_again 9
  exact ⟨_, _, ha, hb, rfl, hplain (by decide), (hatonce _ 4 hr0 h1).mpr hbempty, hc, hsame,
    hrefused hcfull⟩

end RouteTable
end LinkRouting
