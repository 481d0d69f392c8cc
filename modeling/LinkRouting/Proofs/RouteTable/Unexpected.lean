import LinkRouting.Proofs.Pattern.Viable
import LinkRouting.Proofs.RouteTable.Acceptance
import LinkRouting.Proofs.Trie.FirstFault

/-! # Where a pattern ceases to be one

If a token of a pattern is told to be unexpected, the text that is told is that of the tokens
before it.  It does not matter that a group's body is laid once for each end before it, nor
what else is registered: laying stops at the first fault of the plan, and the first fault is
where the tokens cease to begin a pattern (`register_unexpected`).
-/
namespace LinkRouting
namespace RouteTable
open Pattern (Grammatical)

variable {ι : Type} {r : RouteTable ι} {pattern told : String} {i : ι} {e : Refusal}

/-- What is told about a token that is not expected is the first fault of the plan. -/
theorem firstFault?_of_register (hr : r.Reachable)
    (hcheck : Pattern.check (Pattern.scan pattern) = .ok ())
    (h : r.register pattern i = .error e) (he : e.offence = .unexpected told) :
    (Pattern.Plan.ofTokens (Pattern.scan pattern)).firstFault? = some (.unexpected told) := by
  rw [← answer_eq_error_iff] at h
  have hunlaid : e = .unlaid (.unexpected told) := by
    rw [answer_of_check hcheck] at h
    cases hlay : Trie.lay i (.ofTokens (Pattern.scan pattern)) r.trie Trie.root with
    | ok t =>
      rw [hlay] at h
      cases h
    | error o =>
      rw [hlay] at h
      obtain rfl : Refusal.unlaid o = e := Except.error.inj h
      exact congrArg Refusal.unlaid he
  rw [hunlaid, answer_eq_unlaid_iff hcheck] at h
  rcases Trie.lay_error_firstFault i _ hr.wellFormed (Trie.follow?_nil _ _) h with hamb | hfirst
  · cases hamb
  · exact hfirst

/-- **An unexpected token is the leftmost at which the pattern ceases to be one.**  If a
pattern that passes the check is refused because a token is unexpected, the text that is told
is that of some of its tokens from the left, and not of all.  The tokens before can be
completed to a pattern of the grammar, and with the next token they cannot. -/
theorem register_unexpected (hr : r.Reachable)
    (hcheck : Pattern.check (Pattern.scan pattern) = .ok ())
    (h : r.register pattern i = .error e) (he : e.offence = .unexpected told) :
    ∃ before t after, Pattern.scan pattern = before ++ t :: after ∧
      told = Pattern.render before ∧ told.toList <+: pattern.toList ∧
      (∃ ts, Grammatical (before ++ ts)) ∧ ∀ ts, ¬ Grammatical (before ++ t :: ts) := by
  have hfirst := firstFault?_of_register hr hcheck h he
  obtain ⟨before, t, after, hscan, htold, hviable, hnot⟩ :=
    Pattern.pointsAtLeftmost_ofTokens hcheck (Pattern.canonical_scan pattern) hfirst
  obtain rfl : told = Pattern.render before := Pattern.Offence.unexpected.inj htold
  refine ⟨before, t, after, hscan, rfl, ?_, hviable, hnot⟩
  rw [← Pattern.render_scan pattern, hscan, Pattern.toList_render, Pattern.toList_render,
    List.flatMap_append]
  exact List.prefix_append _ _

/-- In `/a(/b)(.)` the `)` of the second group is unexpected, as its `.` has to be followed. -/
theorem register_unexpected_dot :
    ∃ r : RouteTable Nat, r = RouteTable.empty.registerEach [("/c", 3)] ∧
      Pattern.check (Pattern.scan "/a(/b)(.)") = .ok () ∧
      r.register "/a(/b)(.)" 7 = .error (.unlaid (.unexpected "/a(/b)(.")) ∧
      ∃ before t after, Pattern.scan "/a(/b)(.)" = before ++ t :: after ∧
        "/a(/b)(." = Pattern.render before ∧ "/a(/b)(.".toList <+: "/a(/b)(.)".toList ∧
        (∃ ts, Grammatical (before ++ ts)) ∧ ∀ ts, ¬ Grammatical (before ++ t :: ts) := by
  have hcheck : Pattern.check (Pattern.scan "/a(/b)(.)") = .ok () := by cbv
  have h : (RouteTable.empty.registerEach [("/c", 3)]).register "/a(/b)(.)" 7 =
      .error (.unlaid (.unexpected "/a(/b)(.")) := by cbv
  exact ⟨_, rfl, hcheck, h,
    register_unexpected (Reachable.empty.registerEach [("/c", 3)]) hcheck h rfl⟩

end RouteTable
end LinkRouting
