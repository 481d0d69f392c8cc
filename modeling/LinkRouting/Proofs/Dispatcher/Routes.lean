import LinkRouting.Proofs.Dispatcher.Coherence
import LinkRouting.Proofs.RouteTable.Repetition

/-! # The routes of a dispatcher

A dispatcher asks its route table only for a pattern that is not bound, and rebinds one
that is.  The table on its own would lay a bound pattern again or refuse it.  Either way it
stays the same, since what is bound was registered (`Reached.hasRegistered`), and so the
dispatcher and the table keep the same routes through any series of registrations
(`Reached.table_registerEach`).
-/
namespace LinkRouting
namespace Dispatcher
variable {η υ : Type} {log : List (String × η)} {d : Dispatcher η υ}

/-- **What is bound was registered.** -/
theorem Reached.hasRegistered (h : Reached log d) {pattern : String}
    (hbound : (d.handler? pattern).isSome) : d.table.HasRegistered pattern := by
  induction h with
  | empty => cases hbound
  | @register log d d' other handler h hreg ih =>
    rcases register_eq_ok hreg with ⟨hother, rfl⟩ | ⟨-, table, htable, rfl⟩
    · -- The routes are the same, and no pattern is bound that was not.
      apply ih
      rw [handler?_register hreg] at hbound
      split at hbound
      · next heq => rwa [heq]
      · exact hbound
    · rw [handler?_register hreg] at hbound
      split at hbound
      · next heq =>
        subst heq
        exact ⟨d.table, table, pattern, h.coherent.reachable, htable, .refl⟩
      · exact (ih hbound).leadsTo (.register .refl htable)
  | configure settings _ ih => exact (ih hbound).leadsTo (.withDecoding _ .refl)
  | withFallback handler _ ih => exact ih hbound

/-- A pattern that is not bound gets the answer of the table. -/
theorem map_table_register {pattern : String} (h : d.handler? pattern = none) (handler : η) :
    (d.register pattern handler).map Dispatcher.table = d.table.register pattern pattern := by
  rw [register, h, if_neg (by simp)]
  cases d.table.register pattern pattern with
  | error refusal => rfl
  | ok table => rfl

/-- **One registration keeps the routes those of the table.** -/
theorem Reached.table_attempt (h : Reached log d) (pattern : String) (handler : η) :
    (d.attempt pattern handler).table = d.table.attempt pattern pattern := by
  cases hbound : d.handler? pattern with
  | some old =>
    have hsome : (d.handler? pattern).isSome := by rw [hbound, Option.isSome_some]
    rw [(h.hasRegistered hsome).attempt_eq_self pattern, Dispatcher.attempt, Dispatcher.register,
      if_pos hsome]
  | none =>
    rw [RouteTable.attempt, ← map_table_register hbound handler, Dispatcher.attempt]
    cases d.register pattern handler with
    | error refusal => rfl
    | ok d' => rfl

/-- **So does a series of them.** -/
theorem Reached.table_registerEach (h : Reached log d) (series : List (String × η)) :
    (d.registerEach series).table =
      d.table.registerEach (series.map fun e => (e.1, e.1)) := by
  induction series generalizing log d with
  | nil => rfl
  | cons entry rest ih =>
    obtain ⟨pattern, handler⟩ := entry
    rw [Dispatcher.registerEach, List.map_cons, RouteTable.registerEach,
      ← h.table_attempt pattern handler]
    exact ih (h.registerEach [(pattern, handler)])

/-- **A dispatcher has the routes of a table of its own patterns.**  After any series of
registrations, in which patterns may come again and may be refused, the routes of a new
dispatcher are those of a new table that was given the same patterns.  The dispatcher accepts
a pattern that it accepted before, and answers any other as the table does. -/
theorem table_registerEach_empty (series : List (String × η)) :
    ((empty : Dispatcher η υ).registerEach series).table =
      RouteTable.empty.registerEach (series.map fun e => (e.1, e.1)) ∧
    ∀ (pattern : String) (handler : η),
      (pattern ∈ ((empty : Dispatcher η υ).accepted series).map Prod.fst →
        ∃ d', ((empty : Dispatcher η υ).registerEach series).register pattern handler = .ok d') ∧
      (pattern ∉ ((empty : Dispatcher η υ).accepted series).map Prod.fst →
        (((empty : Dispatcher η υ).registerEach series).register pattern handler).map
            Dispatcher.table =
          (RouteTable.empty.registerEach (series.map fun e => (e.1, e.1))).register
            pattern pattern) := by
  have hseries : Reached ((empty : Dispatcher η υ).accepted series).reverse
      ((empty : Dispatcher η υ).registerEach series) := by
    simpa using Reached.empty.registerEach series
  have htable := Reached.empty.table_registerEach (υ := υ) series
  have hbound : ∀ pattern, pattern ∈ ((empty : Dispatcher η υ).accepted series).map Prod.fst ↔
      (((empty : Dispatcher η υ).registerEach series).handler? pattern).isSome := by
    intro pattern
    rw [hseries.coherent.handler?_eq, ← mem_map_fst_iff, List.map_reverse, List.mem_reverse]
  refine ⟨htable, fun pattern handler => ⟨fun hmem => ?_, fun hmem => ?_⟩⟩
  · rw [hbound] at hmem
    exact ⟨_, by rw [register, if_pos hmem]⟩
  · rw [hbound, Option.not_isSome_iff_eq_none] at hmem
    rw [map_table_register hmem, htable]
    rfl

/-- `/a(/:b)` comes again after `/c(`, which is refused, and after `/a/d`; the table refuses
it then as ambiguous. -/
theorem table_registerEach_empty_again :
    ∃ d : Dispatcher Nat Nat, ∃ r : RouteTable String,
      d = empty.registerEach [("/a(/:b)", 1), ("/c(", 2), ("/a/d", 3)] ∧
      r = RouteTable.empty.registerEach
        [("/a(/:b)", "/a(/:b)"), ("/c(", "/c("), ("/a/d", "/a/d")] ∧
      d.table = r ∧ (∃ d', d.register "/a(/:b)" 4 = .ok d') ∧
      r.register "/a(/:b)" "/a(/:b)" = .error (.unlaid .ambiguousGroup) ∧
      (d.register "/c(" 5).map Dispatcher.table = r.register "/c(" "/c(" := by
  have haccepted : ((empty : Dispatcher Nat Nat).accepted
      [("/a(/:b)", 1), ("/c(", 2), ("/a/d", 3)]).map Prod.fst = ["/a(/:b)", "/a/d"] := by cbv
  have hrefused : (RouteTable.empty.registerEach
      [("/a(/:b)", "/a(/:b)"), ("/c(", "/c("), ("/a/d", "/a/d")]).register "/a(/:b)" "/a(/:b)" =
        .error (.unlaid .ambiguousGroup) := by cbv
  obtain ⟨htable, hanswers⟩ := table_registerEach_empty (υ := Nat)
    [("/a(/:b)", 1), ("/c(", 2), ("/a/d", 3)]
  rw [haccepted] at hanswers
  exact ⟨_, _, rfl, rfl, htable, (hanswers "/a(/:b)" 4).1 (by decide), hrefused,
    (hanswers "/c(" 5).2 (by decide)⟩

end Dispatcher
end LinkRouting
