import LinkRouting.Pattern.Grammar
import LinkRouting.Pattern.Plan
import LinkRouting.Proofs.Pattern.Choices

/-! # The routes of a plan

A plan that comes upon no fault (`Faultless`) is that of a pattern of the
grammar, and asks for one route for each choice of the pattern's groups.
`Plan.routes` lists these routes as they are laid: groups from left to right, each
behind all the routes that there are before it.  Of these the shorter come first,
which is an order of its own, but not for routes that continue one another.
-/
namespace LinkRouting
namespace Pattern

mutual

/-- Nothing in the plan is a fault. -/
def Plan.Faultless : Plan → Prop
  | .stop => True
  | .exact _ rest => rest.Faultless
  | .capture _ rest => rest.Faultless
  | .groups gs => gs.Faultless
  | .fault _ => False

/-- Nothing in the groups is a fault. -/
def Groups.Faultless : Groups → Prop
  | .done => True
  | .group body rest => body.Faultless ∧ rest.Faultless
  | .fault _ => False

end

/-- Lists from the shortest to the longest. -/
def shortestFirst {α : Type} (xs : List (List α)) : List (List α) :=
  xs.mergeSort fun x y => decide (x.length ≤ y.length)

theorem mem_shortestFirst {α : Type} {xs : List (List α)} {x : List α} :
    x ∈ shortestFirst xs ↔ x ∈ xs :=
  List.mem_mergeSort

theorem pairwise_shortestFirst {α : Type} (xs : List (List α)) :
    (shortestFirst xs).Pairwise fun x y => x.length ≤ y.length := by
  refine (List.pairwise_mergeSort ?_ ?_ xs).imp of_decide_eq_true
  · intro x y z hxy hyz
    have := of_decide_eq_true hxy
    have := of_decide_eq_true hyz
    exact decide_eq_true (by omega)
  · intro x y
    rw [Bool.or_eq_true, decide_eq_true_iff, decide_eq_true_iff]
    omega

mutual

/-- The routes that a plan asks for, in the order in which they are laid. -/
def Plan.routes : Plan → List (List Step)
  | .stop => [[]]
  | .exact token rest => rest.routes.map (.exact token :: ·)
  | .capture name rest => rest.routes.map (.capture name :: ·)
  | .groups gs => gs.routesAfter [[]]
  | .fault _ => []

/-- The routes of groups that follow the routes laid so far, with these. -/
def Groups.routesAfter : Groups → List (List Step) → List (List Step)
  | .done, ends => ends
  | .group body rest, ends =>
    rest.routesAfter
      (ends ++ (shortestFirst ends).flatMap fun way => body.routes.map (way ++ ·))
  | .fault _, _ => []

end

/-- What groups add does not depend on the routes that it is added to. -/
theorem Groups.mem_routesAfter (gs : Groups) (ends : List (List Step)) {route : List Step} :
    route ∈ gs.routesAfter ends ↔
      ∃ way ∈ ends, ∃ rest ∈ gs.routesAfter [[]], route = way ++ rest := by
  match gs with
  | .done => simp [routesAfter]
  | .fault _ => simp [routesAfter]
  | .group body rest =>
    rw [routesAfter, rest.mem_routesAfter, routesAfter]
    simp only [rest.mem_routesAfter ([[]] ++ _), List.mem_append, List.mem_flatMap,
      mem_shortestFirst, List.mem_map]
    constructor
    · rintro ⟨way, hway | ⟨way, hway, b, hb, rfl⟩, r, hr, rfl⟩
      · exact ⟨way, hway, r, ⟨[], .inl (by simp), r, hr, rfl⟩, rfl⟩
      · exact ⟨way, hway, b ++ r, ⟨b, .inr ⟨[], by simp, b, hb, rfl⟩, r, hr, rfl⟩,
          List.append_assoc ..⟩
    · rintro ⟨way, hway, _, ⟨b, hb, r, hr, rfl⟩, rfl⟩
      refine ⟨way ++ b, ?_, r, hr, (List.append_assoc ..).symm⟩
      rcases hb with hb | ⟨_, hnil, b, hb, rfl⟩
      · obtain rfl := List.mem_singleton.mp hb
        exact .inl (by simpa using hway)
      · obtain rfl := List.mem_singleton.mp hnil
        exact .inr ⟨way, hway, b, hb, rfl⟩

mutual

theorem Plan.routes_ne_nil : ∀ plan : Plan, plan.Faultless → plan.routes ≠ []
  | .stop, _ => List.cons_ne_nil _ _
  | .exact _ rest, h => by simpa [Plan.routes] using rest.routes_ne_nil h
  | .capture _ rest, h => by simpa [Plan.routes] using rest.routes_ne_nil h
  | .groups gs, h => gs.routesAfter_ne_nil h (List.cons_ne_nil _ _)

theorem Groups.routesAfter_ne_nil : ∀ gs : Groups, gs.Faultless → ∀ {ends : List (List Step)},
    ends ≠ [] → gs.routesAfter ends ≠ []
  | .done, _, _, hends => hends
  | .group _ rest, h, _, hends =>
    rest.routesAfter_ne_nil h.2 fun hnil => hends (List.append_eq_nil_iff.mp hnil).1

end

end Pattern
end LinkRouting
