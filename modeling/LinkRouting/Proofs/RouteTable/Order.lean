import LinkRouting.Proofs.RouteTable.Registration
import LinkRouting.Proofs.Trie.Concord

/-! # The order of registrations

If two patterns can be registered one after the other in either order, the two tables
look alike (`alike_of_orders`): they have the same vertices and the same ends by their
labels, and match the same paths.

What the order can change is who comes first.  An end that both patterns bring has the
identifier of the first, and a parameter edge that both bring has its name.  Where there
are none of these, the tables are twins (`twins_of_orders`), and nothing but the numbers
of the vertices tells them apart.
-/
namespace LinkRouting
namespace Trie
variable {ι : Type}

/-- In the second trie a route ends after these labels, and in the first none did. -/
def NewEnd (t u : Trie ι) (ls : List Label) : Prop :=
  t.routeAt? ls = none ∧ (u.routeAt? ls).isSome

/-- In the second trie a parameter edge leads on from these labels, and in the first none
did. -/
def NewParameter (t u : Trie ι) (ls : List Label) : Prop :=
  ¬ t.HasVertex (ls ++ [.parameter]) ∧ u.HasVertex (ls ++ [.parameter])

/-- The parameter edge after some labels is there if it has a name. -/
theorem newParameter_iff {t u : Trie ι} {ls : List Label} :
    t.NewParameter u ls ↔ t.nameAt? ls = none ∧ (u.nameAt? ls).isSome := by
  rw [NewParameter, ← nameAt?_isSome_iff, ← nameAt?_isSome_iff, Option.not_isSome_iff_eq_none]

end Trie

namespace RouteTable
variable {ι : Type} {r rp rq rpq rqp : RouteTable ι} {p q : String} {i j : ι}

/-- Two answers that come after a first one can change places, unless both of them are
new. -/
theorem or_right_comm_of_not_new {α : Type} {x y z : Option α}
    (h : ¬ ((x = none ∧ (x.or y).isSome) ∧ (x = none ∧ (x.or z).isSome))) :
    (x.or y).or z = (x.or z).or y := by
  cases x with
  | some a => rfl
  | none =>
    rw [Option.none_or, Option.none_or] at h ⊢
    cases y with
    | none => rw [Option.none_or, Option.or_none]
    | some a =>
      cases z with
      | none => rfl
      | some b => exact absurd ⟨⟨rfl, rfl⟩, rfl, rfl⟩ h

/-- An end that a registration brings is that of a route of the pattern. -/
theorem mem_routes_of_newEnd (ht : r.trie.WellFormed) (h : r.register p i = .ok rp)
    {ls : List Label} (hnew : r.trie.NewEnd rp.trie ls) :
    ls ∈ Pattern.routes (Pattern.scan p) := by
  obtain ⟨hold, hend⟩ := hnew
  rw [routeAt?_register ht h, hold, Option.none_or] at hend
  by_contra hmem
  rw [if_neg hmem] at hend
  cases hend

/-- A parameter edge that a registration brings is one of a route of the pattern. -/
theorem exists_route_of_newParameter (ht : r.trie.WellFormed) (h : r.register p i = .ok rp)
    {ls : List Label} (hnew : r.trie.NewParameter rp.trie ls) :
    ∃ route ∈ Pattern.routes (Pattern.scan p), ls ++ [.parameter] <+: route := by
  obtain ⟨hold, hvertex⟩ := hnew
  exact ((hasVertex_register ht h _).mp hvertex).resolve_left hold

/-- Patterns without a common route bring no common end. -/
theorem not_newEnd_of_disjoint (ht : r.trie.WellFormed) (hp : r.register p i = .ok rp)
    (hq : r.register q j = .ok rq)
    (hroutes : ∀ route ∈ Pattern.routes (Pattern.scan p),
      route ∉ Pattern.routes (Pattern.scan q)) (ls : List Label) :
    ¬ (r.trie.NewEnd rp.trie ls ∧ r.trie.NewEnd rq.trie ls) := by
  rintro ⟨hnew, hnew'⟩
  exact hroutes ls (mem_routes_of_newEnd ht hp hnew) (mem_routes_of_newEnd ht hq hnew')

/-- Patterns whose routes part before they come to a parameter bring no common parameter
edge. -/
theorem not_newParameter_of_part (ht : r.trie.WellFormed) (hp : r.register p i = .ok rp)
    (hq : r.register q j = .ok rq)
    (hroutes : ∀ route ∈ Pattern.routes (Pattern.scan p),
      ∀ route' ∈ Pattern.routes (Pattern.scan q),
        ∃ n, route.take n ≠ route'.take n ∧ .parameter ∉ route.take n) (ls : List Label) :
    ¬ (r.trie.NewParameter rp.trie ls ∧ r.trie.NewParameter rq.trie ls) := by
  rintro ⟨hnew, hnew'⟩
  obtain ⟨route, hown, rest, rfl⟩ := exists_route_of_newParameter ht hp hnew
  obtain ⟨route', hother, rest', rfl⟩ := exists_route_of_newParameter ht hq hnew'
  obtain ⟨n, hapart, hparameter⟩ := hroutes _ hown _ hother
  rcases Nat.lt_or_ge ls.length n with hlong | hshort
  · -- The parameter is among the first `n` labels.
    apply hparameter
    have hlength : (ls ++ [Label.parameter]).length ≤ n := by
      rw [List.length_append]
      exact hlong
    rw [List.take_append, List.take_of_length_le hlength]
    exact List.mem_append_left _ List.mem_concat_self
  · apply hapart
    rw [List.append_assoc, List.append_assoc, List.take_append_of_le_length hshort,
      List.take_append_of_le_length hshort]

section Orders
variable (ht : r.trie.WellFormed) (hp : r.register p i = .ok rp)
  (hpq : rp.register q j = .ok rpq) (hq : r.register q j = .ok rq)
  (hqp : rq.register p i = .ok rqp)
include ht hp hpq hq hqp

/-- **In either order the tables look alike.** -/
theorem alike_of_orders : Trie.Alike [] rpq.trie rqp.trie := by
  obtain ⟨-, htp, -⟩ := register_gains ht hp
  obtain ⟨-, htq, -⟩ := register_gains ht hq
  obtain ⟨-, htpq, -⟩ := register_gains htp hpq
  obtain ⟨-, htqp, -⟩ := register_gains htq hqp
  refine ⟨htpq, htqp, fun ls => ?_, fun ls => ?_⟩
  · rw [List.nil_append, hasVertex_register htp hpq, hasVertex_register ht hp,
      hasVertex_register htq hqp, hasVertex_register ht hq, or_right_comm]
  · rw [List.nil_append, routeAt?_register htp hpq, routeAt?_register ht hp,
      routeAt?_register htq hqp, routeAt?_register ht hq]
    simp only [Option.isSome_or, Bool.or_eq_true]
    rw [or_right_comm]

/-- **In either order the tables are twins**, unless both patterns bring one end or one
parameter edge. -/
theorem twins_of_orders
    (hends : ∀ ls, ¬ (r.trie.NewEnd rp.trie ls ∧ r.trie.NewEnd rq.trie ls))
    (hparameters : ∀ ls, ¬ (r.trie.NewParameter rp.trie ls ∧ r.trie.NewParameter rq.trie ls)) :
    Trie.Twins rpq.trie rqp.trie := by
  obtain ⟨-, htp, -⟩ := register_gains ht hp
  obtain ⟨-, htq, -⟩ := register_gains ht hq
  refine ⟨alike_of_orders ht hp hpq hq hqp, fun ls => ?_, fun ls => ?_⟩
  · have hnot := hends ls
    rw [Trie.NewEnd, Trie.NewEnd, routeAt?_register ht hp, routeAt?_register ht hq] at hnot
    rw [routeAt?_register htp hpq, routeAt?_register ht hp, routeAt?_register htq hqp,
      routeAt?_register ht hq]
    exact or_right_comm_of_not_new hnot
  · have hnot := hparameters ls
    rw [Trie.newParameter_iff, Trie.newParameter_iff, nameAt?_register ht hp,
      nameAt?_register ht hq] at hnot
    rw [nameAt?_register htp hpq, nameAt?_register ht hp, nameAt?_register htq hqp,
      nameAt?_register ht hq]
    exact or_right_comm_of_not_new hnot

end Orders

theorem decodeParameters_of_orders (hp : r.register p i = .ok rp)
    (hpq : rp.register q j = .ok rpq) (hq : r.register q j = .ok rq)
    (hqp : rq.register p i = .ok rqp) : rpq.decodeParameters = rqp.decodeParameters := by
  rw [decodeParameters_register hpq, decodeParameters_register hp, decodeParameters_register hqp,
    decodeParameters_register hq]

/-- Tables that look alike match the same paths. -/
theorem exists_matchPath_iff_of_alike {r r' : RouteTable ι} (h : Trie.Alike [] r.trie r'.trie)
    (path : String) : (∃ m, r.matchPath path = .ok m) ↔ ∃ m, r'.matchPath path = .ok m := by
  -- Whatever is bound and however it is decoded, the walks keep in step.
  have hconcord : Trie.Concord r.trie r'.trie r.decodeParameters r'.decodeParameters Eq
      fun _ _ => True := ⟨h, fun hxy => by rw [hxy], fun _ _ _ _ _ => trivial⟩
  have htokens : List.Forall₂ (Path.Token.Like Eq) (Path.scan path) (Path.scan path) :=
    List.forall₂_same.mpr fun token _ => .refl (fun _ => rfl) token
  have hsome := isSome_iff_of_rel (rel_matchPath hconcord htokens trivial)
  rw [Option.isSome_iff_exists, Option.isSome_iff_exists] at hsome
  simpa only [toOption_matchPath_eq_some_iff] using hsome

/-- **Whoever is registered first.**  If two patterns can be registered one after the other
in either order, both orders give the same vertices and the same ends, and so the same
paths are matched.  If moreover there is no end and no parameter edge that both patterns
bring, both orders give the same outline, and each path is matched with the same
identifier and the same parameters. -/
theorem register_comm (hr : r.Reachable) (hp : r.register p i = .ok rp)
    (hpq : rp.register q j = .ok rpq) (hq : r.register q j = .ok rq)
    (hqp : rq.register p i = .ok rqp) :
    (∀ ls, rpq.trie.HasVertex ls ↔ rqp.trie.HasVertex ls) ∧
    (∀ ls, (rpq.trie.routeAt? ls).isSome ↔ (rqp.trie.routeAt? ls).isSome) ∧
    (∀ path, (∃ m, rpq.matchPath path = .ok m) ↔ ∃ m, rqp.matchPath path = .ok m) ∧
    ((∀ ls, ¬ (r.trie.NewEnd rp.trie ls ∧ r.trie.NewEnd rq.trie ls)) →
      (∀ ls, ¬ (r.trie.NewParameter rp.trie ls ∧ r.trie.NewParameter rq.trie ls)) →
        (∀ write, rpq.trie.outline write = rqp.trie.outline write) ∧
        ∀ path m, rpq.matchPath path = .ok m ↔ rqp.matchPath path = .ok m) := by
  have halike := alike_of_orders hr.wellFormed hp hpq hq hqp
  refine ⟨halike.hasVertex_iff, halike.isEnd_iff, exists_matchPath_iff_of_alike halike, ?_⟩
  intro hends hparameters
  have htwins := twins_of_orders hr.wellFormed hp hpq hq hqp hends hparameters
  refine ⟨htwins.outline_eq, fun path m => ?_⟩
  rw [← toOption_matchPath_eq_some_iff, ← toOption_matchPath_eq_some_iff, matchPath, matchPath,
    decodeParameters_of_orders hp hpq hq hqp, htwins.toOption_matchTokens_eq]

/-- After `/x/:u`, the patterns `/a(/:b)` and `/x/c(.:d)` can be registered in either order.
They share neither an end nor a new parameter edge, so the order only changes numbers. -/
theorem register_comm_apart :
    ∃ r rp rq rpq rqp : RouteTable Nat, r = RouteTable.empty.registerEach [("/x/:u", 1)] ∧
      r.register "/a(/:b)" 2 = .ok rp ∧ rp.register "/x/c(.:d)" 3 = .ok rpq ∧
      r.register "/x/c(.:d)" 3 = .ok rq ∧ rq.register "/a(/:b)" 2 = .ok rqp ∧
      rpq.trie ≠ rqp.trie ∧
      (∀ ls, rpq.trie.HasVertex ls ↔ rqp.trie.HasVertex ls) ∧
      (∀ write, rpq.trie.outline write = rqp.trie.outline write) ∧
      ∀ path m, rpq.matchPath path = .ok m ↔ rqp.matchPath path = .ok m := by
  have hr : (RouteTable.empty.registerEach [("/x/:u", 1)]).Reachable :=
    Reachable.empty.registerEach _
  have hp : (RouteTable.empty.registerEach [("/x/:u", 1)]).register "/a(/:b)" 2 =
      .ok (RouteTable.empty.registerEach [("/x/:u", 1), ("/a(/:b)", 2)]) := by cbv
  have hpq : (RouteTable.empty.registerEach
      [("/x/:u", 1), ("/a(/:b)", 2)]).register "/x/c(.:d)" 3 =
      .ok (RouteTable.empty.registerEach
        [("/x/:u", 1), ("/a(/:b)", 2), ("/x/c(.:d)", 3)]) := by cbv
  have hq : (RouteTable.empty.registerEach [("/x/:u", 1)]).register "/x/c(.:d)" 3 =
      .ok (RouteTable.empty.registerEach [("/x/:u", 1), ("/x/c(.:d)", 3)]) := by cbv
  have hqp : (RouteTable.empty.registerEach
      [("/x/:u", 1), ("/x/c(.:d)", 3)]).register "/a(/:b)" 2 =
      .ok (RouteTable.empty.registerEach
        [("/x/:u", 1), ("/x/c(.:d)", 3), ("/a(/:b)", 2)]) := by cbv
  obtain ⟨hvertex, -, -, htwins⟩ := register_comm hr hp hpq hq hqp
  have hroutes : ∀ route ∈ Pattern.routes (Pattern.scan "/a(/:b)"),
      ∀ route' ∈ Pattern.routes (Pattern.scan "/x/c(.:d)"), route.take 2 ≠ route'.take 2 ∧
        Label.parameter ∉ route.take 2 := by decide +kernel
  have hends := not_newEnd_of_disjoint hr.wellFormed hp hq (by decide +kernel)
  have hparameters := not_newParameter_of_part hr.wellFormed hp hq
    fun route hown route' hother => ⟨2, hroutes route hown route' hother⟩
  obtain ⟨houtline, hmatch⟩ := htwins hends hparameters
  exact ⟨_, _, _, _, _, rfl, hp, hpq, hq, hqp, by decide +kernel, hvertex, houtline, hmatch⟩

end RouteTable
end LinkRouting
