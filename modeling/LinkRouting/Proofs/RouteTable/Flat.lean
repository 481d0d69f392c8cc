import LinkRouting.Proofs.RouteTable.Registration
import LinkRouting.Proofs.Trie.Walk
import LinkRouting.RouteTable.Flat

/-! # The trie agrees with the flat list of its routes

A trie *holds* a flat list of routes when the labels that lead to a vertex are
those with which some route starts, and each route has the identifier of its first
entry (`Trie.Holds`).  A registration appends its routes to the list
(`holds_register`), so the table after a series of registrations holds the routes
of those that were accepted, in order.

A walk over the trie is then one over the list: at each token both take the same
label (`Holds.labelOf_eq`), and both stop at the same one.  So a path is matched by
the table as it is found in the list (`toOption_matchPath`).
-/
namespace LinkRouting
namespace FlatRoutes
variable {ι : Type}

theorem hasStart_iff (R : FlatRoutes ι) (ls : List Label) :
    R.hasStart ls = true ↔ ∃ route ∈ R, ls <+: route.1 := by
  simp only [hasStart, List.any_eq_true, List.isPrefixOf_iff_prefix]

/-- In a list of routes under one identifier, each is found under it. -/
theorem lookup_map_pair (routes : List (List Label)) (i : ι) (ls : List Label) :
    List.lookup ls (routes.map fun ms => (ms, i)) = if ls ∈ routes then some i else none := by
  induction routes with
  | nil => rfl
  | cons ms routes ih =>
    rw [List.map_cons, lookup_cons_eq, ih]
    by_cases h : ls = ms <;> simp [h]

/-- A route is found for a path if the walk over it does not fail and a route ends
where the path does. -/
theorem find?_eq_some_iff (R : FlatRoutes ι) {path : String} {i : ι} :
    R.find? path = some i ↔
      path ≠ "" ∧ ∃ ls, R.walk? [] (Path.scan path) = some ls ∧ List.lookup ls R = some i := by
  simp only [find?, List.isEmpty_iff, Path.scan_eq_nil_iff]
  by_cases hpath : path = ""
  · simp [hpath]
  · rw [if_neg hpath, Option.bind_eq_some_iff]
    exact (and_iff_right hpath).symm

end FlatRoutes

namespace Trie
variable {ι : Type} {t : Trie ι} {R : FlatRoutes ι}

/-- **A trie holds the routes of a flat list**: it has a vertex for every start of
a route and an end for every route, with the identifier of the first entry. -/
structure Holds (t : Trie ι) (R : FlatRoutes ι) : Prop where
  hasVertex_iff : ∀ ls, t.HasVertex ls ↔ ls = [] ∨ R.hasStart ls = true
  routeAt?_eq : ∀ ls, t.routeAt? ls = List.lookup ls R

theorem holds_empty : (empty : Trie ι).Holds [] := by
  refine ⟨fun ls => (hasVertex_empty ls).trans ⟨.inl, ?_⟩, routeAt?_empty⟩
  rintro (h | h)
  · exact h
  · cases h

/-- **Both walks take a token under the same label.** -/
theorem Holds.labelOf_eq (hR : t.Holds R) {ls : List Label} {v : Nat}
    (hv : t.follow? root ls = some v) (token : Path.Token) :
    R.labelOf ls token = t.labelAt v token := by
  cases token with
  | slash | dot => rfl
  | literal text =>
    rw [FlatRoutes.labelOf, labelAt]
    refine if_congr ?_ rfl rfl
    rw [← hasVertex_concat_iff hv, hR.hasVertex_iff]
    simp

/-- **Both walks stop at the same token**, and else lead to the same place. -/
theorem Holds.toOption_walk (hR : t.Holds R) (decode : Bool) (tokens : List Path.Token)
    {ls : List Label} {v : Nat} (hv : t.follow? root ls = some v) (b : Bindings) :
    (t.walk decode v b tokens).toOption.map Prod.fst =
      (R.walk? ls tokens).bind (t.follow? root) := by
  induction tokens generalizing ls v b with
  | nil => exact hv.symm
  | cons token tokens ih =>
    -- The trie has an edge with the label exactly if some route goes on with it.
    have hstep := toOption_step (t := t) decode v b token
    have hchild : t.follow? root (ls ++ [t.labelAt v token]) = t.child? v (t.labelAt v token) := by
      rw [follow?_concat, hv, Option.bind_some]
    have hstart :
        R.hasStart (ls ++ [t.labelAt v token]) = (t.child? v (t.labelAt v token)).isSome := by
      rw [Bool.eq_iff_iff, ← hasVertex_concat_iff hv, hR.hasVertex_iff]
      simp
    rw [walk, FlatRoutes.walk?, hR.labelOf_eq hv, hstart, ← hstep]
    cases hs : t.step decode v b token with
    | error miss => rfl
    | ok next =>
      obtain ⟨w, c⟩ := next
      rw [hs] at hstep
      exact ih (hchild.trans hstep.symm) c

end Trie

namespace RouteTable
variable {ι : Type} {r r' : RouteTable ι} {R : FlatRoutes ι} {pattern : String} {i : ι}

/-- A registration appends its routes. -/
theorem holds_register (ht : r.trie.WellFormed) (hR : r.trie.Holds R)
    (h : r.register pattern i = .ok r') :
    r'.trie.Holds (R ++ (Pattern.routes (Pattern.scan pattern)).map fun ls => (ls, i)) := by
  refine ⟨fun ls => ?_, fun ls => ?_⟩
  · rw [hasVertex_register ht h, hR.hasVertex_iff, FlatRoutes.hasStart_iff,
      FlatRoutes.hasStart_iff, or_assoc]
    simp only [List.mem_append, or_and_right, exists_or, List.mem_map, exists_exists_and_eq_and]
  · rw [routeAt?_register ht h, hR.routeAt?_eq, List.lookup_append, FlatRoutes.lookup_map_pair]

/-- After a series of registrations, the routes of those accepted have been
appended in order. -/
theorem holds_registerEach (ht : r.trie.WellFormed) (hR : r.trie.Holds R)
    (series : List (String × ι)) :
    (r.registerEach series).trie.Holds (R ++ .ofPatterns (r.accepted series)) := by
  induction series generalizing r R with
  | nil =>
    rw [accepted, FlatRoutes.ofPatterns, List.flatMap_nil, List.append_nil]
    exact hR
  | cons entry series ih =>
    obtain ⟨pattern, i⟩ := entry
    dsimp only [registerEach, attempt, accepted]
    cases h : r.register pattern i with
    | error refusal => exact ih ht hR
    | ok r' =>
      have hR' := ih (register_gains ht h).2.1 (holds_register ht hR h)
      rw [List.append_assoc] at hR'
      exact hR'

/-- **A table finds what the flat list that it holds finds.** -/
theorem toOption_matchPath (hR : r.trie.Holds R) (path : String) :
    (r.matchPath path).toOption.map Match.identifier = R.find? path := by
  have hwalk := hR.toOption_walk r.decodeParameters (Path.scan path) (Trie.follow?_nil _ _) .empty
  -- The first route with some labels has the identifier of the vertex they lead to.
  have hend (taken : Option (List Label)) : (taken.bind fun ls => List.lookup ls R) =
      (taken.bind (r.trie.follow? Trie.root)).bind fun v => (r.trie.vertex v).identifier := by
    simp only [← hR.routeAt?_eq, Trie.routeAt?, Option.bind_assoc]
  rw [matchPath, Trie.matchTokens, FlatRoutes.find?, hend, ← hwalk]
  by_cases hempty : (Path.scan path).isEmpty
  · rw [if_pos hempty, if_pos hempty]
    rfl
  · rw [if_neg hempty, if_neg hempty]
    cases r.trie.walk r.decodeParameters Trie.root .empty (Path.scan path) with
    | error miss => rfl
    | ok next =>
      obtain ⟨v, b⟩ := next
      dsimp only [Except.toOption, Option.map_some, Option.bind_some]
      cases (r.trie.vertex v).identifier <;> rfl

/-- **The table agrees with the flat list of its routes.**  After any series of
registrations, refused ones among them, a path is matched if and only if it is not
empty, the walk over the routes of the accepted patterns does not fail, and a route
ends where it ends; the identifier is that of the first such route. -/
theorem exists_matchPath_iff (decode : Bool) (series : List (String × ι)) (path : String) (i : ι) :
    (∃ b, ((RouteTable.empty.withDecoding decode).registerEach series).matchPath path
        = .ok ⟨i, b⟩) ↔
      path ≠ "" ∧ ∃ ls,
        (FlatRoutes.ofPatterns ((RouteTable.empty.withDecoding decode).accepted series)).walk? []
            (Path.scan path) = some ls ∧
          List.lookup ls
            (FlatRoutes.ofPatterns ((RouteTable.empty.withDecoding decode).accepted series))
            = some i := by
  have hR := holds_registerEach (r := RouteTable.empty.withDecoding decode)
    Trie.wellFormed_empty Trie.holds_empty series
  rw [List.nil_append] at hR
  rw [← FlatRoutes.find?_eq_some_iff, ← toOption_matchPath hR path, Option.map_eq_some_iff]
  simp only [toOption_matchPath_eq_some_iff]
  constructor
  · rintro ⟨b, hb⟩
    exact ⟨⟨i, b⟩, hb, rfl⟩
  · rintro ⟨⟨_, b⟩, hb, rfl⟩
    exact ⟨b, hb⟩

end RouteTable
end LinkRouting
