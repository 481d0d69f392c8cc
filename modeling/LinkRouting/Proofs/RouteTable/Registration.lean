import LinkRouting.Proofs.Pattern.Grammar
import LinkRouting.Proofs.Trie.Laying
import LinkRouting.RouteTable.History

/-! # What a registration adds

A pattern that is registered adds to the trie the labels of its routes and
nothing else (`Trie.Adds`): one vertex for each list of labels that some route
begins with, the new ends under the given identifier, the old ones as they were.
Everything rests on `register_gains`, which takes the table apart into the check,
the plan and the laying.
-/
namespace LinkRouting

namespace Pattern

/-- Every choice of a pattern begins with `/`. -/
theorem Grammatical.exists_mem_choices {ts : List Token} (h : Grammatical ts) :
    ∀ way ∈ choices ts, ∃ rest, way = .slash :: rest := by
  cases h with
  | slash h =>
    intro way hway
    obtain ⟨rest, -, rfl⟩ := (mem_choices_cons (t := .slash) h.balanced (by simp) (by simp)).mp hway
    exact ⟨rest, rfl⟩

/-- Every route of a pattern begins with `/`. -/
theorem Grammatical.slash_prefix {ts : List Token} (h : Grammatical ts) {ls : List Label}
    (hls : ls ∈ routes ts) : [.exact .slash] <+: ls := by
  obtain ⟨way, hway, rfl⟩ := List.mem_map.mp hls
  obtain ⟨rest, rfl⟩ := h.exists_mem_choices way hway
  exact ⟨(steps rest).map Step.label, rfl⟩

theorem Grammatical.routes_ne_nil {ts : List Token} (h : Grammatical ts) : routes ts ≠ [] := by
  obtain ⟨route, hroute⟩ := List.exists_mem_of_ne_nil _ (Plan.routes_ne_nil _ h.isOf.faultless)
  exact List.ne_nil_of_mem ((mem_routes_iff h _).mpr ⟨route, hroute, rfl⟩)

end Pattern

namespace Trie
variable {ι : Type} {t u : Trie ι}

/-- **One trie is another with routes added under an identifier.**  Labels that
lead to a vertex, or to the end of a route, are those from before and those of the
routes; each vertex has its own labels, each leaf is an end, and only the new ends
carry the identifier. -/
structure Adds (t u : Trie ι) (routes : List (List Label)) (i : ι) : Prop where
  isEnd_iff : ∀ ls, (u.routeAt? ls).isSome ↔ (t.routeAt? ls).isSome ∨ ls ∈ routes
  hasVertex_iff : ∀ ls, u.HasVertex ls ↔ t.HasVertex ls ∨ ∃ route ∈ routes, ls <+: route
  existsUnique_labels : ∀ v, v < u.size → ∃! ls, u.follow? root ls = some v
  ncard_hasVertex : {ls | u.HasVertex ls}.ncard = u.size
  isTerminal_of_isFinal : ∀ v, v < u.size →
    (u.vertex v).isFinal = true → (u.vertex v).isTerminal = true
  identifier_of_new : ∀ v, (u.vertex v).isTerminal = true → (t.vertex v).isTerminal = false →
    (u.vertex v).identifier = some i
  identifier_of_old : ∀ v, (t.vertex v).isTerminal = true →
    (u.vertex v).identifier = (t.vertex v).identifier

theorem WellFormed.existsUnique_labels (ht : t.WellFormed) {v : Nat} (hv : v < t.size) :
    ∃! ls, t.follow? root ls = some v := by
  obtain ⟨ls, hls⟩ := ht.exists_follow? hv
  exact ⟨ls, hls, fun ms hms => ht.labels_unique hms hls⟩

/-- There are as many vertices as lists of labels that lead to one. -/
theorem WellFormed.ncard_hasVertex (ht : t.WellFormed) : {ls | t.HasVertex ls}.ncard = t.size := by
  choose labels hlabels using fun v hv => (ht.existsUnique_labels (v := v) hv).exists
  refine Set.ncard_eq_of_bijective labels (fun ls hls => ?_) (fun v hv => ?_) ?_
  · obtain ⟨v, hv⟩ := Option.isSome_iff_exists.mp hls
    have hlt := ht.lt_size hv
    exact ⟨v, hlt, ht.labels_unique (hlabels v hlt) hv⟩
  · exact hasVertex_of_follow? (hlabels v hv)
  · intro v w hv hw heq
    have := hlabels w hw
    rw [← heq, hlabels v hv] at this
    exact Option.some.inj this

/-- Every vertex but the root leads on or is an end. -/
def LeadsOn (t : Trie ι) : Prop :=
  ∀ v, v ≠ root → v < t.size → (t.vertex v).isFinal = true → (t.vertex v).isTerminal = true

theorem leadsOn_empty : (empty : Trie ι).LeadsOn :=
  fun _ hroot hv _ => absurd (Nat.lt_one_iff.mp hv) hroot

section Gains
variable {i : ι} {branches : List Branch} {routes : List (List Step)}

/-- Under the labels of a vertex the old trie had the route of that very vertex, if
any. -/
theorem Gains.routeAt?_old (hg : Gains t u i branches) (ht : t.WellFormed) (hu : u.WellFormed)
    {ls : List Label} {v : Nat} (hv : u.follow? root ls = some v) :
    t.routeAt? ls = (t.vertex v).identifier := by
  cases hold : t.follow? root ls with
  | some w =>
    obtain rfl := Option.some.inj ((hg.follow? hold).symm.trans hv)
    exact routeAt?_of_follow? hold
  | none =>
    have hnew : t.size ≤ v := by
      by_contra hlt
      obtain ⟨ms, hms⟩ := ht.exists_follow? (Nat.lt_of_not_le hlt)
      rw [← hu.labels_unique (hg.follow? hms) hv, hms] at hold
      cases hold
    rw [Trie.routeAt?, hold, vertex_of_size_le _ hnew]
    rfl

/-- What branches below the root gain, in labels. -/
theorem Gains.hasVertex_iff (hg : Gains t u i (routes.map (Branch.mk []))) (ls : List Label) :
    u.HasVertex ls ↔ t.HasVertex ls ∨ ∃ route ∈ routes, ls <+: route.map Step.label := by
  rw [hg.hasVertex]
  simp only [List.mem_map, exists_exists_and_eq_and, Branch.labels, List.nil_append]

theorem Gains.routeAt?_eq (hg : Gains t u i (routes.map (Branch.mk []))) (ls : List Label) :
    u.routeAt? ls = (t.routeAt? ls).or
      (if ls ∈ routes.map (List.map Step.label) then some i else none) := by
  rw [hg.routeAt?, List.map_map]
  rfl

theorem Gains.leadsOn (hg : Gains t u i (routes.map (Branch.mk []))) (ht : t.WellFormed)
    (hu : u.WellFormed) (hl : t.LeadsOn) : u.LeadsOn := by
  intro v hroot hv hfinal
  obtain ⟨ls, hls⟩ := hu.exists_follow? hv
  have hleaf := not_hasVertex_of_isFinal hls hfinal
  have hend : (u.routeAt? ls).isSome → (u.vertex v).isTerminal = true := by
    rw [routeAt?_of_follow? hls]
    exact id
  apply hend
  rw [hg.routeAt?_eq, Option.isSome_or, Bool.or_eq_true]
  rcases (hg.hasVertex_iff ls).mp (hasVertex_of_follow? hls) with
    hold | ⟨route, hroute, rest, hrest⟩
  · -- An old vertex was a leaf before, since edges only come.
    obtain ⟨w, hw⟩ := Option.isSome_iff_exists.mp hold
    obtain rfl := Option.some.inj ((hg.follow? hw).symm.trans hls)
    rw [routeAt?_of_follow? hw]
    refine .inl (hl w hroot (ht.lt_size hw) ((t.isFinal_iff w).mpr fun l => ?_))
    rw [← Option.not_isSome_iff_eq_none, ← hasVertex_concat_iff hw]
    exact fun h => hleaf l ((hg.hasVertex_iff _).mpr (.inl h))
  · -- A route that goes through a leaf ends there.
    cases rest with
    | nil =>
      rw [List.append_nil] at hrest
      rw [if_pos (hrest ▸ List.mem_map_of_mem hroute)]
      exact .inr rfl
    | cons l rest =>
      refine absurd ((hg.hasVertex_iff _).mpr (.inr ⟨route, hroute, rest, ?_⟩)) (hleaf l)
      rw [List.append_assoc]
      exact hrest

end Gains
end Trie

namespace RouteTable
variable {ι : Type} {r r' : RouteTable ι} {pattern : String} {i : ι}

/-- A pattern that is registered has passed the check, and its plan was laid. -/
theorem register_eq_ok (h : r.register pattern i = .ok r') :
    Pattern.check (Pattern.scan pattern) = .ok () ∧
      ∃ t, Trie.lay i (.ofTokens (Pattern.scan pattern)) r.trie Trie.root = .ok t ∧
        r' = { r with trie := t } := by
  dsimp only [register] at h
  split at h
  · cases h
  · next hcheck =>
    split at h
    · cases h
    · next t hlay => exact ⟨hcheck, t, hlay, (Except.ok.inj h).symm⟩

/-- **What a registration gains**: the pattern is one of the grammar, and the trie
gains the routes of its plan from the root. -/
theorem register_gains (ht : r.trie.WellFormed) (h : r.register pattern i = .ok r') :
    Pattern.Grammatical (Pattern.scan pattern) ∧ r'.trie.WellFormed ∧
      Trie.Gains r.trie r'.trie i
        ((Pattern.Plan.ofTokens (Pattern.scan pattern)).routes.map (Branch.mk [])) := by
  obtain ⟨-, t, hlay, rfl⟩ := register_eq_ok h
  obtain ⟨hf, hwf, hg⟩ := Trie.lay_gains i _ ht (Trie.follow?_nil _ _) hlay
  exact ⟨(Pattern.faultless_ofTokens_iff _).mp hf, hwf, hg⟩

theorem decodeParameters_register (h : r.register pattern i = .ok r') :
    r'.decodeParameters = r.decodeParameters := by
  obtain ⟨-, t, -, rfl⟩ := register_eq_ok h
  rfl

theorem Reachable.wellFormed (hr : r.Reachable) : r.trie.WellFormed := by
  induction hr with
  | empty => exact Trie.wellFormed_empty
  | register _ h ih => exact (register_gains ih h).2.1
  | withDecoding _ _ ih => exact ih

theorem Reachable.leadsOn (hr : r.Reachable) : r.trie.LeadsOn := by
  induction hr with
  | empty => exact Trie.leadsOn_empty
  | register hr h ih =>
    obtain ⟨-, hwf, hg⟩ := register_gains hr.wellFormed h
    exact hg.leadsOn hr.wellFormed hwf ih
  | withDecoding _ _ ih => exact ih

/-- The labels that a registration adds are those of the pattern's routes. -/
theorem hasVertex_register (ht : r.trie.WellFormed) (h : r.register pattern i = .ok r')
    (ls : List Label) :
    r'.trie.HasVertex ls ↔
      r.trie.HasVertex ls ∨ ∃ route ∈ Pattern.routes (Pattern.scan pattern), ls <+: route := by
  obtain ⟨hgram, -, hg⟩ := register_gains ht h
  rw [hg.hasVertex_iff]
  refine or_congr Iff.rfl ⟨?_, ?_⟩
  · rintro ⟨route, hroute, hp⟩
    exact ⟨_, (Pattern.mem_routes_iff hgram _).mpr ⟨route, hroute, rfl⟩, hp⟩
  · rintro ⟨_, hls, hp⟩
    obtain ⟨route, hroute, rfl⟩ := (Pattern.mem_routes_iff hgram _).mp hls
    exact ⟨route, hroute, hp⟩

theorem routeAt?_register (ht : r.trie.WellFormed) (h : r.register pattern i = .ok r')
    (ls : List Label) :
    r'.trie.routeAt? ls = (r.trie.routeAt? ls).or
      (if ls ∈ Pattern.routes (Pattern.scan pattern) then some i else none) := by
  obtain ⟨hgram, -, hg⟩ := register_gains ht h
  rw [hg.routeAt?_eq]
  congr 1
  refine if_congr ?_ rfl rfl
  rw [Pattern.mem_routes_iff hgram, List.mem_map]
  simp only [eq_comm]

/-- The names that a registration brings come after those that are there. -/
theorem nameAt?_register (ht : r.trie.WellFormed) (h : r.register pattern i = .ok r')
    (ls : List Label) :
    r'.trie.nameAt? ls = (r.trie.nameAt? ls).or
      ((Pattern.Plan.ofTokens (Pattern.scan pattern)).routes.findSome? fun route =>
        Step.nameAt? [] route ls) := by
  obtain ⟨-, -, hg⟩ := register_gains ht h
  rw [hg.nameAt?, List.findSome?_map]
  rfl

/-- The identifier of a vertex after a registration. -/
theorem identifier_register (ht : r.trie.WellFormed) (h : r.register pattern i = .ok r') (v : Nat) :
    (r'.trie.vertex v).identifier = (r.trie.vertex v).identifier ∨
      (r.trie.vertex v).identifier = none ∧ (r'.trie.vertex v).identifier = some i := by
  obtain ⟨-, hwf, hg⟩ := register_gains ht h
  by_cases hv : v < r'.trie.size
  · obtain ⟨ls, hls⟩ := hwf.exists_follow? hv
    have hroute := routeAt?_register ht h ls
    rw [Trie.routeAt?_of_follow? hls, hg.routeAt?_old ht hwf hls] at hroute
    rw [hroute]
    cases hold : (r.trie.vertex v).identifier with
    | some j => exact .inl rfl
    | none =>
      rw [Option.none_or]
      split
      · exact .inr ⟨rfl, rfl⟩
      · exact .inl rfl
  · -- A vertex that the trie lacks afterwards was not there before.
    have hv' : ¬ v < r.trie.size := fun hlt => by
      obtain ⟨ls, hls⟩ := ht.exists_follow? hlt
      exact hv (hwf.lt_size (hg.follow? hls))
    rw [Trie.vertex_of_size_le _ (Nat.le_of_not_lt hv),
      Trie.vertex_of_size_le _ (Nat.le_of_not_lt hv')]
    exact .inl rfl

/-- **A registration adds a pattern's routes and nothing else.** -/
theorem register_adds (hr : r.Reachable) (h : r.register pattern i = .ok r') :
    r.trie.Adds r'.trie (Pattern.routes (Pattern.scan pattern)) i := by
  have ht := hr.wellFormed
  have hr' := hr.register h
  obtain ⟨hgram, hwf, -⟩ := register_gains ht h
  refine ⟨fun ls => ?_, hasVertex_register ht h, fun v hv => hwf.existsUnique_labels hv,
    hwf.ncard_hasVertex, fun v hv hfinal => ?_, fun v hnew hold => ?_, fun v hold => ?_⟩
  · rw [routeAt?_register ht h, Option.isSome_or, Bool.or_eq_true]
    refine or_congr Iff.rfl ?_
    split <;> simp [*]
  · by_cases hroot : v = Trie.root
    · -- The root leads on to `/`, with which every route begins.
      subst hroot
      obtain ⟨ls, hls⟩ := List.exists_mem_of_ne_nil _ hgram.routes_ne_nil
      exact absurd ((hasVertex_register ht h _).mpr (.inr ⟨ls, hls, hgram.slash_prefix hls⟩))
        (Trie.not_hasVertex_of_isFinal (Trie.follow?_nil _ _) hfinal _)
    · exact hr'.leadsOn v hroot hv hfinal
  · rcases identifier_register ht h v with heq | ⟨-, heq⟩
    · rw [Vertex.isTerminal, heq] at hnew
      rw [Vertex.isTerminal, hnew] at hold
      cases hold
    · exact heq
  · rcases identifier_register ht h v with heq | ⟨hnone, -⟩
    · exact heq
    · rw [Vertex.isTerminal, hnone] at hold
      cases hold

/-- After `/a`, the pattern `/a(/:b)` adds one end and leaves the other as it was. -/
theorem register_adds_optional_symbol :
    ∃ r r' : RouteTable Nat, r = RouteTable.empty.registerEach [("/a", 3)] ∧
      r.register "/a(/:b)" 7 = .ok r' ∧
      r.trie.Adds r'.trie (Pattern.routes (Pattern.scan "/a(/:b)")) 7 := by
  have h : (RouteTable.empty.registerEach [("/a", 3)]).register "/a(/:b)" 7 =
      .ok (RouteTable.empty.registerEach [("/a", 3), ("/a(/:b)", 7)]) := by cbv
  exact ⟨_, _, rfl, h, register_adds (Reachable.empty.registerEach _) h⟩

end RouteTable
end LinkRouting
