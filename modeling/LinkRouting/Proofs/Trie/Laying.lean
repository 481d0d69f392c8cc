import LinkRouting.Trie.Lay
import LinkRouting.Proofs.Pattern.Routes
import LinkRouting.Proofs.Trie.Gain
import LinkRouting.Proofs.Trie.Traversal

/-! # What laying a plan adds

Where a plan is laid without an offence, the trie gains exactly the plan's
routes, in the order of `Plan.routes` (`lay_gains`).  The argument follows the
plan.  Groups begin at a vertex from which nothing leads on, so the ends at or
below it are, at each group, those of the routes laid for the groups before;
every further group is laid below all of them, whatever else the trie holds.

The order in which the ends are collected is that of the trie's edges, and that of
`Plan.routes` is by length.  For the names of parameters this is the same, since
in both an end comes before those that extend it (`findSome?_eq_of_prefix_order`).
-/
namespace LinkRouting

/-! ### Answers in an order that extends the prefix order -/

section PrefixOrder
variable {α β : Type} {xs ys : List (List α)} {f : List α → Option β}

/-- If only prefixes of one list have an answer, the first answer is that of the
shortest of them. -/
theorem findSome?_eq_some_iff_of_prefix_order (zs : List α)
    (hx : xs.Pairwise fun a b => b <+: a → a = b) (hf : ∀ x, (f x).isSome → x <+: zs) (y : β) :
    xs.findSome? f = some y ↔
      ∃ x ∈ xs, f x = some y ∧ ∀ x' ∈ xs, (f x').isSome → x <+: x' := by
  constructor
  · intro h
    -- What stands behind the first answer is comparable with it, and so no prefix of it.
    obtain ⟨l₁, x, l₂, rfl, hy, hnone⟩ := List.findSome?_eq_some_iff.mp h
    refine ⟨x, by simp, hy, fun x' hx' hsome => ?_⟩
    rcases List.mem_append.mp hx' with hx' | hx'
    · rw [hnone x' hx'] at hsome
      cases hsome
    · rcases List.mem_cons.mp hx' with rfl | hx'
      · exact List.prefix_refl _
      · have hp := hf x (Option.isSome_of_eq_some hy)
        rcases List.prefix_or_prefix_of_prefix hp (hf x' hsome) with hle | hle
        · exact hle
        · have hpair := (List.pairwise_cons.mp (List.pairwise_append.mp hx).2.1).1 x' hx' hle
          exact hpair ▸ List.prefix_refl _
  · rintro ⟨x, hmem, hy, hleast⟩
    cases h : xs.findSome? f with
    | none => rw [List.findSome?_eq_none_iff.mp h x hmem] at hy; cases hy
    | some y' =>
      obtain ⟨l₁, x', l₂, rfl, hy', hnone⟩ := List.findSome?_eq_some_iff.mp h
      have hp := hleast x' (by simp) (Option.isSome_of_eq_some hy')
      rcases List.mem_append.mp hmem with hmem | hmem
      · rw [hnone x hmem] at hy
        cases hy
      · rcases List.mem_cons.mp hmem with rfl | hmem
        · exact hy'.symm.trans hy
        · have hpair := (List.pairwise_cons.mp (List.pairwise_append.mp hx).2.1).1 x hmem hp
          rw [hpair] at hy'
          exact hy'.symm.trans hy

theorem findSome?_eq_of_prefix_order (zs : List α) (hmem : ∀ x, x ∈ xs ↔ x ∈ ys)
    (hx : xs.Pairwise fun a b => b <+: a → a = b) (hy : ys.Pairwise fun a b => b <+: a → a = b)
    (hf : ∀ x, (f x).isSome → x <+: zs) : xs.findSome? f = ys.findSome? f := by
  ext y
  rw [findSome?_eq_some_iff_of_prefix_order zs hx hf,
    findSome?_eq_some_iff_of_prefix_order zs hy hf]
  simp only [hmem]

theorem findSome?_flatMap {γ : Type} (xs : List α) (g : α → List γ) (f : γ → Option β) :
    (xs.flatMap g).findSome? f = xs.findSome? fun x => (g x).findSome? f := by
  induction xs with
  | nil => rfl
  | cons x xs ih =>
    rw [List.flatMap_cons, List.findSome?_append, ih, List.findSome?_cons]
    cases (g x).findSome? f <;> rfl

theorem findSome?_congr {xs : List α} {f g : α → Option β} (h : ∀ x ∈ xs, f x = g x) :
    xs.findSome? f = xs.findSome? g := by
  induction xs with
  | nil => rfl
  | cons x xs ih =>
    rw [List.findSome?_cons, List.findSome?_cons, h x List.mem_cons_self,
      ih fun y hy => h y (List.mem_cons_of_mem _ hy)]

end PrefixOrder

theorem bind_eq_ok {ε α β : Type} {x : Except ε α} {f : α → Except ε β} {b : β} :
    x >>= f = .ok b ↔ ∃ a, x = .ok a ∧ f a = .ok b := by
  cases x with
  | error e => simp [bind, Except.bind]
  | ok a => simp [bind, Except.bind]

namespace Trie
open Pattern (Plan Groups Offence shortestFirst mem_shortestFirst pairwise_shortestFirst)

variable {ι : Type} {i : ι} {t u : Trie ι}

/-- The routes that end at or below a vertex are those with these steps from it. -/
def EndsBelow (t : Trie ι) (ls : List Label) (ends : List (List Step)) : Prop :=
  ∀ ms, (t.routeAt? (ls ++ ms)).isSome ↔ ms ∈ ends.map (List.map Step.label)

section Stage
variable {v : Nat} {ls : List Label} {ends : List (List Step)}

/-- The labels under which the ends at or below a vertex are collected. -/
theorem EndsBelow.mem_terminalsUnder (he : t.EndsBelow ls ends) (ht : t.WellFormed)
    (hv : t.follow? root ls = some v) {below : Nat → List Label}
    (hb : ∀ w ∈ t.terminalsUnder v, t.follow? v (below w) = some w) (ms : List Label) :
    ms ∈ (t.terminalsUnder v).map below ↔ ms ∈ ends.map (List.map Step.label) := by
  have hlt := ht.lt_size hv
  have hroute : ∀ ms, t.routeAt? (ls ++ ms) =
      (t.follow? v ms).bind fun w => (t.vertex w).identifier := by
    intro ms
    rw [routeAt?, follow?_append, hv, Option.bind_some]
  rw [← he ms, hroute, List.mem_map]
  constructor
  · rintro ⟨w, hw, rfl⟩
    rw [hb w hw]
    exact (ht.mem_terminalsUnder.mp hw).1
  · intro hsome
    obtain ⟨j, hj⟩ := Option.isSome_iff_exists.mp hsome
    obtain ⟨w, hw, hid⟩ := Option.bind_eq_some_iff.mp hj
    have hmem : w ∈ t.terminalsUnder v :=
      ht.mem_terminalsUnder.mpr ⟨Option.isSome_of_eq_some hid, ms, hw⟩
    exact ⟨w, hmem, ht.follow?_injective hlt (hb w hmem) hw⟩

/-- The steps of an end add no name: its parameters are there. -/
theorem EndsBelow.nameAt?_eq_none (he : t.EndsBelow ls ends) {way : List Step} (hway : way ∈ ends)
    {ms : List Label} (hms : t.nameAt? ms = none) : Step.nameAt? ls way ms = none := by
  cases h : Step.nameAt? ls way ms with
  | none => rfl
  | some name =>
    have hend := (he (way.map Step.label)).mpr (List.mem_map_of_mem hway)
    have := nameAt?_isSome_iff.mpr ((hasVertex_of_isEnd hend).of_isPrefix (Step.prefix_of_nameAt? h).2)
    rw [hms] at this
    cases this

/-- The ends are collected before those that extend them. -/
theorem pairwise_below (ht : t.WellFormed) {below : Nat → List Label}
    (hb : ∀ w ∈ t.terminalsUnder v, t.follow? v (below w) = some w) :
    ((t.terminalsUnder v).map below).Pairwise fun a b => b <+: a → a = b := by
  refine List.pairwise_map.mpr ((ht.terminalsUnder_pairwise v).imp_of_mem ?_)
  rintro a b ha hb' hnot ⟨ks, hks⟩
  refine absurd ⟨ks, ?_⟩ hnot
  have := hb a ha
  rwa [← hks, follow?_append, hb b hb', Option.bind_some] at this

theorem pairwise_labels_shortestFirst (ends : List (List Step)) :
    ((shortestFirst ends).map (List.map Step.label)).Pairwise fun a b => b <+: a → a = b := by
  refine List.pairwise_map.mpr ((pairwise_shortestFirst ends).imp fun hle hp => ?_)
  exact (hp.eq_of_length (Nat.le_antisymm hp.length_le (by simpa using hle))).symm

/-- A name behind an end does not depend on the names on the way to it. -/
theorem EndsBelow.findSome?_nameAt? (he : t.EndsBelow ls ends) {ms : List Label}
    (hms : t.nameAt? ms = none) (routes : List (List Step)) :
    (((shortestFirst ends).flatMap fun way => routes.map (way ++ ·)).map
        (Branch.mk ls)).findSome? (·.nameAt? ms) =
      ((shortestFirst ends).map (List.map Step.label)).findSome? fun x =>
        routes.findSome? fun r => Step.nameAt? (ls ++ x) r ms := by
  rw [List.findSome?_map, findSome?_flatMap, List.findSome?_map]
  refine findSome?_congr fun way hway => ?_
  rw [List.findSome?_map]
  refine findSome?_congr fun r _ => ?_
  have hnone := he.nameAt?_eq_none (mem_shortestFirst.mp hway) hms
  show Step.nameAt? ls (way ++ r) ms = _
  rw [Step.nameAt?_append, hnone, Option.none_or]

/-- **A body that is laid below all ends continues each of them.** -/
theorem EndsBelow.gains_stage (he : t.EndsBelow ls ends) (ht : t.WellFormed)
    (hv : t.follow? root ls = some v) {below : Nat → List Label}
    (hb : ∀ w ∈ t.terminalsUnder v, t.follow? v (below w) = some w) {routes : List (List Step)}
    (hg : Gains t u i ((t.terminalsUnder v).flatMap fun w =>
      routes.map (Branch.mk (ls ++ below w)))) :
    Gains t u i (((shortestFirst ends).flatMap fun way => routes.map (way ++ ·)).map
      (Branch.mk ls)) := by
  have hmem := he.mem_terminalsUnder ht hv hb
  refine hg.congr (fun ms => ?_) fun ms hms => ?_
  · simp only [List.map_flatMap, List.map_map, List.mem_flatMap, List.mem_map,
      mem_shortestFirst, Function.comp_def, Branch.labels, List.map_append]
    constructor
    · rintro ⟨w, hw, r, hr, rfl⟩
      obtain ⟨way, hway, heq⟩ := List.mem_map.mp ((hmem _).mp (List.mem_map_of_mem hw))
      exact ⟨way, hway, r, hr, by rw [heq, List.append_assoc]⟩
    · rintro ⟨way, hway, r, hr, rfl⟩
      obtain ⟨w, hw, heq⟩ := List.mem_map.mp ((hmem _).mpr (List.mem_map_of_mem hway))
      exact ⟨w, hw, r, hr, by rw [heq, List.append_assoc]⟩
  · -- Both are the answer of the shortest end that the labels go through.
    have hleft : ((t.terminalsUnder v).flatMap fun w =>
        routes.map (Branch.mk (ls ++ below w))).findSome? (·.nameAt? ms) =
          ((t.terminalsUnder v).map below).findSome? fun x =>
            routes.findSome? fun r => Step.nameAt? (ls ++ x) r ms := by
      rw [findSome?_flatMap, List.findSome?_map]
      simp only [List.findSome?_map]
      rfl
    rw [hleft, he.findSome?_nameAt? hms]
    refine findSome?_eq_of_prefix_order (ms.drop ls.length) (fun x => ?_) (pairwise_below ht hb)
      (pairwise_labels_shortestFirst ends) fun x hx => ?_
    · rw [hmem x]
      simp only [List.mem_map, mem_shortestFirst]
    · obtain ⟨name, hname⟩ := Option.isSome_iff_exists.mp hx
      obtain ⟨r, -, hr⟩ := List.exists_of_findSome?_eq_some hname
      obtain ⟨ks, rfl⟩ := (Step.prefix_of_nameAt? hr).1
      simp

end Stage

/-! ### Laying -/

/-- A plan's routes are gained, and the plan had no fault. -/
def LaysAll (i : ι) (plan : Plan) : Prop :=
  ∀ ⦃t u : Trie ι⦄ ⦃v : Nat⦄ ⦃ls : List Label⦄, t.WellFormed → t.follow? root ls = some v →
    lay i plan t v = .ok u →
      plan.Faultless ∧ u.WellFormed ∧ Gains t u i (plan.routes.map (Branch.mk ls))

theorem foldlM_lay_gains {body : Plan} (hbody : LaysAll i body) :
    ∀ (ws : List Nat) {t u : Trie ι} (labels : Nat → List Label), t.WellFormed →
      (∀ w ∈ ws, t.follow? root (labels w) = some w) →
      ws.foldlM (fun t w => lay i body t w) t = .ok u →
        (ws ≠ [] → body.Faultless) ∧ u.WellFormed ∧
          Gains t u i (ws.flatMap fun w => body.routes.map (Branch.mk (labels w)))
  | [], t, u, _, ht, _, h => by
    obtain rfl := Except.ok.inj h
    exact ⟨fun hne => absurd rfl hne, ht, .refl _ _⟩
  | w :: ws, t, u, labels, ht, hws, h => by
    rw [List.foldlM_cons] at h
    obtain ⟨t', ht', hu⟩ := bind_eq_ok.mp h
    obtain ⟨hf, hwf, hg⟩ := hbody ht (hws w List.mem_cons_self) ht'
    obtain ⟨-, hwf', hg'⟩ := foldlM_lay_gains hbody ws labels hwf
      (fun x hx => hg.follow? (hws x (List.mem_cons_of_mem _ hx))) hu
    exact ⟨fun _ => hf, hwf', hg.trans hg'⟩

/-- The ends at or below a vertex, and the labels that lead to them from there. -/
theorem WellFormed.exists_below (ht : t.WellFormed) (v : Nat) :
    ∃ below : Nat → List Label, ∀ w ∈ t.terminalsUnder v, t.follow? v (below w) = some w := by
  have hbelow : ∀ w ∈ t.terminalsUnder v, ∃ ms, t.follow? v ms = some w :=
    fun w hw => (ht.mem_terminalsUnder.mp hw).2
  choose! below hb using hbelow
  exact ⟨below, hb⟩

/-- A body that is laid below all ends has no fault, since there is an end, and is
gained behind each of them. -/
theorem LaysAll.stage_gains {body : Plan} (hbody : LaysAll i body) {v : Nat} {ls : List Label}
    {ends : List (List Step)} (ht : t.WellFormed) (hv : t.follow? root ls = some v)
    (he : t.EndsBelow ls ends) (hnil : [] ∈ ends)
    (h : (t.terminalsUnder v).foldlM (fun t w => lay i body t w) t = .ok u) :
    body.Faultless ∧ u.WellFormed ∧ Gains t u i
      (((shortestFirst ends).flatMap fun way => body.routes.map (way ++ ·)).map (Branch.mk ls)) := by
  obtain ⟨below, hb⟩ := ht.exists_below v
  obtain ⟨hf, hwf, hg⟩ := foldlM_lay_gains hbody (t.terminalsUnder v) (fun w => ls ++ below w) ht
    (fun w hw => by rw [follow?_append, hv]; exact hb w hw) h
  refine ⟨hf fun hempty => ?_, hwf, he.gains_stage ht hv hb hg⟩
  -- The vertex itself is an end.
  have := (he.mem_terminalsUnder ht hv hb []).mpr (List.mem_map_of_mem hnil)
  rw [hempty] at this
  cases this

/-- A step with a plan behind it is laid by taking the step first. -/
theorem lay_step_gains {rest plan : Plan} (hrest : LaysAll i rest) (s : Step)
    (hlay : ∀ (t : Trie ι) v, lay i plan t v = lay i rest (t.advance v s).1 (t.advance v s).2)
    (hf : rest.Faultless → plan.Faultless) (hroutes : plan.routes = rest.routes.map (s :: ·)) :
    LaysAll i plan := by
  intro t u v ls ht hv h
  have hlt := ht.lt_size hv
  rw [hlay] at h
  have hw : (t.advance v s).1.follow? root (ls ++ [s.label]) = some (t.advance v s).2 := by
    rw [follow?_advance ht hv, if_pos rfl]
  obtain ⟨hfault, hwf, hg⟩ := hrest (wellFormed_advance ht hlt s) hw h
  rw [hroutes]
  exact ⟨hf hfault, hwf, hg.advance ht hv (rest.routes_ne_nil hfault)⟩

/-- Where groups begin, the vertex itself is the one end at or below it. -/
theorem endsBelow_mark (ht : t.WellFormed) {v : Nat} {ls : List Label}
    (hv : t.follow? root ls = some v) (hfinal : (t.vertex v).isFinal = true) (i : ι) :
    (t.mark v i).EndsBelow ls [[]] := by
  intro ms
  rw [routeAt?_mark ht hv]
  cases ms with
  | nil => simp
  | cons m ms =>
    have hnone : t.routeAt? (ls ++ m :: ms) = none := by
      rw [routeAt?, follow?_append, hv, Option.bind_some, follow?, (t.isFinal_iff v).mp hfinal m]
      rfl
    rw [if_neg (by simp), hnone]
    simp

/-- After a stage the ends are the old ones and those of the stage. -/
theorem EndsBelow.of_gains {ls : List Label} {ends stage : List (List Step)}
    (he : t.EndsBelow ls ends) (hg : Gains t u i (stage.map (Branch.mk ls))) :
    u.EndsBelow ls (ends ++ stage) := by
  intro ms
  have hstage : ls ++ ms ∈ (stage.map (Branch.mk ls)).map Branch.labels ↔
      ms ∈ stage.map (List.map Step.label) := by
    simp [Branch.labels]
  rw [hg.routeAt?, Option.isSome_or, Bool.or_eq_true, he ms, List.map_append, List.mem_append]
  refine or_congr Iff.rfl ?_
  by_cases hms : ms ∈ stage.map (List.map Step.label)
  · simp only [if_pos (hstage.mpr hms), hms, Option.isSome_some]
  · simp only [if_neg fun h => hms (hstage.mp h), hms, Option.isSome_none, Bool.false_eq_true]

mutual

/-- **What is laid is gained**: a plan that is laid has no fault, and the trie
gains its routes below the vertex. -/
theorem lay_gains (i : ι) : ∀ plan : Plan, LaysAll i plan
  | .stop => by
    intro t u v ls ht hv h
    obtain rfl := Except.ok.inj h
    exact ⟨trivial, wellFormed_mark ht (ht.lt_size hv) i, .mark ht hv i⟩
  | .exact token rest =>
    lay_step_gains (lay_gains i rest) (.exact token) (fun _ _ => rfl) id rfl
  | .capture name rest =>
    lay_step_gains (lay_gains i rest) (.capture name) (fun _ _ => rfl) id rfl
  | .groups gs => by
    intro t u v ls ht hv h
    rw [lay] at h
    split at h
    · next hfinal =>
      have hmark := Gains.mark ht hv i
      obtain ⟨hf, hwf, new, hnew, hg⟩ := layGroups_gains i gs
        (wellFormed_mark ht (ht.lt_size hv) i) (hmark.follow? hv)
        (endsBelow_mark ht hv hfinal i) (List.mem_singleton.mpr rfl) h
      refine ⟨hf, hwf, ?_⟩
      rw [Plan.routes, hnew]
      exact hmark.trans hg
    · cases h
  | .fault _ => by
    intro t u v ls _ _ h
    cases h

/-- Groups are laid behind all ends at or below the vertex where they begin. -/
theorem layGroups_gains (i : ι) : ∀ (gs : Groups) {t u : Trie ι} {v : Nat} {ls : List Label}
    {ends : List (List Step)}, t.WellFormed → t.follow? root ls = some v → t.EndsBelow ls ends →
    [] ∈ ends → layGroups i gs t v = .ok u →
      gs.Faultless ∧ u.WellFormed ∧ ∃ new, gs.routesAfter ends = ends ++ new ∧
        Gains t u i (new.map (Branch.mk ls))
  | .done, t, u, v, ls, ends, ht, _, _, _, h => by
    obtain rfl := Except.ok.inj h
    exact ⟨trivial, ht, [], (List.append_nil _).symm, .refl _ _⟩
  | .group body rest, t, u, v, ls, ends, ht, hv, he, hnil, h => by
    obtain ⟨t', ht', hu⟩ := bind_eq_ok.mp h
    obtain ⟨hf, hwf, hstage⟩ := (lay_gains i body).stage_gains ht hv he hnil ht'
    obtain ⟨hf', hwf', new, hnew, hg'⟩ := layGroups_gains i rest hwf (hstage.follow? hv)
      (he.of_gains hstage) (List.mem_append_left _ hnil) hu
    refine ⟨⟨hf, hf'⟩, hwf',
      ((shortestFirst ends).flatMap fun way => body.routes.map (way ++ ·)) ++ new, ?_, ?_⟩
    · rw [Groups.routesAfter, hnew, List.append_assoc]
    · rw [List.map_append]
      exact hstage.trans hg'
  | .fault _, _, _, _, _, _, _, _, _, _, h => by cases h

end

end Trie
end LinkRouting
