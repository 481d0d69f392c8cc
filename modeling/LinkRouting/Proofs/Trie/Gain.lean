import LinkRouting.Proofs.Trie.WellFormed

/-! # What a trie gains

By its labels a trie is three tables: the vertices there are (`HasVertex`), the
identifiers of the routes (`routeAt?`) and the names of the parameters
(`nameAt?`).  `Gains` says that one trie is another with some branches laid in
it: all their vertices are there, the ends that were not yet ends carry the
identifier, and a parameter without a name has the one of the first branch that
names it.
-/
namespace LinkRouting

/-- The name that steps from `base` have for the parameter after some labels. -/
def Step.nameAt? (base : List Label) : List Step → List Label → Option String
  | [], _ => none
  | s :: steps, ls =>
    (if ls = base then s.name? else none).or (nameAt? (base ++ [s.label]) steps ls)

namespace Step

theorem nameAt?_append (base : List Label) (xs ys : List Step) (ls : List Label) :
    nameAt? base (xs ++ ys) ls =
      (nameAt? base xs ls).or (nameAt? (base ++ xs.map label) ys ls) := by
  induction xs generalizing base with
  | nil => simp [nameAt?]
  | cons s xs ih => simp [nameAt?, ih, Option.or_assoc]

/-- A name belongs to a parameter that stands among the steps. -/
theorem prefix_of_nameAt? {base : List Label} {steps : List Step} {ls : List Label} {name : String}
    (h : nameAt? base steps ls = some name) :
    base <+: ls ∧ ls ++ [.parameter] <+: base ++ steps.map label := by
  induction steps generalizing base with
  | nil => cases h
  | cons s steps ih =>
    rw [nameAt?, Option.or_eq_some_iff] at h
    rcases h with h | ⟨-, h⟩
    · split at h
      · next hls =>
        subst hls
        cases s with
        | exact token => cases h
        | capture name' =>
          refine ⟨List.prefix_refl _, steps.map label, ?_⟩
          simp [label]
      · cases h
    · obtain ⟨h1, h2⟩ := ih h
      refine ⟨(List.prefix_append _ _).trans h1, ?_⟩
      simpa using h2

end Step

/-- A route that is laid below a vertex: the labels of the vertex, and the steps
from there. -/
structure Branch where
  base : List Label
  steps : List Step
  deriving DecidableEq, Repr

/-- The labels of a branch, from the root. -/
def Branch.labels (b : Branch) : List Label :=
  b.base ++ b.steps.map Step.label

/-- The name that a branch has for the parameter after some labels. -/
def Branch.nameAt? (b : Branch) (ls : List Label) : Option String :=
  Step.nameAt? b.base b.steps ls

namespace Trie
variable {ι : Type} {t u w : Trie ι} {i : ι}

/-- The name of the parameter after some labels. -/
def nameAt? (t : Trie ι) (ls : List Label) : Option String :=
  (t.follow? root ls).bind t.parameterName?

theorem nameAt?_isSome_iff {ls : List Label} :
    (t.nameAt? ls).isSome ↔ t.HasVertex (ls ++ [.parameter]) := by
  rw [HasVertex, follow?_concat, nameAt?]
  cases t.follow? root ls with
  | none => rfl
  | some v => rw [Option.bind_some, Option.bind_some, parameterName?_isSome]

theorem HasVertex.of_isPrefix {ls ms : List Label} (h : t.HasVertex ms) (hp : ls <+: ms) :
    t.HasVertex ls := by
  obtain ⟨rest, rfl⟩ := hp
  rw [HasVertex, follow?_append, Option.isSome_bind] at h
  exact Option.isSome_of_any h

theorem hasVertex_of_follow? {ls : List Label} {v : Nat} (h : t.follow? root ls = some v) :
    t.HasVertex ls :=
  Option.isSome_of_eq_some h

theorem hasVertex_concat_iff {ls : List Label} {v : Nat} (hv : t.follow? root ls = some v)
    (l : Label) : t.HasVertex (ls ++ [l]) ↔ (t.child? v l).isSome := by
  rw [HasVertex, follow?_concat, hv, Option.bind_some]

/-- Nothing leads on from a leaf. -/
theorem not_hasVertex_of_isFinal {ls : List Label} {v : Nat} (hv : t.follow? root ls = some v)
    (hfinal : (t.vertex v).isFinal = true) (l : Label) : ¬ t.HasVertex (ls ++ [l]) := by
  rw [hasVertex_concat_iff hv, (t.isFinal_iff v).mp hfinal l]
  exact Bool.false_ne_true

theorem routeAt?_of_follow? {ls : List Label} {v : Nat} (hv : t.follow? root ls = some v) :
    t.routeAt? ls = (t.vertex v).identifier := by
  rw [routeAt?, hv, Option.bind_some]

theorem hasVertex_of_isEnd {ls : List Label} (h : (t.routeAt? ls).isSome) : t.HasVertex ls := by
  rw [routeAt?, Option.isSome_bind] at h
  exact Option.isSome_of_any h

/-! ### The tables of the empty trie -/

theorem hasVertex_empty (ls : List Label) : (empty : Trie ι).HasVertex ls ↔ ls = [] := by
  cases ls with
  | nil => exact iff_of_true rfl rfl
  | cons l ls =>
    rw [HasVertex, follow?, child?_empty]
    exact iff_of_false Bool.false_ne_true (List.cons_ne_nil _ _)

theorem routeAt?_empty (ls : List Label) : (empty : Trie ι).routeAt? ls = none := by
  cases ls with
  | nil => rw [routeAt?, follow?_nil, Option.bind_some, vertex_empty]
  | cons l ls => rw [routeAt?, follow?, child?_empty]; rfl

theorem nameAt?_empty (ls : List Label) : (empty : Trie ι).nameAt? ls = none := by
  rw [← Option.not_isSome_iff_eq_none, nameAt?_isSome_iff, hasVertex_empty]
  exact List.concat_ne_nil _ _

/-! ### The tables after one operation -/

/-- A step below a vertex adds the vertex that it leads to, and nothing else. -/
theorem follow?_advance (ht : t.WellFormed) {ls : List Label} {v : Nat}
    (h : t.follow? root ls = some v) (s : Step) (ms : List Label) :
    (t.advance v s).1.follow? root ms =
      if ms = ls ++ [s.label] then some (t.advance v s).2 else t.follow? root ms := by
  have hv : v < t.size := ht.lt_size h
  induction ms using List.reverseRecOn with
  | nil => simp
  | append_singleton ms m ih =>
    rw [follow?_concat, ih]
    by_cases hms : ms = ls ++ [s.label]
    · -- Nothing lies below the new vertex, and the old one has its old children.
      have hlt := (advance_target ht hv s).1
      rw [if_pos hms, Option.bind_some, child?_advance hv, if_neg (by omega),
        if_neg (by simp [hms]), follow?_concat, hms, follow?_concat, h, Option.bind_some]
      cases hc : t.child? v s.label with
      | some w => rw [advance_of_child? hc, Option.bind_some]
      | none =>
        rw [(advance_of_child?_eq_none hc).1, Option.bind_none, child?_of_size_le _ (Nat.le_refl _)]
    · rw [if_neg hms, follow?_concat]
      cases hu : t.follow? root ms with
      | none =>
        refine (if_neg fun heq => ?_).symm
        obtain ⟨rfl, -⟩ := List.append_inj' heq rfl
        rw [h] at hu
        cases hu
      | some u =>
        rw [Option.bind_some, Option.bind_some, child?_advance hv]
        refine if_congr ?_ rfl rfl
        constructor
        · rintro ⟨rfl, rfl⟩
          rw [ht.labels_unique hu h]
        · intro heq
          obtain ⟨rfl, hm⟩ := List.append_inj' heq rfl
          exact ⟨Option.some.inj (hu.symm.trans h), List.singleton_inj.mp hm⟩

theorem hasVertex_advance (ht : t.WellFormed) {ls : List Label} {v : Nat}
    (h : t.follow? root ls = some v) (s : Step) (ms : List Label) :
    (t.advance v s).1.HasVertex ms ↔ t.HasVertex ms ∨ ms = ls ++ [s.label] := by
  rw [HasVertex, follow?_advance ht h]
  by_cases hms : ms = ls ++ [s.label] <;> simp [hms, HasVertex]

theorem follow?_advance_of_follow? (ht : t.WellFormed) {ls : List Label} {v : Nat}
    (h : t.follow? root ls = some v) (s : Step) {ms : List Label} {x : Nat}
    (hx : t.follow? root ms = some x) : (t.advance v s).1.follow? root ms = some x := by
  rw [follow?_advance ht h]
  split
  · next hms =>
    rw [hms, follow?_concat, h] at hx
    rw [advance_of_child? hx]
  · exact hx

/-- What is read off the old vertices is read under the same labels. -/
theorem bind_follow?_advance (ht : t.WellFormed) {ls : List Label} {v : Nat}
    (h : t.follow? root ls = some v) (s : Step) {α : Type} {f : Nat → Option α}
    (hf : ∀ x, t.size ≤ x → f x = none) (ms : List Label) :
    ((t.advance v s).1.follow? root ms).bind f = (t.follow? root ms).bind f := by
  rw [follow?_advance ht h]
  split
  · next hms =>
    rw [hms, follow?_concat, h, Option.bind_some, Option.bind_some]
    cases hc : t.child? v s.label with
    | some w => rw [advance_of_child? hc, Option.bind_some]
    | none => rw [(advance_of_child?_eq_none hc).1, hf _ (Nat.le_refl _), Option.bind_none]
  · rfl

theorem routeAt?_advance (ht : t.WellFormed) {ls : List Label} {v : Nat}
    (h : t.follow? root ls = some v) (s : Step) (ms : List Label) :
    (t.advance v s).1.routeAt? ms = t.routeAt? ms := by
  have hv : v < t.size := ht.lt_size h
  simp only [routeAt?, identifier_advance hv]
  exact bind_follow?_advance ht h s (fun x hx => by rw [vertex_of_size_le _ hx]) ms

/-- Where one vertex reads otherwise, so do its own labels, and no others. -/
theorem bind_follow?_eq_ite (ht : t.WellFormed) {ls : List Label} {v : Nat}
    (h : t.follow? root ls = some v) {α : Type} {f g : Nat → Option α}
    (hfg : ∀ x, x ≠ v → g x = f x) (ms : List Label) :
    (t.follow? root ms).bind g = if ms = ls then g v else (t.follow? root ms).bind f := by
  by_cases hms : ms = ls
  · rw [if_pos hms, hms, h, Option.bind_some]
  · rw [if_neg hms]
    cases hx : t.follow? root ms with
    | none => rfl
    | some x =>
      have hne : x ≠ v := by
        rintro rfl
        exact hms (ht.labels_unique hx h)
      rw [Option.bind_some, Option.bind_some, hfg x hne]

theorem nameAt?_advance (ht : t.WellFormed) {ls : List Label} {v : Nat}
    (h : t.follow? root ls = some v) (s : Step) (ms : List Label) :
    (t.advance v s).1.nameAt? ms = if ms = ls then (t.nameAt? ls).or s.name? else t.nameAt? ms := by
  have hv : v < t.size := ht.lt_size h
  -- A vertex past the end has no name, before and after.
  have hout : ∀ x, t.size ≤ x → (t.advance v s).1.parameterName? x = none := by
    intro x hx
    rw [parameterName?_advance hv, if_neg (by omega), parameterName?, parameter?,
      vertex_of_size_le _ hx]
    rfl
  have hother : ∀ x, x ≠ v → (t.advance v s).1.parameterName? x = t.parameterName? x := by
    intro x hx
    rw [parameterName?_advance hv, if_neg hx]
  rw [nameAt?, bind_follow?_advance ht h s hout, bind_follow?_eq_ite ht h hother,
    parameterName?_advance hv, if_pos rfl, nameAt?, nameAt?, h, Option.bind_some]

theorem follow?_mark {v : Nat} (hv : v < t.size) (i : ι) (x : Nat) (ms : List Label) :
    (t.mark v i).follow? x ms = t.follow? x ms := by
  induction ms generalizing x with
  | nil => rfl
  | cons m ms ih => simp only [follow?, child?_mark hv, ih]

theorem routeAt?_mark (ht : t.WellFormed) {ls : List Label} {v : Nat}
    (h : t.follow? root ls = some v) (i : ι) (ms : List Label) :
    (t.mark v i).routeAt? ms = if ms = ls then (t.routeAt? ls).or (some i) else t.routeAt? ms := by
  have hv : v < t.size := ht.lt_size h
  have hother : ∀ x, x ≠ v → ((t.mark v i).vertex x).identifier = (t.vertex x).identifier := by
    intro x hx
    rw [identifier_mark hv, if_neg hx]
  rw [routeAt?, follow?_mark hv, bind_follow?_eq_ite ht h hother, identifier_mark hv, if_pos rfl,
    routeAt?, routeAt?, h, Option.bind_some]

theorem nameAt?_mark {v : Nat} (hv : v < t.size) (i : ι) (ms : List Label) :
    (t.mark v i).nameAt? ms = t.nameAt? ms := by
  rw [nameAt?, follow?_mark hv, funext (parameterName?_mark hv i), nameAt?]

/-! ### Gains -/

/-- **The second trie is the first with branches laid in it**, in this order and
under an identifier. -/
structure Gains (t u : Trie ι) (i : ι) (branches : List Branch) : Prop where
  follow? : ∀ {ls v}, t.follow? root ls = some v → u.follow? root ls = some v
  hasVertex : ∀ ls, u.HasVertex ls ↔ t.HasVertex ls ∨ ∃ b ∈ branches, ls <+: b.labels
  routeAt? : ∀ ls, u.routeAt? ls =
    (t.routeAt? ls).or (if ls ∈ branches.map Branch.labels then some i else none)
  nameAt? : ∀ ls, u.nameAt? ls = (t.nameAt? ls).or (branches.findSome? (·.nameAt? ls))

/-- What comes before every answer comes before the first. -/
theorem findSome?_or {α β : Type} {xs : List α} (hne : xs ≠ []) (first : Option β)
    (f : α → Option β) :
    xs.findSome? (fun x => first.or (f x)) = first.or (xs.findSome? f) := by
  cases first with
  | none => simp
  | some y =>
    cases xs with
    | nil => exact absurd rfl hne
    | cons x xs => simp

namespace Gains
variable {xs ys : List Branch}

theorem refl (t : Trie ι) (i : ι) : Gains t t i [] where
  follow? h := h
  hasVertex ls := by simp
  routeAt? ls := by simp
  nameAt? ls := by simp

theorem trans (h : Gains t u i xs) (k : Gains u w i ys) : Gains t w i (xs ++ ys) where
  follow? hv := k.follow? (h.follow? hv)
  hasVertex ls := by
    rw [k.hasVertex, h.hasVertex, or_assoc]
    simp only [List.mem_append, or_and_right, exists_or]
  routeAt? ls := by
    rw [k.routeAt?, h.routeAt?, Option.or_assoc, List.map_append]
    by_cases hx : ls ∈ xs.map Branch.labels <;> simp [hx]
  nameAt? ls := by rw [k.nameAt?, h.nameAt?, Option.or_assoc, List.findSome?_append]

/-- It only matters which labels the branches have, and how they name what has no
name yet. -/
theorem congr (h : Gains t u i xs)
    (hlabels : ∀ ls, ls ∈ xs.map Branch.labels ↔ ls ∈ ys.map Branch.labels)
    (hnames : ∀ ls, t.nameAt? ls = none →
      xs.findSome? (·.nameAt? ls) = ys.findSome? (·.nameAt? ls)) : Gains t u i ys where
  follow? := h.follow?
  hasVertex ls := by
    rw [h.hasVertex]
    simp only [List.mem_map] at hlabels
    constructor
    · rintro (ht | ⟨b, hb, hp⟩)
      · exact .inl ht
      · obtain ⟨c, hc, heq⟩ := (hlabels b.labels).mp ⟨b, hb, rfl⟩
        exact .inr ⟨c, hc, heq ▸ hp⟩
    · rintro (ht | ⟨b, hb, hp⟩)
      · exact .inl ht
      · obtain ⟨c, hc, heq⟩ := (hlabels b.labels).mpr ⟨b, hb, rfl⟩
        exact .inr ⟨c, hc, heq ▸ hp⟩
  routeAt? ls := by rw [h.routeAt?]; simp only [hlabels]
  nameAt? ls := by
    rw [h.nameAt?]
    cases ht : t.nameAt? ls with
    | some name => rfl
    | none => rw [hnames ls ht]

/-- Marking a vertex lays the branch that goes no further. -/
theorem mark (ht : t.WellFormed) {ls : List Label} {v : Nat} (h : t.follow? root ls = some v)
    (i : ι) : Gains t (t.mark v i) i [⟨ls, []⟩] := by
  have hv : v < t.size := ht.lt_size h
  refine ⟨fun hx => by rw [follow?_mark hv, hx], fun ms => ?_, fun ms => ?_, fun ms => ?_⟩
  · rw [HasVertex, follow?_mark hv]
    constructor
    · exact .inl
    · rintro (hms | ⟨b, hb, hp⟩)
      · exact hms
      · obtain rfl := List.mem_singleton.mp hb
        exact (hasVertex_of_follow? h).of_isPrefix (by simpa [Branch.labels] using hp)
  · rw [routeAt?_mark ht h]
    by_cases hms : ms = ls <;> simp [hms, Branch.labels]
  · rw [nameAt?_mark hv]
    simp [Branch.nameAt?, Step.nameAt?]

/-- What is laid below a step is laid, with the step, above it. -/
theorem advance (ht : t.WellFormed) {ls : List Label} {v : Nat} (h : t.follow? root ls = some v)
    {s : Step} {routes : List (List Step)} (hne : routes ≠ [])
    (hg : Gains (t.advance v s).1 u i (routes.map (Branch.mk (ls ++ [s.label])))) :
    Gains t u i ((routes.map (s :: ·)).map (Branch.mk ls)) := by
  have hlabels : ∀ r : List Step,
      (Branch.mk ls (s :: r)).labels = (Branch.mk (ls ++ [s.label]) r).labels := by
    simp [Branch.labels]
  refine ⟨fun hx => hg.follow? (follow?_advance_of_follow? ht h s hx), fun ms => ?_, fun ms => ?_,
    fun ms => ?_⟩
  · rw [hg.hasVertex, hasVertex_advance ht h]
    simp only [List.mem_map, exists_exists_and_eq_and, hlabels]
    constructor
    · rintro ((hms | rfl) | hms)
      · exact .inl hms
      · obtain ⟨r, hr⟩ := List.exists_mem_of_ne_nil routes hne
        exact .inr ⟨r, hr, List.prefix_append _ _⟩
      · exact .inr hms
    · rintro (hms | hms)
      · exact .inl (.inl hms)
      · exact .inr hms
  · rw [hg.routeAt?, routeAt?_advance ht h]
    simp [hlabels, Function.comp_def]
  · have hnames : ∀ r : List Step, (Branch.mk ls (s :: r)).nameAt? ms =
        (if ms = ls then s.name? else none).or ((Branch.mk (ls ++ [s.label]) r).nameAt? ms) :=
      fun _ => rfl
    rw [hg.nameAt?, nameAt?_advance ht h, List.findSome?_map, List.findSome?_map,
      List.findSome?_map]
    simp only [Function.comp_def, hnames]
    rw [findSome?_or hne, ← Option.or_assoc]
    congr 1
    split
    · next hms => rw [hms]
    · rw [Option.or_none]

end Gains

end Trie
end LinkRouting
