import LinkRouting.Proofs.Trie.Laying

/-! # Laying in two tries that look alike

Where two tries have the same vertices and the same ends below some labels (`Alike`),
a plan that is laid there comes to the same in both: it meets the same offence, or
leaves them alike (`lay_lockstep`).  Numbers, names and identifiers may differ, and so
may all that is not below these labels.

Offences make it matter in which order the ends are collected.  The order is that of
the labels on the way (`Alike.forall₂_terminalsUnder`), so it is the same in both.
-/
namespace LinkRouting

/-! ### Options in a relation -/

section Rel
variable {α β γ δ : Type} {P : α → β → Prop} {Q : γ → δ → Prop} {x x' : Option α}
  {y y' : Option β}

theorem rel_bind {f : α → Option γ} {g : β → Option δ} (h : Option.Rel P x y)
    (hfg : ∀ a b, P a b → Option.Rel Q (f a) (g b)) : Option.Rel Q (x.bind f) (y.bind g) := by
  cases h with
  | some hab => exact hfg _ _ hab
  | none => exact .none

theorem rel_map {f : α → γ} {g : β → δ} (h : Option.Rel P x y)
    (hfg : ∀ a b, P a b → Q (f a) (g b)) : Option.Rel Q (x.map f) (y.map g) := by
  cases h with
  | some hab => exact .some (hfg _ _ hab)
  | none => exact .none

theorem rel_or (h : Option.Rel P x y) (h' : Option.Rel P x' y') :
    Option.Rel P (x.or x') (y.or y') := by
  cases h with
  | some hab => exact .some hab
  | none => exact h'

theorem rel_imp {P' : α → β → Prop} (h : Option.Rel P x y) (hP : ∀ a b, P a b → P' a b) :
    Option.Rel P' x y := by
  cases h with
  | some hab => exact .some (hP _ _ hab)
  | none => exact .none

/-- Options of which both are there or neither is. -/
theorem rel_of_isSome_iff (h : x.isSome ↔ y.isSome) :
    Option.Rel (fun a b => x = some a ∧ y = some b) x y := by
  cases x with
  | none =>
    cases y with
    | none => exact .none
    | some b => simp at h
  | some a =>
    cases y with
    | none => simp at h
    | some b => exact .some ⟨rfl, rfl⟩

theorem isSome_iff_of_rel (h : Option.Rel P x y) : x.isSome ↔ y.isSome := by
  cases h <;> simp

theorem eq_of_rel {P : α → α → Prop} {x y : Option α} (h : Option.Rel P x y)
    (heq : ∀ a b, P a b → a = b) : x = y := by
  cases h with
  | some hab => rw [heq _ _ hab]
  | none => rfl

end Rel

/-! ### The order of edges -/

/-- The order in which a vertex has its edges: exact ones as their tokens stand, and the
parameter edge last. -/
def Label.Precedes : Label → Label → Prop
  | .exact a, .exact b => a.precedes b = true
  | .exact _, .parameter => True
  | .parameter, _ => False

instance : IsStrictOrder Label Label.Precedes where
  irrefl l h := by
    cases l with
    | exact token => simp [Label.Precedes, Path.Token.precedes_irrefl] at h
    | parameter => exact h
  trans a b c hab hbc := by
    cases a <;> cases b <;> cases c <;> simp_all only [Label.Precedes]
    -- Only exact edges are left, which are ordered as their tokens are.
    exact Path.Token.precedes_trans hab hbc

namespace Vertex
variable {ι : Type}

/-- The labels of the edges, in their order. -/
def labels (x : Vertex ι) : List Label :=
  x.exact.map (fun e => .exact e.1) ++ (x.parameter.map fun _ => .parameter).toList

end Vertex

namespace Trie
open Pattern (Plan Groups Offence)

variable {ι : Type} {t u : Trie ι}

theorem WellFormed.mem_labels (ht : t.WellFormed) (v : Nat) (l : Label) :
    l ∈ (t.vertex v).labels ↔ (t.child? v l).isSome := by
  rw [Vertex.labels, List.mem_append, List.mem_map, Option.mem_toList]
  cases l with
  | exact token =>
    rw [Option.isSome_iff_exists]
    constructor
    · rintro (⟨e, he, heq⟩ | h)
      · obtain rfl := Label.exact.inj heq
        exact ⟨e.2, (ht.sorted v).mem_iff_lookup.mp he⟩
      · cases hp : (t.vertex v).parameter <;> simp [hp] at h
    · rintro ⟨w, hw⟩
      exact .inl ⟨(token, w), (ht.sorted v).mem_iff_lookup.mpr hw, rfl⟩
  | parameter =>
    cases hp : (t.vertex v).parameter <;> simp [child?, parameter?, hp]

theorem WellFormed.children_eq (ht : t.WellFormed) (v : Nat) :
    (t.vertex v).children = (t.vertex v).labels.filterMap (t.child? v) := by
  rw [Vertex.children, Vertex.labels, List.filterMap_append, List.filterMap_map]
  congr 1
  · rw [← List.filterMap_eq_map]
    exact List.filterMap_congr fun e he => ((ht.sorted v).mem_iff_lookup.mp he).symm
  · cases hp : (t.vertex v).parameter <;> simp [child?, parameter?, hp]

theorem WellFormed.pairwise_labels (ht : t.WellFormed) (v : Nat) :
    (t.vertex v).labels.Pairwise Label.Precedes := by
  refine List.pairwise_append.mpr ⟨List.pairwise_map.mpr (ht.sorted v), ?_, ?_⟩
  · cases (t.vertex v).parameter <;> simp
  · intro l hl m hm
    obtain ⟨e, -, rfl⟩ := List.mem_map.mp hl
    obtain ⟨_, -, rfl⟩ := Option.map_eq_some_iff.mp (Option.mem_toList.mp hm)
    trivial

/-- Vertices with the same labels have them in the same order. -/
theorem WellFormed.labels_eq (ht : t.WellFormed) (hu : u.WellFormed) {v w : Nat}
    (h : ∀ l, (t.child? v l).isSome ↔ (u.child? w l).isSome) :
    (t.vertex v).labels = (u.vertex w).labels :=
  (ht.pairwise_labels v).eq_of_mem_iff (hu.pairwise_labels w) fun l => by
    rw [ht.mem_labels, hu.mem_labels, h]

/-- Vertices with the same labels have their children in the same order. -/
theorem WellFormed.forall₂_children (ht : t.WellFormed) (hu : u.WellFormed) {v w : Nat}
    (h : ∀ l, (t.child? v l).isSome ↔ (u.child? w l).isSome) :
    List.Forall₂ (fun x y => ∃ l, t.child? v l = some x ∧ u.child? w l = some y)
      (t.vertex v).children (u.vertex w).children := by
  rw [ht.children_eq, hu.children_eq, ht.labels_eq hu h]
  refine List.rel_filterMap (R := Eq) ?_ (List.forall₂_refl _)
  rintro l _ rfl
  exact rel_imp (rel_of_isSome_iff (h l)) fun x y hxy => ⟨l, hxy⟩

/-! ### Tries that look alike below some labels -/

/-- **Two tries look alike below some labels**: they have the same vertices and the
same ends there. -/
structure Alike (ls : List Label) (t u : Trie ι) : Prop where
  left : t.WellFormed
  right : u.WellFormed
  hasVertex_iff : ∀ ms, t.HasVertex (ls ++ ms) ↔ u.HasVertex (ls ++ ms)
  isEnd_iff : ∀ ms, (t.routeAt? (ls ++ ms)).isSome ↔ (u.routeAt? (ls ++ ms)).isSome

/-- Two vertices have the same labels, which come below the given ones. -/
def Counterparts (ls : List Label) (t u : Trie ι) (v w : Nat) : Prop :=
  ∃ ms, t.follow? root (ls ++ ms) = some v ∧ u.follow? root (ls ++ ms) = some w

section Alike
variable {ls : List Label} {v w : Nat}

theorem Alike.child?_isSome (h : Alike ls t u) (hvw : Counterparts ls t u v w) (l : Label) :
    (t.child? v l).isSome ↔ (u.child? w l).isSome := by
  obtain ⟨ms, hv, hw⟩ := hvw
  rw [← hasVertex_concat_iff hv, ← hasVertex_concat_iff hw, List.append_assoc]
  exact h.hasVertex_iff _

theorem Alike.isFinal_eq (h : Alike ls t u) (hvw : Counterparts ls t u v w) :
    (t.vertex v).isFinal = (u.vertex w).isFinal := by
  rw [Bool.eq_iff_iff, t.isFinal_iff, u.isFinal_iff]
  refine forall_congr' fun l => ?_
  rw [← Option.not_isSome_iff_eq_none, ← Option.not_isSome_iff_eq_none, h.child?_isSome hvw]

theorem Alike.isTerminal_eq (h : Alike ls t u) (hvw : Counterparts ls t u v w) :
    (t.vertex v).isTerminal = (u.vertex w).isTerminal := by
  obtain ⟨ms, hv, hw⟩ := hvw
  rw [Bool.eq_iff_iff, Vertex.isTerminal, Vertex.isTerminal, ← routeAt?_of_follow? hv,
    ← routeAt?_of_follow? hw]
  exact h.isEnd_iff ms

theorem Counterparts.child (hvw : Counterparts ls t u v w) {l : Label} {x y : Nat}
    (hx : t.child? v l = some x) (hy : u.child? w l = some y) : Counterparts ls t u x y := by
  obtain ⟨ms, hv, hw⟩ := hvw
  refine ⟨ms ++ [l], ?_, ?_⟩
  · rw [← List.append_assoc, follow?_concat, hv, Option.bind_some, hx]
  · rw [← List.append_assoc, follow?_concat, hw, Option.bind_some, hy]

/-- **The ends below counterparts are collected in the same order.** -/
theorem Alike.forall₂_terminalsUnder (h : Alike ls t u) (hvw : Counterparts ls t u v w) :
    List.Forall₂ (Counterparts ls t u) (t.terminalsUnder v) (u.terminalsUnder w) := by
  induction v using h.left.children_induction generalizing w with
  | step v ih =>
    rw [h.left.terminalsUnder_eq, h.right.terminalsUnder_eq, h.isTerminal_eq hvw]
    refine List.rel_append ?_ ?_
    · split
      · exact .cons hvw .nil
      · exact .nil
    · refine List.rel_flatMap (h.left.forall₂_children h.right (h.child?_isSome hvw)) ?_
      rintro x y ⟨l, hx, hy⟩
      exact ih l x hx (hvw.child hx hy)

/-! ### One operation in both tries -/

theorem Counterparts.mark (hvw : Counterparts ls t u v w) {x y : Nat} (hx : x < t.size)
    (hy : y < u.size) (i j : ι) : Counterparts ls (t.mark x i) (u.mark y j) v w := by
  obtain ⟨ms, hv, hw⟩ := hvw
  exact ⟨ms, by rw [follow?_mark hx, hv], by rw [follow?_mark hy, hw]⟩

theorem Alike.mark (h : Alike ls t u) (hvw : Counterparts ls t u v w) (i j : ι) :
    Alike ls (t.mark v i) (u.mark w j) := by
  obtain ⟨ms, hv, hw⟩ := hvw
  have hvt := h.left.lt_size hv
  have hwu := h.right.lt_size hw
  refine ⟨wellFormed_mark h.left hvt i, wellFormed_mark h.right hwu j, fun ns => ?_, fun ns => ?_⟩
  · rw [HasVertex, HasVertex, follow?_mark hvt, follow?_mark hwu]
    exact h.hasVertex_iff ns
  · have hvi := h.isEnd_iff ns
    rw [routeAt?_mark h.left hv, routeAt?_mark h.right hw]
    split
    · simp
    · exact hvi

theorem Counterparts.advance (h : Alike ls t u) (hvw : Counterparts ls t u v w) {x y : Nat}
    (hxy : Counterparts ls t u x y) (s : Step) :
    Counterparts ls (t.advance x s).1 (u.advance y s).1 v w := by
  obtain ⟨ms, hv, hw⟩ := hvw
  obtain ⟨ns, hx, hy⟩ := hxy
  exact ⟨ms, follow?_advance_of_follow? h.left hx s hv, follow?_advance_of_follow? h.right hy s hw⟩

/-- The vertices that a step leads to are counterparts again. -/
theorem Counterparts.advance_target (h : Alike ls t u) (hvw : Counterparts ls t u v w) (s : Step) :
    Counterparts ls (t.advance v s).1 (u.advance w s).1 (t.advance v s).2 (u.advance w s).2 := by
  obtain ⟨ms, hv, hw⟩ := hvw
  refine ⟨ms ++ [s.label], ?_, ?_⟩
  · rw [← List.append_assoc, follow?_advance h.left hv, if_pos rfl]
  · rw [← List.append_assoc, follow?_advance h.right hw, if_pos rfl]

theorem Alike.advance (h : Alike ls t u) (hvw : Counterparts ls t u v w) (s : Step) :
    Alike ls (t.advance v s).1 (u.advance w s).1 := by
  obtain ⟨ms, hv, hw⟩ := hvw
  refine ⟨wellFormed_advance h.left (h.left.lt_size hv) s,
    wellFormed_advance h.right (h.right.lt_size hw) s, fun ns => ?_, fun ns => ?_⟩
  · rw [hasVertex_advance h.left hv, hasVertex_advance h.right hw, h.hasVertex_iff]
  · rw [routeAt?_advance h.left hv, routeAt?_advance h.right hw]
    exact h.isEnd_iff ns

/-! ### Laying in both tries -/

/-- **Both sides come to the same**: they stop at one offence, or the tries are alike
and the counterparts from before are counterparts still. -/
inductive Lockstep (ls : List Label) (t u : Trie ι) :
    Except Offence (Trie ι) → Except Offence (Trie ι) → Prop
  | ok {t' u' : Trie ι} (alike : Alike ls t' u')
      (kept : ∀ v w, Counterparts ls t u v w → Counterparts ls t' u' v w) :
      Lockstep ls t u (.ok t') (.ok u')
  | error (o : Offence) : Lockstep ls t u (.error o) (.error o)

namespace Lockstep

/-- What was done before on both sides does not matter if it kept the counterparts. -/
theorem of_kept {t' u' : Trie ι} {x y : Except Offence (Trie ι)}
    (hkept : ∀ v w, Counterparts ls t u v w → Counterparts ls t' u' v w)
    (h : Lockstep ls t' u' x y) : Lockstep ls t u x y := by
  cases h with
  | error o => exact .error o
  | ok halike hkept' => exact .ok halike fun v w hvw => hkept' v w (hkept v w hvw)

theorem bind {x y : Except Offence (Trie ι)} {f g : Trie ι → Except Offence (Trie ι)}
    (h : Lockstep ls t u x y)
    (hfg : ∀ t' u', Alike ls t' u' →
      (∀ v w, Counterparts ls t u v w → Counterparts ls t' u' v w) →
        Lockstep ls t' u' (f t') (g u')) : Lockstep ls t u (x >>= f) (y >>= g) := by
  cases h with
  | error o => exact .error o
  | @ok t' u' halike hkept => exact (hfg t' u' halike hkept).of_kept hkept

/-- Both sides come to the same answer. -/
theorem map_unit_eq {x y : Except Offence (Trie ι)} (h : Lockstep ls t u x y) :
    x.map (fun _ => ()) = y.map (fun _ => ()) := by
  cases h <;> rfl

end Lockstep

/-- A plan comes to the same in alike tries. -/
def LaysAlike (ls : List Label) (i j : ι) (plan : Plan) : Prop :=
  ∀ ⦃t u : Trie ι⦄ ⦃v w : Nat⦄, Alike ls t u → Counterparts ls t u v w →
    Lockstep ls t u (lay i plan t v) (lay j plan u w)

variable {i j : ι}

theorem foldlM_lay_lockstep {body : Plan} (hbody : LaysAlike ls i j body) {vs ws : List Nat}
    (hvw : List.Forall₂ (Counterparts ls t u) vs ws) (h : Alike ls t u) :
    Lockstep ls t u (vs.foldlM (fun t v => lay i body t v) t)
      (ws.foldlM (fun u w => lay j body u w) u) := by
  induction vs generalizing t u ws with
  | nil =>
    obtain rfl := List.forall₂_nil_left_iff.mp hvw
    exact .ok h fun _ _ => id
  | cons v vs ih =>
    obtain ⟨w, ws', hv, hvs, rfl⟩ := List.forall₂_cons_left_iff.mp hvw
    rw [List.foldlM_cons, List.foldlM_cons]
    exact (hbody h hv).bind fun t' u' h' hkept => ih (hvs.imp hkept) h'

theorem lay_step_lockstep {rest plan : Plan} (hrest : LaysAlike ls i j rest) (s : Step)
    (hlay : ∀ (k : ι) (t : Trie ι) v,
      lay k plan t v = lay k rest (t.advance v s).1 (t.advance v s).2) : LaysAlike ls i j plan := by
  intro t u v w h hvw
  rw [hlay, hlay]
  exact (hrest (h.advance hvw s) (hvw.advance_target h s)).of_kept fun _ _ hxy =>
    hxy.advance h hvw s

mutual

/-- **A plan meets the same offence in alike tries, or leaves them alike.** -/
theorem lay_lockstep (ls : List Label) (i j : ι) : ∀ plan : Plan, LaysAlike ls i j plan
  | .stop => by
    intro t u v w h hvw
    obtain ⟨ms, hv, hw⟩ := hvw
    exact .ok (h.mark ⟨ms, hv, hw⟩ i j) fun x y hxy =>
      hxy.mark (h.left.lt_size hv) (h.right.lt_size hw) i j
  | .exact token rest =>
    lay_step_lockstep (lay_lockstep ls i j rest) (.exact token) fun _ _ _ => rfl
  | .capture name rest =>
    lay_step_lockstep (lay_lockstep ls i j rest) (.capture name) fun _ _ _ => rfl
  | .groups gs => by
    intro t u v w h hvw
    rw [lay, lay, h.isFinal_eq hvw]
    split
    · obtain ⟨ms, hv, hw⟩ := hvw
      have hmark := fun x y (hxy : Counterparts ls t u x y) =>
        hxy.mark (h.left.lt_size hv) (h.right.lt_size hw) i j
      exact (layGroups_lockstep ls i j gs (h.mark ⟨ms, hv, hw⟩ i j)
        (hmark v w ⟨ms, hv, hw⟩)).of_kept hmark
    · exact .error _
  | .fault o => fun _ _ _ _ _ _ => .error o

/-- The same for groups side by side. -/
theorem layGroups_lockstep (ls : List Label) (i j : ι) : ∀ (gs : Groups) {t u : Trie ι} {v w : Nat},
    Alike ls t u → Counterparts ls t u v w →
      Lockstep ls t u (layGroups i gs t v) (layGroups j gs u w)
  | .done, _, _, _, _, h, _ => .ok h fun _ _ => id
  | .group body rest, _, _, v, w, h, hvw =>
    (foldlM_lay_lockstep (lay_lockstep ls i j body) (h.forall₂_terminalsUnder hvw) h).bind
      fun _ _ h' hkept => layGroups_lockstep ls i j rest h' (hkept v w hvw)
  | .fault o, _, _, _, _, _, _ => .error o

end

end Alike

end Trie
end LinkRouting
