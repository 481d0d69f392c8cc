import LinkRouting.Proofs.Pattern.Faults
import LinkRouting.Proofs.Trie.Lockstep

/-! # Why a plan is not laid

Laying a plan stops at a fault of the plan, or at groups that begin where something
leads on (`lay_error`).  Of the routes that a trie holds already, only those count
that lead on from where the plan's first groups begin (`GoesOn`).  If there are any,
the first groups are refused (`lay_along_groups_of_goesOn`); if there are none, it
does not matter what else the trie holds (`map_lay_along_groups`).
-/
namespace LinkRouting
namespace Trie
open Pattern (Plan Groups Offence)

variable {ι : Type} {t u : Trie ι} {i j : ι}

/-! ### The errors of laying -/

/-- A fold stops at the first element that is refused. -/
theorem foldlM_eq_error_iff {ε α β : Type} {f : β → α → Except ε β} {xs : List α} {b : β} {e : ε} :
    xs.foldlM f b = .error e ↔
      ∃ l x r b', xs = l ++ x :: r ∧ l.foldlM f b = .ok b' ∧ f b' x = .error e := by
  constructor
  · intro h
    induction xs generalizing b with
    | nil => cases h
    | cons x xs ih =>
      rw [List.foldlM_cons] at h
      cases hx : f b x with
      | error e' =>
        rw [hx] at h
        obtain rfl := Except.error.inj h
        exact ⟨[], x, xs, b, rfl, rfl, hx⟩
      | ok b' =>
        rw [hx] at h
        obtain ⟨l, y, r, b'', rfl, hl, hy⟩ := ih h
        exact ⟨x :: l, y, r, b'', rfl, by rw [List.foldlM_cons, hx]; exact hl, hy⟩
  · rintro ⟨l, x, r, b', rfl, hl, hx⟩
    rw [List.foldlM_append, hl]
    show List.foldlM f b' (x :: r) = .error e
    rw [List.foldlM_cons, hx]
    rfl

mutual

/-- **Laying stops at a fault of the plan or at ambiguous groups.** -/
theorem lay_error {P : Offence → Prop} {o : Offence} : ∀ (plan : Plan) {t : Trie ι} {v : Nat},
    plan.EveryFault P → lay i plan t v = .error o → o = .ambiguousGroup ∨ P o
  | .stop, _, _, _, h => by cases h
  | .exact _ rest, _, _, hp, h => lay_error rest hp h
  | .capture _ rest, _, _, hp, h => lay_error rest hp h
  | .groups gs, _, _, hp, h => by
    rw [lay] at h
    split at h
    · exact layGroups_error gs hp h
    · exact .inl (Except.error.inj h).symm
  | .fault _, _, _, hp, h => .inr (Except.error.inj h ▸ hp)

theorem layGroups_error {P : Offence → Prop} {o : Offence} :
    ∀ (gs : Groups) {t : Trie ι} {v : Nat},
      gs.EveryFault P → layGroups i gs t v = .error o → o = .ambiguousGroup ∨ P o
  | .done, _, _, _, h => by cases h
  | .group body rest, t, v, hp, h => by
    rw [layGroups] at h
    cases hfold : (t.terminalsUnder v).foldlM (fun t w => lay i body t w) t with
    | error o' =>
      rw [hfold] at h
      obtain rfl := Except.error.inj h
      obtain ⟨_, w, _, t', -, -, hbody⟩ := foldlM_eq_error_iff.mp hfold
      exact lay_error body hp.1 hbody
    | ok t' =>
      rw [hfold] at h
      exact layGroups_error rest hp.2 h
  | .fault _, _, _, hp, h => .inr (Except.error.inj h ▸ hp)

end

/-- A plan without faults is refused only for ambiguous groups. -/
theorem eq_ambiguousGroup_of_lay_error {plan : Plan} (hf : plan.Faultless) {v : Nat} {o : Offence}
    (h : lay i plan t v = .error o) : o = .ambiguousGroup :=
  (lay_error _ (plan.everyFault_of_faultless (fun _ => False) hf) h).resolve_right id

/-! ### Where the first groups begin -/

/-- Something leads on from the vertex with these labels. -/
def GoesOn (t : Trie ι) (ls : List Label) : Prop :=
  ∃ v, t.follow? root ls = some v ∧ (t.vertex v).isFinal = false

theorem goesOn_iff_of_follow? {ls : List Label} {v : Nat} (hv : t.follow? root ls = some v) :
    t.GoesOn ls ↔ (t.vertex v).isFinal = false := by
  constructor
  · rintro ⟨w, hw, h⟩
    rwa [Option.some.inj (hv.symm.trans hw)]
  · exact fun h => ⟨v, hv, h⟩

theorem goesOn_iff {ls : List Label} : t.GoesOn ls ↔ ∃ l, t.HasVertex (ls ++ [l]) := by
  constructor
  · rintro ⟨v, hv, hgo⟩
    by_contra! hno
    have hfinal : (t.vertex v).isFinal = true := by
      refine (t.isFinal_iff v).mpr fun l => ?_
      rw [← Option.not_isSome_iff_eq_none, ← hasVertex_concat_iff hv]
      exact hno l
    rw [hfinal] at hgo
    cases hgo
  · rintro ⟨l, hl⟩
    obtain ⟨v, hv⟩ := Option.isSome_iff_exists.mp (hl.of_isPrefix (List.prefix_append ls [l]))
    refine ⟨v, hv, Bool.eq_false_iff.mpr fun hfinal => ?_⟩
    exact not_hasVertex_of_isFinal hv hfinal l hl

theorem GoesOn.mono (hsub : ∀ ls, t.HasVertex ls → u.HasVertex ls) {ls : List Label}
    (h : t.GoesOn ls) : u.GoesOn ls := by
  obtain ⟨l, hl⟩ := goesOn_iff.mp h
  exact goesOn_iff.mpr ⟨l, hsub _ hl⟩

theorem not_goesOn_empty (ls : List Label) : ¬ (empty : Trie ι).GoesOn ls := by
  intro h
  obtain ⟨l, hl⟩ := goesOn_iff.mp h
  exact List.concat_ne_nil l ls ((hasVertex_empty _).mp hl)

/-- Steps are taken before what is behind them is laid.  The way that they go is all
that the trie gains. -/
theorem exists_lay_along (ss : List Step) {v : Nat} {ls : List Label} (ht : t.WellFormed)
    (hv : t.follow? root ls = some v) :
    ∃ t' v', t'.WellFormed ∧ t'.follow? root (ls ++ ss.map Step.label) = some v' ∧
      (∀ ms, t'.HasVertex ms ↔ t.HasVertex ms ∨ ms <+: ls ++ ss.map Step.label) ∧
      ∀ (i : ι) rest, lay i (.along ss rest) t v = lay i rest t' v' := by
  induction ss generalizing t v ls with
  | nil =>
    refine ⟨t, v, ht, by simpa using hv, fun ms => ⟨.inl, ?_⟩, fun _ _ => rfl⟩
    rintro (hms | hp)
    · exact hms
    · exact (hasVertex_of_follow? hv).of_isPrefix (by simpa using hp)
  | cons s ss ih =>
    have hw : (t.advance v s).1.follow? root (ls ++ [s.label]) = some (t.advance v s).2 := by
      rw [follow?_advance ht hv, if_pos rfl]
    obtain ⟨t', v', ht', hv', hvertex, hlay⟩ := ih (wellFormed_advance ht (ht.lt_size hv) s) hw
    rw [List.append_assoc, List.singleton_append] at hv' hvertex
    refine ⟨t', v', ht', hv', fun ms => ?_, fun i rest => ?_⟩
    · rw [hvertex, hasVertex_advance ht hv, or_assoc]
      refine or_congr_right ⟨?_, .inr⟩
      rintro (rfl | hp)
      · exact ⟨ss.map Step.label, by simp⟩
      · exact hp
    · rw [← hlay]
      cases s <;> rfl

/-- After the steps, what leads on from their end is what led on before. -/
theorem exists_lay_along_root (ss : List Step) (ht : t.WellFormed) :
    ∃ t' v', t'.WellFormed ∧ t'.follow? root (ss.map Step.label) = some v' ∧
      ((t'.vertex v').isFinal = false ↔ t.GoesOn (ss.map Step.label)) ∧
      ∀ (i : ι) rest, lay i (.along ss rest) t root = lay i rest t' v' := by
  obtain ⟨t', v', ht', hv', hvertex, hlay⟩ := exists_lay_along ss ht (follow?_nil t root)
  rw [List.nil_append] at hv' hvertex
  refine ⟨t', v', ht', hv', ?_, hlay⟩
  have hgo : t'.GoesOn (ss.map Step.label) ↔ t.GoesOn (ss.map Step.label) := by
    rw [goesOn_iff, goesOn_iff]
    refine exists_congr fun l => (hvertex _).trans ⟨?_, .inl⟩
    rintro (h | hp)
    · exact h
    · have := hp.length_le
      simp at this
  rw [← hgo, goesOn_iff_of_follow? hv']

theorem lay_along_stop (ss : List Step) (ht : t.WellFormed) :
    ∃ u, lay i (.along ss .stop) t root = .ok u := by
  obtain ⟨t', v', -, -, -, hlay⟩ := exists_lay_along_root ss ht
  exact ⟨_, hlay i .stop⟩

theorem lay_along_fault (ss : List Step) (o : Offence) (ht : t.WellFormed) :
    lay i (.along ss (.fault o)) t root = .error o := by
  obtain ⟨t', v', -, -, -, hlay⟩ := exists_lay_along_root ss ht
  exact hlay i (.fault o)

/-- **Groups are refused where something leads on.** -/
theorem lay_along_groups_of_goesOn {ss : List Step} (gs : Groups) (ht : t.WellFormed)
    (h : t.GoesOn (ss.map Step.label)) :
    lay i (.along ss (.groups gs)) t root = .error .ambiguousGroup := by
  obtain ⟨t', v', -, -, hfinal, hlay⟩ := exists_lay_along_root ss ht
  rw [hlay, lay, if_neg (by rw [hfinal.mpr h]; exact Bool.false_ne_true)]

/-- Where nothing leads on, two tries look alike when the vertex is marked. -/
theorem alike_mark {ls : List Label} {v w : Nat} (ht : t.WellFormed) (hu : u.WellFormed)
    (hv : t.follow? root ls = some v) (hw : u.follow? root ls = some w)
    (hvf : (t.vertex v).isFinal = true) (hwf : (u.vertex w).isFinal = true) (i j : ι) :
    Alike ls (t.mark v i) (u.mark w j) := by
  have hvt := ht.lt_size hv
  have hwu := hu.lt_size hw
  refine ⟨wellFormed_mark ht hvt i, wellFormed_mark hu hwu j, fun ms => ?_, fun ms => ?_⟩
  · rw [HasVertex, HasVertex, follow?_mark hvt, follow?_mark hwu, follow?_append, follow?_append,
      hv, hw, Option.bind_some, Option.bind_some]
    cases ms with
    | nil => rfl
    | cons m ms =>
      rw [follow?, follow?, (t.isFinal_iff v).mp hvf m, (u.isFinal_iff w).mp hwf m]
      rfl
  · rw [endsBelow_mark ht hv hvf i ms, endsBelow_mark hu hw hwf j ms]

/-- **Where nothing leads on from the first groups, the answer does not depend on what
else the trie holds.** -/
theorem map_lay_along_groups {ss : List Step} (gs : Groups) (ht : t.WellFormed)
    (hu : u.WellFormed) (htgo : ¬ t.GoesOn (ss.map Step.label))
    (hugo : ¬ u.GoesOn (ss.map Step.label)) :
    (lay i (.along ss (.groups gs)) t root).map (fun _ => ()) =
      (lay j (.along ss (.groups gs)) u root).map fun _ => () := by
  obtain ⟨t', v, ht', hv, hvf, hlayt⟩ := exists_lay_along_root ss ht
  obtain ⟨u', w, hu', hw, hwf, hlayu⟩ := exists_lay_along_root ss hu
  rw [← hvf, Bool.not_eq_false] at htgo
  rw [← hwf, Bool.not_eq_false] at hugo
  rw [hlayt, hlayu, lay, lay, if_pos htgo, if_pos hugo]
  refine (layGroups_lockstep (ss.map Step.label) i j gs
    (alike_mark ht' hu' hv hw htgo hugo i j) ⟨[], ?_, ?_⟩).map_unit_eq
  · rw [List.append_nil, follow?_mark (ht'.lt_size hv), hv]
  · rw [List.append_nil, follow?_mark (hu'.lt_size hw), hw]

end Trie
end LinkRouting
