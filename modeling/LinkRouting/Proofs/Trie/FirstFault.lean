import LinkRouting.Proofs.Trie.Refusal

/-! # The fault at which laying stops

A plan may have several faults.  Laying goes through the plan from the left, a group's body
before what follows the group, and so stops at the first of them, unless groups are refused
as ambiguous before that (`lay_error_firstFault`).  A body that was laid at all has no fault,
since it is laid behind the vertex where the groups begin at least.
-/
namespace LinkRouting

namespace Trie
open Pattern (Plan Groups Offence)

variable {ι : Type} {i : ι} {t : Trie ι} {v : Nat} {ls : List Label} {o : Offence}

/-- Laying the plan says nothing but that groups are ambiguous, or what its first fault is. -/
def StopsAtFirst (i : ι) (plan : Plan) : Prop :=
  ∀ ⦃t : Trie ι⦄ ⦃v : Nat⦄ ⦃ls : List Label⦄ ⦃o : Offence⦄, t.WellFormed →
    t.follow? root ls = some v → lay i plan t v = .error o →
      o = .ambiguousGroup ∨ plan.firstFault? = some o

theorem StopsAtFirst.step {rest plan : Plan} (h : StopsAtFirst i rest) (s : Step)
    (hlay : ∀ (t : Trie ι) v, lay i plan t v = lay i rest (t.advance v s).1 (t.advance v s).2)
    (hfirst : plan.firstFault? = rest.firstFault?) : StopsAtFirst i plan := by
  intro t v ls o ht hv herror
  have hw : (t.advance v s).1.follow? root (ls ++ [s.label]) = some (t.advance v s).2 := by
    rw [follow?_advance ht hv, if_pos rfl]
  rw [hlay] at herror
  rw [hfirst]
  exact h (wellFormed_advance ht (ht.lt_size hv) s) hw herror

/-- What is said behind one of several ends was said by the body. -/
theorem StopsAtFirst.stage {body : Plan} (h : StopsAtFirst i body) (ht : t.WellFormed)
    (hv : t.follow? root ls = some v)
    (herror : (t.terminalsUnder v).foldlM (fun t w => lay i body t w) t = .error o) :
    o = .ambiguousGroup ∨ body.firstFault? = some o := by
  obtain ⟨below, hb⟩ := ht.exists_below v
  have hroot : ∀ w ∈ t.terminalsUnder v, t.follow? root (ls ++ below w) = some w := by
    intro w hw
    rw [follow?_append, hv]
    exact hb w hw
  obtain ⟨before, w, later, t', hsplit, hbefore, hbody⟩ := foldlM_eq_error_iff.mp herror
  rw [hsplit] at hroot
  obtain ⟨-, hwf, hg⟩ := foldlM_lay_gains (lay_gains i body) before (fun x => ls ++ below x) ht
    (fun x hx => hroot x (List.mem_append_left _ hx)) hbefore
  exact h hwf (hg.follow? (hroot w (by simp))) hbody

mutual

/-- **Laying stops at the first fault or at ambiguous groups.** -/
theorem lay_error_firstFault (i : ι) : ∀ plan : Plan, StopsAtFirst i plan
  | .stop => fun _ _ _ _ _ _ h => by cases h
  | .exact token rest => (lay_error_firstFault i rest).step (.exact token) (fun _ _ => rfl) rfl
  | .capture name rest => (lay_error_firstFault i rest).step (.capture name) (fun _ _ => rfl) rfl
  | .groups gs => by
    intro t v ls o ht hv h
    rw [lay] at h
    split at h
    · next hfinal =>
      exact layGroups_error_firstFault i gs (wellFormed_mark ht (ht.lt_size hv) i)
        ((Gains.mark ht hv i).follow? hv) (endsBelow_mark ht hv hfinal i)
        (List.mem_singleton.mpr rfl) h
    · exact .inl (Except.error.inj h).symm
  | .fault _ => fun _ _ _ _ _ _ h => .inr (congrArg some (Except.error.inj h))

theorem layGroups_error_firstFault (i : ι) : ∀ (gs : Groups) {t : Trie ι} {v : Nat}
    {ls : List Label} {ends : List (List Step)} {o : Offence}, t.WellFormed →
    t.follow? root ls = some v → t.EndsBelow ls ends → [] ∈ ends →
    layGroups i gs t v = .error o → o = .ambiguousGroup ∨ gs.firstFault? = some o
  | .done, _, _, _, _, _, _, _, _, _, h => by cases h
  | .group body rest, t, v, ls, ends, o, ht, hv, he, hnil, h => by
    rw [layGroups] at h
    cases hfold : (t.terminalsUnder v).foldlM (fun t w => lay i body t w) t with
    | error o' =>
      rw [hfold] at h
      obtain rfl := Except.error.inj h
      refine ((lay_error_firstFault i body).stage ht hv hfold).imp_right fun hbody => ?_
      rw [Groups.firstFault?, hbody, Option.some_or]
    | ok t' =>
      rw [hfold] at h
      obtain ⟨hf, hwf, hg⟩ := (lay_gains i body).stage_gains ht hv he hnil hfold
      refine (layGroups_error_firstFault i rest hwf (hg.follow? hv) (he.of_gains hg)
        (List.mem_append_left _ hnil) h).imp_right fun hrest => ?_
      rw [Groups.firstFault?, body.firstFault?_eq_none_iff.mpr hf, Option.none_or, hrest]
  | .fault _, _, _, _, _, _, _, _, _, _, h => .inr (congrArg some (Except.error.inj h))

end

end Trie
end LinkRouting
