import LinkRouting.Pattern.Plan
import LinkRouting.Pattern.Stretch

/-! # What a stretch holds

A stretch that lies in a list of tokens holds a run of them, behind the trail of those
before (`Stretch.Holds`).  Its first token is that of the run (`peek_eq`), what is told of its
place is the text of the trail (`unexpectedAt_eq`), and the `)` that is found in it is the one at
which the run is split (`closingParen_eq`).  So nothing is ever looked for outside the list.
-/
namespace LinkRouting
namespace Pattern
namespace Stretch

/-- **A stretch holds a run of tokens**, behind those of a trail, which are kept latest first. -/
structure Holds (s : Stretch) (ts trail run : List Token) : Prop where
  eq : ∃ after, ts = trail.reverse ++ (run ++ after)
  start_eq : s.start = trail.length
  stop_eq : s.stop = trail.length + run.length

/-- A list of tokens is held from its start to its end. -/
theorem holds_append (before run : List Token) :
    Holds ⟨before.length, (before ++ run).length⟩ (before ++ run) before.reverse run where
  eq := ⟨[], by simp⟩
  start_eq := List.length_reverse.symm
  stop_eq := by simp

namespace Holds
variable {s : Stretch} {ts trail run us : List Token} {t : Token}

theorem le (h : s.Holds ts trail run) : s.start ≤ s.stop ∧ s.stop ≤ ts.length := by
  obtain ⟨after, rfl⟩ := h.eq
  rw [h.start_eq, h.stop_eq]
  simp only [List.length_append, List.length_reverse]
  omega

theorem take_start (h : s.Holds ts trail run) : ts.take s.start = trail.reverse := by
  obtain ⟨after, rfl⟩ := h.eq
  rw [h.start_eq, ← List.length_reverse, List.take_left]

theorem tokens_eq (h : s.Holds ts trail run) : s.tokens ts = run := by
  obtain ⟨after, rfl⟩ := h.eq
  rw [tokens, h.start_eq, h.stop_eq, ← List.append_assoc, List.take_left' (by simp),
    List.drop_left' (by simp)]

theorem start_lt_iff (h : s.Holds ts trail run) : s.start < s.stop ↔ run ≠ [] := by
  rw [h.start_eq, h.stop_eq, Nat.lt_add_right_iff_pos, List.length_pos_iff]

/-- The token at the start of a stretch is the first of what it holds. -/
theorem getElem?_start (h : s.Holds ts trail (t :: us)) : ts[s.start]? = some t := by
  obtain ⟨after, rfl⟩ := h.eq
  rw [h.start_eq, List.getElem?_append_right (by simp)]
  simp

theorem peek_eq (h : s.Holds ts trail run) : s.peek ts = run.head? := by
  rw [peek]
  cases run with
  | nil => exact if_neg fun hlt => h.start_lt_iff.mp hlt rfl
  | cons t us => rw [if_pos (h.start_lt_iff.mpr (List.cons_ne_nil t us)), h.getElem?_start]; rfl

theorem exists_cons (h : s.Holds ts trail run) (hpeek : s.peek ts = some t) :
    ∃ us, run = t :: us :=
  List.head?_eq_some_iff.mp (h.peek_eq ▸ hpeek)

/-- Behind its first token a stretch holds the rest. -/
theorem rest (h : s.Holds ts trail (t :: us)) : s.rest.Holds ts (t :: trail) us where
  eq := by
    obtain ⟨after, rfl⟩ := h.eq
    exact ⟨after, by simp⟩
  start_eq := congrArg (· + 1) h.start_eq
  stop_eq := by
    rw [Stretch.rest, h.stop_eq, List.length_cons, List.length_cons]
    omega

/-- **What is told of a place is the text of the trail.** -/
theorem unexpectedAt_eq (h : s.Holds ts trail run) :
    unexpectedAt ts s.start = .refused (.after trail) := by
  rw [unexpectedAt, if_pos (Nat.le_trans h.le.1 h.le.2), h.take_start]
  rfl

/-- **The `)` that is found is the one at which the run is split.** -/
theorem closingParen_eq (h : s.Holds ts trail run) (depth : Nat) :
    closingParen ts depth s = (closeGroup? depth run).elim (.error (.refused .unbalanced))
      fun split => .ok (s.start + split.1.length) := by
  induction run generalizing s trail depth with
  | nil =>
    rw [closingParen.eq_def, if_neg fun hlt => h.start_lt_iff.mp hlt rfl]
    rfl
  | cons t us ih =>
    have hlater : ∀ depth (u : Token), closingParen ts depth s.rest =
        ((closeGroup? depth us).map fun split => (u :: split.1, split.2)).elim
          (.error (.refused .unbalanced)) fun split => .ok (s.start + split.1.length) := by
      intro depth u
      rw [ih h.rest]
      cases closeGroup? depth us with
      | none => rfl
      | some split =>
        refine congrArg Except.ok ?_
        show s.start + 1 + split.1.length = s.start + (u :: split.1).length
        rw [List.length_cons]
        omega
    rw [closingParen.eq_def, if_pos (h.start_lt_iff.mpr (List.cons_ne_nil t us)), h.getElem?_start]
    cases t with
    | slash | dot | literal text | symbol name | star name => exact hlater depth _
    | openParen => exact hlater (depth + 1) _
    | closeParen =>
      cases depth with
      | zero => rfl
      | succ depth => exact hlater depth _

/-- A stretch that ends earlier holds the first part of a run. -/
theorem left (h : s.Holds ts trail (run ++ us)) :
    Holds ⟨s.start, s.start + run.length⟩ ts trail run where
  eq := by
    obtain ⟨after, rfl⟩ := h.eq
    exact ⟨us ++ after, by rw [List.append_assoc]⟩
  start_eq := h.start_eq
  stop_eq := by rw [h.start_eq]

/-- A stretch that starts later holds the other part, behind the first. -/
theorem right (h : s.Holds ts trail (run ++ us)) :
    Holds ⟨s.start + run.length, s.stop⟩ ts (run.reverse ++ trail) us where
  eq := by
    obtain ⟨after, rfl⟩ := h.eq
    exact ⟨after, by simp⟩
  start_eq := by simp [h.start_eq, Nat.add_comm]
  stop_eq := by
    rw [h.stop_eq]
    simp only [List.length_append, List.length_reverse]
    omega

end Holds
end Stretch
end Pattern
end LinkRouting
