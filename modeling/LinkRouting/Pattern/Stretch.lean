import LinkRouting.Pattern.Offence

/-!
# Stretches of tokens

Where a pattern is read without copying a part of it, what is still to be read is a **stretch** of
the list of all its tokens, given by the number of its first token and the number behind its last.
A number may then lie outside the list, and reading can end for that reason too (`Halt.outOfRange`).
-/

namespace LinkRouting
namespace Pattern

/-- A stretch of a list of tokens, by the number of its first token and the one behind its last. -/
structure Stretch where
  start : Nat
  stop : Nat
  deriving DecidableEq, Repr

namespace Stretch

/-- The tokens of a stretch. -/
def tokens (run : Stretch) (ts : List Token) : List Token :=
  (ts.take run.stop).drop run.start

/-- The first token of a stretch, unless it is empty. -/
def peek (run : Stretch) (ts : List Token) : Option Token :=
  if run.start < run.stop then ts[run.start]? else none

/-- The stretch behind its first token. -/
def rest (run : Stretch) : Stretch :=
  ⟨run.start + 1, run.stop⟩

/-- The number of tokens in a stretch. -/
def size (run : Stretch) : Nat :=
  run.stop - run.start

theorem size_rest_lt {run : Stretch} (h : run.start < run.stop) : run.rest.size < run.size := by
  simp only [size, rest]
  omega

theorem size_rest_lt_of_peek {run : Stretch} {ts : List Token} {t : Token}
    (h : run.peek ts = some t) : run.rest.size < run.size := by
  rw [peek] at h
  split at h
  · next hlt => exact size_rest_lt hlt
  · cases h

end Stretch

/-- How reading may end before it is done. -/
inductive Halt where
  /-- The pattern is refused. -/
  | refused (offence : Offence)
  /-- A number lies outside the list of tokens. -/
  | outOfRange
  deriving DecidableEq, Repr

/-- The pattern cannot go on at a position; the tokens before it are told. -/
def unexpectedAt (ts : List Token) (position : Nat) : Halt :=
  if position ≤ ts.length then .refused (.unexpected (render (ts.take position))) else .outOfRange

/-- The number of the `)` that closes an open group whose body the stretch begins with; `depth`
counts the groups opened inside it. -/
def closingParen (ts : List Token) (depth : Nat) (run : Stretch) : Except Halt Nat :=
  if run.start < run.stop then
    match ts[run.start]? with
    | none => .error .outOfRange
    | some .closeParen =>
      match depth with
      | 0 => .ok run.start
      | depth + 1 => closingParen ts depth run.rest
    | some .openParen => closingParen ts (depth + 1) run.rest
    | some _ => closingParen ts depth run.rest
  else .error (.refused .unbalanced)
termination_by run.size
decreasing_by all_goals exact Stretch.size_rest_lt ‹_›

/-- A `)` that is found lies in the stretch. -/
theorem closingParen_bounds {ts : List Token} {depth : Nat} {run : Stretch} {close : Nat}
    (h : closingParen ts depth run = .ok close) : run.start ≤ close ∧ close < run.stop := by
  fun_induction closingParen ts depth run with
  | case1 => cases h
  | case2 run hlt heq => cases h; exact ⟨Nat.le_refl _, hlt⟩
  | case3 run hlt heq depth ih => exact ⟨Nat.le_of_succ_le (ih h).1, (ih h).2⟩
  | case4 depth run hlt heq ih => exact ⟨Nat.le_of_succ_le (ih h).1, (ih h).2⟩
  | case5 depth run hlt t hc ho heq ih => exact ⟨Nat.le_of_succ_le (ih h).1, (ih h).2⟩
  | case6 => cases h

end Pattern
end LinkRouting
