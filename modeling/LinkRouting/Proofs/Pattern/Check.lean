import Mathlib
import LinkRouting.Pattern.Check
import LinkRouting.Pattern.Choice
import LinkRouting.Pattern.Grammar

/-! # What passes the check

Patterns of the grammar do.  The check reads a part of a pattern over if it comes out
behind it with as many open groups as before (`PassedOver`).  Each production of the
grammar is read over where it may stand: what follows `/` behind a `/`, what follows `.`
behind a `.`, and the others behind anything.

Whatever else passes has every group closed (`balanced_of_check`), for the check counts
the groups that are open.
-/
namespace LinkRouting
namespace Pattern

/-- The check goes on behind these tokens, whatever they are followed by. -/
def PassedOver (trail ts : List Token) : Prop :=
  ∀ (depth : Nat) (rest : List Token),
    checkFrom trail depth (ts ++ rest) = checkFrom (ts.reverse ++ trail) depth rest

variable {trail ts inner after : List Token}

theorem passedOver_nil (trail : List Token) : PassedOver trail [] :=
  fun _ _ => rfl

/-- A token that the check accepts behind the trail is read over with what follows. -/
theorem PassedOver.cons {t : Token}
    (ht : ∀ depth rest, checkFrom trail depth (t :: rest) = checkFrom (t :: trail) depth rest)
    (h : PassedOver (t :: trail) ts) : PassedOver trail (t :: ts) := by
  intro depth rest
  rw [List.cons_append, ht, h, List.reverse_cons, List.append_assoc, List.singleton_append]

theorem PassedOver.group (hi : PassedOver (.openParen :: trail) inner)
    (ha : PassedOver (.closeParen :: (inner.reverse ++ .openParen :: trail)) after) :
    PassedOver trail (.openParen :: inner ++ .closeParen :: after) := by
  intro depth rest
  have hopen : ∀ us, checkFrom trail depth (.openParen :: us) =
      checkFrom (.openParen :: trail) (depth + 1) us := fun _ => rfl
  have hclose : ∀ us, checkFrom (inner.reverse ++ .openParen :: trail) (depth + 1)
      (.closeParen :: us) =
        checkFrom (.closeParen :: (inner.reverse ++ .openParen :: trail)) depth us := fun _ => rfl
  rw [List.cons_append, List.cons_append, List.append_assoc, hopen, hi, List.cons_append, hclose,
    ha]
  simp

theorem PassedOver.slash (h : PassedOver (.slash :: trail) ts) : PassedOver trail (.slash :: ts) :=
  .cons (fun _ _ => rfl) h

theorem PassedOver.dot (h : PassedOver (.dot :: trail) ts) : PassedOver trail (.dot :: ts) :=
  .cons (fun _ _ => rfl) h

theorem PassedOver.literal (text : String) (h : PassedOver (.literal text :: trail) ts) :
    PassedOver trail (.literal text :: ts) :=
  .cons (fun _ _ => rfl) h

theorem PassedOver.symbol {name : String}
    (htrail : trail.head? = some .slash ∨ trail.head? = some .dot)
    (h : PassedOver (.symbol name :: trail) ts) : PassedOver trail (.symbol name :: ts) :=
  .cons (fun _ _ => by rw [checkFrom]; exact if_pos htrail) h

theorem PassedOver.star {name : String} (htrail : trail.head? = some .slash) :
    PassedOver trail [.star name] :=
  .cons (fun _ _ => by rw [checkFrom]; exact if_pos htrail) (passedOver_nil _)

mutual

theorem Grammar.Tail.passedOver {ts : List Token} (trail : List Token)
    (htrail : trail.head? = some .slash) : Grammar.Tail ts → PassedOver trail ts
  | .nil => passedOver_nil _
  | .literal h => .literal _ (h.passedOver _)
  | .symbol h => .symbol (.inl htrail) (h.passedOver _)
  | .star => .star htrail
  | .groups h => h.passedOver _

theorem Grammar.Rest.passedOver {ts : List Token} (trail : List Token) :
    Grammar.Rest ts → PassedOver trail ts
  | .nil => passedOver_nil _
  | .slash h => .slash (h.passedOver _ rfl)
  | .dot h => .dot (h.passedOver _ rfl)
  | .groups h => h.passedOver _

theorem Grammar.DotTail.passedOver {ts : List Token} (trail : List Token)
    (htrail : trail.head? = some .dot) : Grammar.DotTail ts → PassedOver trail ts
  | .literal h => .literal _ (h.passedOver _)
  | .symbol h => .symbol (.inr htrail) (h.passedOver _)

theorem Grammar.Groups.passedOver {ts : List Token} (trail : List Token) :
    Grammar.Groups ts → PassedOver trail ts
  | .last h => .group (h.passedOver _) (passedOver_nil _)
  | .cons h k => .group (h.passedOver _) (k.passedOver _)

theorem Grammar.Body.passedOver {ts : List Token} (trail : List Token) :
    Grammar.Body ts → PassedOver trail ts
  | .nil => passedOver_nil _
  | .slash h => .slash (h.passedOver _ rfl)
  | .dot h => .dot (h.passedOver _ rfl)

end

/-- **The check has nothing against a pattern of the grammar.** -/
theorem Grammatical.check_eq_ok {ts : List Token} (h : Grammatical ts) : check ts = .ok () := by
  cases h with
  | @slash ts h =>
    have hover := h.passedOver [.slash] rfl 0 []
    rw [List.append_nil] at hover
    rw [check, hover]
    rfl

/-! ### Every group is closed -/

/-- Tokens that close so many groups which were opened before them. -/
inductive Closes : Nat → List Token → Prop
  | nothing {ts : List Token} : Balanced ts → Closes 0 ts
  | group {depth : Nat} {inner after : List Token} : Balanced inner → Closes depth after →
      Closes (depth + 1) (inner ++ .closeParen :: after)

theorem Closes.cons {depth : Nat} {t : Token} {ts : List Token} (ho : t ≠ .openParen)
    (hc : t ≠ .closeParen) (h : Closes depth ts) : Closes depth (t :: ts) := by
  cases h with
  | nothing h => exact .nothing (.cons ho hc h)
  | group hi ha => exact .group (.cons ho hc hi) ha

/-- What closes a group more closes one that is opened before it. -/
theorem Closes.openParen {depth : Nat} {ts : List Token} (h : Closes (depth + 1) ts) :
    Closes depth (.openParen :: ts) := by
  cases h with
  | group hi ha =>
    cases ha with
    | nothing h => exact .nothing (.group hi h)
    | group hi' ha' => simpa using Closes.group (.group hi hi') ha'

theorem closes_of_checkFrom {ts : List Token} : ∀ {trail : List Token} {depth : Nat},
    checkFrom trail depth ts = .ok () → Closes depth ts := by
  induction ts with
  | nil =>
    intro trail depth h
    rw [checkFrom] at h
    split at h
    · next hdepth =>
      subst hdepth
      exact .nothing .nil
    · cases h
  | cons t ts ih =>
    intro trail depth h
    cases t with
    | slash | dot | literal text => exact (ih h).cons (by simp) (by simp)
    | openParen => exact (ih h).openParen
    | closeParen =>
      cases depth with
      | zero => cases h
      | succ depth => exact .group .nil (ih h)
    | symbol name | star name =>
      rw [checkFrom] at h
      split at h
      · exact (ih h).cons (by simp) (by simp)
      · cases h

/-- **What passes the check has every group closed.** -/
theorem balanced_of_check {ts : List Token} (h : check ts = .ok ()) : Balanced ts := by
  match ts with
  | .slash :: ts =>
    cases closes_of_checkFrom (show checkFrom [.slash] 0 ts = .ok () from h) with
    | nothing hts => exact .cons (by simp) (by simp) hts
  | [] => cases h
  | .dot :: _ | .openParen :: _ | .closeParen :: _ | .literal _ :: _ | .symbol _ :: _
  | .star _ :: _ => cases h

end Pattern
end LinkRouting
