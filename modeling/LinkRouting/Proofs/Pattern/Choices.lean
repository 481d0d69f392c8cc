import Mathlib
import LinkRouting.Pattern.Choice

/-! # Choosing groups, one part of a pattern at a time

`choices` reads a pattern from the left and keeps the ways to each open group on
a stack.  Where every group is closed the stack does not matter
(`Balanced.independent`), and so the choices of a pattern are composed from those
of its parts (`mem_choices_cons`, `mem_choices_group`).
-/
namespace LinkRouting
namespace Pattern

theorem choicesFrom_cons {t : Token} (ho : t ≠ .openParen) (hc : t ≠ .closeParen)
    (before : List (List (List Token))) (ways : List (List Token)) (ts : List Token) :
    choicesFrom before ways (t :: ts) = choicesFrom before (ways.map (· ++ [t])) ts := by
  cases t with
  | openParen => exact absurd rfl ho
  | closeParen => exact absurd rfl hc
  | _ => rfl

/-- The tokens go on independently of what is before them: each way to them is
followed by each of their own choices. -/
def Independent (ts : List Token) : Prop :=
  ∀ (before : List (List (List Token))) (ways : List (List Token)) (rest : List Token),
    choicesFrom before ways (ts ++ rest) =
      choicesFrom before (ways.flatMap fun way => (choices ts).map (way ++ ·)) rest

theorem independent_nil : Independent [] := by
  intro before ways rest
  simp [choices, choicesFrom]

theorem Independent.choices_cons {t : Token} {ts : List Token} (h : Independent ts)
    (ho : t ≠ .openParen) (hc : t ≠ .closeParen) :
    choices (t :: ts) = (choices ts).map (t :: ·) := by
  -- The token is the one way that there is to what comes after it.
  have hts := h [] [[t]] []
  rw [List.append_nil] at hts
  rw [choices, choicesFrom_cons ho hc, List.map_singleton, List.nil_append, hts]
  simp [choicesFrom]

theorem Independent.cons {t : Token} {ts : List Token} (h : Independent ts)
    (ho : t ≠ .openParen) (hc : t ≠ .closeParen) : Independent (t :: ts) := by
  intro before ways rest
  rw [List.cons_append, choicesFrom_cons ho hc, h, h.choices_cons ho hc]
  simp [List.flatMap_map, Function.comp_def]

/-- Inside a group the ways start anew, and its `)` puts them behind the outer
ones. -/
theorem Independent.choicesFrom_group {inner after : List Token} (hi : Independent inner)
    (ha : Independent after) (before : List (List (List Token))) (ways : List (List Token))
    (rest : List Token) :
    choicesFrom before ways (.openParen :: inner ++ .closeParen :: after ++ rest) =
      choicesFrom before ((ways.flatMap fun way => way :: (choices inner).map (way ++ ·)).flatMap
        fun way => (choices after).map (way ++ ·)) rest := by
  rw [List.cons_append, List.cons_append, choicesFrom, List.append_assoc, hi, List.cons_append,
    choicesFrom, ha]
  simp

theorem Independent.choices_group {inner after : List Token} (hi : Independent inner)
    (ha : Independent after) :
    choices (.openParen :: inner ++ .closeParen :: after) =
      ([] :: choices inner).flatMap fun way => (choices after).map (way ++ ·) := by
  have h := hi.choicesFrom_group ha [] [[]] []
  rw [List.append_nil] at h
  rw [choices, h]
  simp [choicesFrom]

theorem Independent.group {inner after : List Token} (hi : Independent inner)
    (ha : Independent after) : Independent (.openParen :: inner ++ .closeParen :: after) := by
  intro before ways rest
  rw [hi.choicesFrom_group ha, hi.choices_group ha]
  simp [List.flatMap_assoc, List.map_flatMap, List.flatMap_map, Function.comp_def]

/-- **Where every group is closed, the stack of open groups does not matter.** -/
theorem Balanced.independent {ts : List Token} (h : Balanced ts) : Independent ts := by
  induction h with
  | nil => exact independent_nil
  | cons ho hc _ ih => exact ih.cons ho hc
  | group _ _ ihi iha => exact ihi.group iha

theorem choices_nil : choices [] = [[]] := rfl

theorem mem_choices_cons {t : Token} {ts way : List Token} (h : Balanced ts)
    (ho : t ≠ .openParen) (hc : t ≠ .closeParen) :
    way ∈ choices (t :: ts) ↔ ∃ rest ∈ choices ts, way = t :: rest := by
  rw [h.independent.choices_cons ho hc, List.mem_map]
  simp only [eq_comm]

/-- A group is left, or one of its own choices is taken. -/
theorem mem_choices_group {inner after way : List Token} (hi : Balanced inner)
    (ha : Balanced after) :
    way ∈ choices (.openParen :: inner ++ .closeParen :: after) ↔
      ∃ first, (first = [] ∨ first ∈ choices inner) ∧
        ∃ rest ∈ choices after, way = first ++ rest := by
  rw [hi.independent.choices_group ha.independent, List.mem_flatMap]
  simp only [List.mem_cons, List.mem_map, eq_comm]

/-- All groups can be left. -/
theorem Balanced.exists_mem_choices {ts : List Token} (h : Balanced ts) :
    ∃ way, way ∈ choices ts := by
  induction h with
  | nil => exact ⟨[], List.mem_singleton_self _⟩
  | cons ho hc hts ih =>
    obtain ⟨way, hway⟩ := ih
    exact ⟨_, (mem_choices_cons hts ho hc).mpr ⟨way, hway, rfl⟩⟩
  | group hi ha _ iha =>
    obtain ⟨way, hway⟩ := iha
    exact ⟨_, (mem_choices_group hi ha).mpr ⟨[], .inl rfl, way, hway, rfl⟩⟩

/-- A choice leaves tokens out and adds none. -/
theorem sublist_of_mem_choices {ts way : List Token} (h : Balanced ts) (hway : way ∈ choices ts) :
    way.Sublist ts := by
  induction h generalizing way with
  | nil =>
    rw [choices_nil, List.mem_singleton] at hway
    rw [hway]
  | cons ho hc hts ih =>
    obtain ⟨rest, hrest, rfl⟩ := (mem_choices_cons hts ho hc).mp hway
    exact (ih hrest).cons_cons _
  | @group inner after hi ha ihi iha =>
    obtain ⟨first, hfirst, rest, hrest, rfl⟩ := (mem_choices_group hi ha).mp hway
    have hinner : first.Sublist inner := by
      rcases hfirst with rfl | hfirst
      · exact List.nil_sublist _
      · exact ihi hfirst
    exact (hinner.cons _).append ((iha hrest).cons _)

/-- No parenthesis is left in a choice. -/
theorem ne_paren_of_mem_choices {ts way : List Token} (h : Balanced ts) (hway : way ∈ choices ts) :
    ∀ t ∈ way, t ≠ .openParen ∧ t ≠ .closeParen := by
  induction h generalizing way with
  | nil =>
    rw [choices_nil, List.mem_singleton] at hway
    subst hway
    intro t ht
    cases ht
  | cons ho hc hts ih =>
    obtain ⟨rest, hrest, rfl⟩ := (mem_choices_cons hts ho hc).mp hway
    intro t ht
    rcases List.mem_cons.mp ht with rfl | ht
    · exact ⟨ho, hc⟩
    · exact ih hrest t ht
  | group hi ha ihi iha =>
    obtain ⟨first, hfirst, rest, hrest, rfl⟩ := (mem_choices_group hi ha).mp hway
    intro t ht
    rcases List.mem_append.mp ht with ht | ht
    · rcases hfirst with rfl | hfirst
      · cases ht
      · exact ihi hfirst t ht
    · exact iha hrest t ht

@[simp] theorem steps_nil : steps [] = [] := rfl

@[simp] theorem steps_cons (t : Token) (ts : List Token) : steps (t :: ts) = t.steps ++ steps ts :=
  rfl

@[simp] theorem steps_append (ts us : List Token) : steps (ts ++ us) = steps ts ++ steps us := by
  simp [steps]

end Pattern
end LinkRouting
