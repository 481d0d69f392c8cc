/-!
# Bindings

`Bindings` are the values bound to parameter names, each name once.  `get?` is their view, and the
two ways of adding to them are told apart by it: `set` gives a name a value whatever it had before,
`setNew` only where it had none.
-/

namespace LinkRouting

/-- Values bound to names, in the order in which the names were first bound. -/
structure Bindings where
  entries : List (String × String) := []
  deriving DecidableEq, Repr

namespace Bindings

/-- No bindings. -/
def empty : Bindings := {}

/-- The value bound to a name. -/
def get? (b : Bindings) (name : String) : Option String :=
  b.entries.lookup name

/-- The names that are bound. -/
def names (b : Bindings) : List String :=
  b.entries.map Prod.fst

/-- Entries in which a name has a value, in its old place if it had one. -/
def setEntry (name value : String) : List (String × String) → List (String × String)
  | [] => [(name, value)]
  | (n, v) :: es => if name = n then (name, value) :: es else (n, v) :: setEntry name value es

/-- Binds a name, replacing its value if it had one. -/
def set (b : Bindings) (name value : String) : Bindings :=
  ⟨setEntry name value b.entries⟩

/-- Binds a name that has no value yet, and leaves one that has. -/
def setNew (b : Bindings) (name value : String) : Bindings :=
  if (b.get? name).isSome then b else b.set name value

/-- The bindings of pairs read in order; of repeated names the last value stays. -/
def ofList (pairs : List (String × String)) : Bindings :=
  pairs.foldl (fun b p => b.set p.1 p.2) empty

/-- All bindings of the second added to the first, replacing values. -/
def override (b c : Bindings) : Bindings :=
  c.entries.foldl (fun b p => b.set p.1 p.2) b

/-- The bindings of the second added to the first where names have no value yet. -/
def fill (b c : Bindings) : Bindings :=
  c.entries.foldl (fun b p => b.setNew p.1 p.2) b

@[simp]
theorem get?_empty (name : String) : empty.get? name = none := rfl

theorem get?_set (b : Bindings) (name value n : String) :
    (b.set name value).get? n = if n = name then some value else b.get? n := by
  obtain ⟨es⟩ := b
  simp only [set, get?]
  induction es with
  | nil =>
    by_cases h : n = name
    · simp [setEntry, h]
    · have hb : (n == name) = false := by simp [h]
      simp [setEntry, List.lookup_cons, h, hb]
  | cons e es ih =>
    obtain ⟨m, v⟩ := e
    by_cases hm : name = m
    · subst hm
      by_cases h : n = name
      · simp [setEntry, h]
      · have hb : (n == name) = false := by simp [h]
        simp [setEntry, List.lookup_cons, h, hb]
    · by_cases h : n = m
      · have : n ≠ name := by rintro rfl; exact hm h
        simp [setEntry, hm, h, Ne.symm hm]
      · have hb : (n == m) = false := by simp [h]
        simp [setEntry, List.lookup_cons, hm, hb, ih]

theorem get?_setNew (b : Bindings) (name value n : String) :
    (b.setNew name value).get? n = (b.get? n).or (if n = name then some value else none) := by
  unfold setNew
  split
  · next h =>
    by_cases hn : n = name
    · subst hn; obtain ⟨v, hv⟩ := Option.isSome_iff_exists.1 h; simp [hv]
    · simp [hn]
  · next h =>
    rw [get?_set]
    by_cases hn : n = name
    · subst hn; simp at h; simp [h]
    · simp [hn]

end Bindings
end LinkRouting
