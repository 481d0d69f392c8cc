import LinkRouting.Proofs.Trie.Edges

/-! # Tries that are trees

Every trie that registrations lead to is a tree whose edges lead to later
vertices (`WellFormed`).  So each vertex is reached from the root under exactly
one list of labels (`follow?_injective`, `exists_follow?`), and what lies below
the children of a vertex lies below one of them alone (`child_unique`).
-/
namespace LinkRouting
namespace Trie
variable {ι : Type} {t : Trie ι}

/-- **The vertices are those of a tree.**  Edges lead to later vertices, every
vertex but the root ends exactly one edge, and exact edges stand in order. -/
structure WellFormed (t : Trie ι) : Prop where
  size_pos : 0 < t.size
  sorted : ∀ v, IsSorted (t.vertex v).exact
  later : ∀ {v l w}, t.child? v l = some w → v < w ∧ w < t.size
  parent_unique : ∀ {u v l m w}, t.child? u l = some w → t.child? v m = some w → u = v ∧ l = m
  parent_exists : ∀ {w}, w ≠ root → w < t.size → ∃ v l, t.child? v l = some w

theorem vertex_empty (v : Nat) : (empty : Trie ι).vertex v = {} := by
  cases v with
  | zero => rfl
  | succ v => exact vertex_of_size_le _ (by simp)

theorem child?_empty (v : Nat) (l : Label) : (empty : Trie ι).child? v l = none := by
  rw [child?_eq, vertex_empty]
  cases l <;> rfl

theorem wellFormed_empty : (empty : Trie ι).WellFormed where
  size_pos := Nat.one_pos
  sorted v := by rw [vertex_empty]; exact List.Pairwise.nil
  later h := by rw [child?_empty] at h; cases h
  parent_unique h := by rw [child?_empty] at h; cases h
  parent_exists hw h := absurd (Nat.lt_one_iff.mp h) hw

/-- A step is followed to a later vertex of the trie that it leads to. -/
theorem advance_target (ht : t.WellFormed) {v : Nat} (hv : v < t.size) (s : Step) :
    v < (t.advance v s).2 ∧ (t.advance v s).2 < (t.advance v s).1.size := by
  cases h : t.child? v s.label with
  | some w => rw [advance_of_child? h]; exact ht.later h
  | none =>
    obtain ⟨hw, hsize⟩ := advance_of_child?_eq_none h
    omega

theorem wellFormed_advance (ht : t.WellFormed) {v : Nat} (hv : v < t.size) (s : Step) :
    (t.advance v s).1.WellFormed := by
  cases h : t.child? v s.label with
  | some w => rwa [advance_of_child? h]
  | none =>
    obtain ⟨hw, hsize⟩ := advance_of_child?_eq_none h
    have hfresh : ∀ {u l}, t.child? u l ≠ some t.size := fun hu =>
      absurd (ht.later hu).2 (Nat.lt_irrefl _)
    refine ⟨by omega, fun u => isSorted_advance hv s (ht.sorted u), ?_, ?_, ?_⟩
    · intro u l w hu
      rw [child?_advance hv] at hu
      split at hu
      · next hul => obtain rfl := Option.some.inj hu; omega
      · obtain ⟨h1, h2⟩ := ht.later hu
        omega
    · intro u u' l m w hu hu'
      rw [child?_advance hv, hw] at hu hu'
      split at hu <;> split at hu'
      · next h1 h2 => exact ⟨h1.1.trans h2.1.symm, h1.2.trans h2.2.symm⟩
      · exact absurd (hu'.trans hu.symm) hfresh
      · exact absurd (hu.trans hu'.symm) hfresh
      · exact ht.parent_unique hu hu'
    · intro w hroot hlt
      rw [hsize] at hlt
      by_cases hnew : w = t.size
      · exact ⟨v, s.label, by rw [child?_advance hv, if_pos ⟨rfl, rfl⟩, hw, hnew]⟩
      · obtain ⟨u, l, hu⟩ := ht.parent_exists hroot (by omega)
        refine ⟨u, l, ?_⟩
        rw [child?_advance hv, if_neg, hu]
        rintro ⟨rfl, rfl⟩
        rw [h] at hu
        cases hu

theorem wellFormed_mark (ht : t.WellFormed) {v : Nat} (hv : v < t.size) (i : ι) :
    (t.mark v i).WellFormed where
  size_pos := by rw [size_mark]; exact ht.size_pos
  sorted u := by rw [vertex_mark hv]; split <;> exact ht.sorted u
  later h := by rw [child?_mark hv] at h; rw [size_mark]; exact ht.later h
  parent_unique h k := by rw [child?_mark hv] at h k; exact ht.parent_unique h k
  parent_exists hw h := by
    simp only [child?_mark hv]
    exact ht.parent_exists hw (by rwa [size_mark] at h)

/-! ### Lists of labels and vertices -/

theorem follow?_concat (t : Trie ι) (v : Nat) (ls : List Label) (l : Label) :
    t.follow? v (ls ++ [l]) = (t.follow? v ls).bind (t.child? · l) := by
  rw [follow?_append]
  congr 1
  funext w
  simp [follow?]

/-- Labels lead down, and not out of the trie. -/
theorem WellFormed.follow?_le (ht : t.WellFormed) {v w : Nat} {ls : List Label}
    (h : t.follow? v ls = some w) (hv : v < t.size) :
    v + ls.length ≤ w ∧ w < t.size := by
  induction ls generalizing v with
  | nil =>
    obtain rfl := Option.some.inj h
    simpa using hv
  | cons l ls ih =>
    obtain ⟨u, hu, hw⟩ := Option.bind_eq_some_iff.mp h
    obtain ⟨h1, h2⟩ := ht.later hu
    obtain ⟨h3, h4⟩ := ih hw h2
    rw [List.length_cons]
    omega

/-- **Two lists of labels never lead to one vertex.** -/
theorem WellFormed.follow?_injective (ht : t.WellFormed) {v w : Nat} {ls ms : List Label}
    (hv : v < t.size) (h : t.follow? v ls = some w) (k : t.follow? v ms = some w) : ls = ms := by
  -- The last edge is the one edge to `w`, so the lists agree from their ends.
  induction ls using List.reverseRecOn generalizing ms w with
  | nil =>
    obtain rfl := Option.some.inj h
    have := (ht.follow?_le k hv).1
    exact (List.eq_nil_of_length_eq_zero (by omega)).symm
  | append_singleton ls l ih =>
    rw [follow?_concat] at h
    obtain ⟨u, hu, hw⟩ := Option.bind_eq_some_iff.mp h
    rcases List.eq_nil_or_concat ms with rfl | ⟨ms, m, rfl⟩
    · obtain rfl := Option.some.inj k
      have h1 := (ht.follow?_le hu hv).1
      have h2 := (ht.later hw).1
      omega
    · rw [List.concat_eq_append, follow?_concat] at k
      obtain ⟨u', hu', hw'⟩ := Option.bind_eq_some_iff.mp k
      obtain ⟨rfl, rfl⟩ := ht.parent_unique hw hw'
      rw [ih hu hu', List.concat_eq_append]

/-- What labels lead to from the root is a vertex of the trie. -/
theorem WellFormed.lt_size (ht : t.WellFormed) {v : Nat} {ls : List Label}
    (h : t.follow? root ls = some v) : v < t.size :=
  (ht.follow?_le h ht.size_pos).2

theorem WellFormed.labels_unique (ht : t.WellFormed) {v : Nat} {ls ms : List Label}
    (h : t.follow? root ls = some v) (k : t.follow? root ms = some v) : ls = ms :=
  ht.follow?_injective ht.size_pos h k

/-- Every vertex is reached from the root. -/
theorem WellFormed.exists_follow? (ht : t.WellFormed) {v : Nat} (hv : v < t.size) :
    ∃ ls, t.follow? root ls = some v := by
  induction v using Nat.strongRecOn with
  | ind v ih =>
    by_cases hroot : v = root
    · exact ⟨[], by rw [hroot]; rfl⟩
    · obtain ⟨u, l, hu⟩ := ht.parent_exists hroot hv
      have hlt := (ht.later hu).1
      obtain ⟨ls, hls⟩ := ih u hlt (by omega)
      exact ⟨ls ++ [l], by rw [follow?_concat, hls]; exact hu⟩

/-! ### The children of a vertex -/

theorem WellFormed.mem_children (ht : t.WellFormed) {v w : Nat} :
    w ∈ (t.vertex v).children ↔ ∃ l, t.child? v l = some w := by
  rw [Vertex.children, List.mem_append, List.mem_map, Option.mem_toList, Option.map_eq_some_iff]
  constructor
  · rintro (⟨⟨token, w⟩, he, rfl⟩ | ⟨e, he, rfl⟩)
    · exact ⟨.exact token, (ht.sorted v).mem_iff_lookup.mp he⟩
    · exact ⟨.parameter, by simp [child?, parameter?, he]⟩
  · rintro ⟨token | _, h⟩
    · exact .inl ⟨(token, w), (ht.sorted v).mem_iff_lookup.mpr h, rfl⟩
    · exact .inr (Option.map_eq_some_iff.mp h)

/-- What holds of a vertex when it holds of its children holds of all. -/
theorem WellFormed.children_induction (ht : t.WellFormed) {P : Nat → Prop}
    (step : ∀ v, (∀ l w, t.child? v l = some w → P w) → P v) (v : Nat) : P v := by
  induction h : t.size - v using Nat.strongRecOn generalizing v with
  | ind n ih =>
    refine step v fun l w hw => ?_
    obtain ⟨h1, h2⟩ := ht.later hw
    exact ih (t.size - w) (by omega) w rfl

theorem WellFormed.nodup_children (ht : t.WellFormed) (v : Nat) : (t.vertex v).children.Nodup := by
  have hlookup : ∀ {e}, e ∈ (t.vertex v).exact → t.child? v (.exact e.1) = some e.2 :=
    fun he => (ht.sorted v).mem_iff_lookup.mp he
  refine List.nodup_append.mpr ⟨?_, ?_, ?_⟩
  · refine List.pairwise_map.mpr ((ht.sorted v).imp_of_mem fun {a b} ha hb hab heq => ?_)
    have hb' := hlookup hb
    rw [← heq] at hb'
    have := (ht.parent_unique (hlookup ha) hb').2
    rw [Label.exact.inj this, Path.Token.precedes_irrefl] at hab
    cases hab
  · cases (t.vertex v).parameter <;> simp
  · intro a ha b hb heq
    obtain ⟨e, he, rfl⟩ := List.mem_map.mp ha
    have hp : t.child? v .parameter = some b := Option.mem_toList.mp hb
    have := (ht.parent_unique (hlookup he) (heq ▸ hp)).2
    cases this

/-- A vertex lies below one child of a vertex at most. -/
theorem WellFormed.child_unique (ht : t.WellFormed) {v u w x : Nat} {xs ys : List Label}
    (hu : u ∈ (t.vertex v).children) (hw : w ∈ (t.vertex v).children)
    (hux : t.follow? u xs = some x) (hwx : t.follow? w ys = some x) : u = w := by
  obtain ⟨l, hl⟩ := ht.mem_children.mp hu
  obtain ⟨m, hm⟩ := ht.mem_children.mp hw
  have h1 : t.follow? v (l :: xs) = some x := by rw [follow?, hl]; exact hux
  have h2 : t.follow? v (m :: ys) = some x := by rw [follow?, hm]; exact hwx
  have hv : v < t.size := Nat.lt_trans (ht.later hl).1 (ht.later hl).2
  obtain rfl : l = m := (List.cons.inj (ht.follow?_injective hv h1 h2)).1
  exact Option.some.inj (hl.symm.trans hm)

end Trie
end LinkRouting
