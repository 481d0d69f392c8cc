import LinkRouting.Proofs.Trie.WellFormed
import LinkRouting.Trie.Growth
import LinkRouting.Trie.Outline

/-! # Going through a trie

The edges of a trie that registrations lead to make it a tree (`WellFormed.isTree`).  So
there is no need to remember which vertices were visited: a traversal that follows every
edge (`Visits`) comes to an end from each vertex, and meets what lies at or below it
once, each vertex before all that lie below it (`Visits.mem_iff`, `Visits.pairwise`).

Both traversals of a trie are of this kind.  `terminalsUnder` keeps those of the visited
vertices at which routes end (`Visits.terminalsUnder_eq`), and the outline has one line
for each visited vertex (`WellFormed.exists_lines`).  So neither leaves out or repeats
anything (`WellFormed.traversedOnce`).
-/
namespace LinkRouting

theorem join_flatMap {α : Type} (xs : List α) (f : α → List String) :
    String.join (xs.flatMap f) = String.join (xs.map fun x => String.join (f x)) := by
  rw [← String.toList_inj]
  simp only [String.toList_join, List.flatMap_assoc, List.flatMap_map]

namespace Trie
variable {ι : Type} {t : Trie ι}

/-! ### The edges of a tree -/

theorem WellFormed.nodup_targets (ht : t.WellFormed) : t.targets.Nodup := by
  refine List.nodup_flatMap.mpr ⟨fun v _ => ht.nodup_children v, ?_⟩
  refine List.nodup_range.imp fun {u v} hne w hu hv => ?_
  obtain ⟨l, hl⟩ := ht.mem_children.mp hu
  obtain ⟨m, hm⟩ := ht.mem_children.mp hv
  exact hne (ht.parent_unique hl hm).1

/-- Edges lead to all vertices but the root. -/
theorem WellFormed.mem_targets (ht : t.WellFormed) {w : Nat} :
    w ∈ t.targets ↔ w ≠ root ∧ w < t.size := by
  rw [targets, List.mem_flatMap]
  constructor
  · rintro ⟨v, -, hw⟩
    obtain ⟨l, hl⟩ := ht.mem_children.mp hw
    obtain ⟨hlt, hsize⟩ := ht.later hl
    exact ⟨Nat.ne_of_gt (Nat.lt_of_le_of_lt (Nat.zero_le v) hlt), hsize⟩
  · rintro ⟨hroot, hsize⟩
    obtain ⟨v, l, hl⟩ := ht.parent_exists hroot hsize
    have hv : v < t.size := Nat.lt_trans (ht.later hl).1 hsize
    exact ⟨v, List.mem_range.mpr hv, ht.mem_children.mpr ⟨l, hl⟩⟩

theorem WellFormed.isTree (ht : t.WellFormed) : t.IsTree where
  size_pos := ht.size_pos
  later v w hw := by
    obtain ⟨l, hl⟩ := ht.mem_children.mp hw
    exact ht.later hl
  once := by
    refine (List.perm_ext_iff_of_nodup ht.nodup_targets List.nodup_range').mpr fun w => ?_
    have hpos := ht.size_pos
    rw [ht.mem_targets, List.mem_range'_1]
    show w ≠ 0 ∧ w < t.size ↔ _
    omega

/-- Nothing leads on from the root if it is the only vertex. -/
theorem WellFormed.isEmpty_iff (ht : t.WellFormed) : t.isEmpty = true ↔ t.size = 1 := by
  have hpos := ht.size_pos
  rw [isEmpty, isFinal_iff]
  constructor
  · intro hnone
    by_contra hsize
    -- The edge to vertex 1 leaves an earlier one, which is the root.
    obtain ⟨v, l, hl⟩ := ht.parent_exists (w := 1) (by decide) (by omega)
    obtain rfl : v = root := Nat.lt_one_iff.mp (ht.later hl).1
    rw [hnone l] at hl
    cases hl
  · intro hsize l
    cases hl : t.child? root l with
    | none => rfl
    | some w =>
      obtain ⟨hlt, hw⟩ := ht.later hl
      omega

/-! ### Traversals -/

/-- **A traversal** follows every edge, whether or not it has met what the edge leads to.
A vertex comes first, and then what is visited below each of its children in order. -/
inductive Visits (t : Trie ι) : Nat → List Nat → Prop
  | intro (v : Nat) (below : Nat → List Nat) :
      (∀ w ∈ (t.vertex v).children, Visits t w (below w)) →
      Visits t v (v :: (t.vertex v).children.flatMap below)

/-- A traversal comes to an end. -/
theorem WellFormed.exists_visits (ht : t.WellFormed) (v : Nat) : ∃ order, t.Visits v order := by
  induction v using ht.children_induction with
  | step v ih =>
    have hbelow : ∀ w ∈ (t.vertex v).children, ∃ order, t.Visits w order := by
      intro w hw
      obtain ⟨l, hl⟩ := ht.mem_children.mp hw
      exact ih l w hl
    choose! below hbelow using hbelow
    exact ⟨_, .intro v below hbelow⟩

/-- Every edge leads to a later vertex, so the ends below it are collected. -/
theorem WellFormed.terminalsUnder_eq (ht : t.WellFormed) (v : Nat) :
    t.terminalsUnder v = (if (t.vertex v).isTerminal then [v] else []) ++
      (t.vertex v).children.flatMap t.terminalsUnder := by
  rw [terminalsUnder]
  congr 1
  refine List.flatMap_congr fun w hw => ?_
  obtain ⟨l, hl⟩ := ht.mem_children.mp hw
  exact dif_pos (ht.later hl)

/-- What lies at or below a vertex is the vertex, or lies at or below a child. -/
theorem WellFormed.exists_follow?_iff (ht : t.WellFormed) {v w : Nat} :
    (∃ ls, t.follow? v ls = some w) ↔
      w = v ∨ ∃ u ∈ (t.vertex v).children, ∃ ls, t.follow? u ls = some w := by
  constructor
  · rintro ⟨_ | ⟨l, ls⟩, h⟩
    · exact .inl (Option.some.inj h).symm
    · obtain ⟨u, hu, hls⟩ := Option.bind_eq_some_iff.mp h
      exact .inr ⟨u, ht.mem_children.mpr ⟨l, hu⟩, ls, hls⟩
  · rintro (rfl | ⟨u, hu, ls, hls⟩)
    · exact ⟨[], rfl⟩
    · obtain ⟨l, hl⟩ := ht.mem_children.mp hu
      exact ⟨l :: ls, by rw [follow?, hl]; exact hls⟩

namespace Visits
variable {v : Nat} {order : List Nat}

/-- **A traversal meets what lies at or below the vertex.** -/
theorem mem_iff (h : t.Visits v order) (ht : t.WellFormed) (w : Nat) :
    w ∈ order ↔ ∃ ls, t.follow? v ls = some w := by
  induction h with
  | intro v below _ ih =>
    rw [List.mem_cons, List.mem_flatMap, ht.exists_follow?_iff]
    refine or_congr Iff.rfl ?_
    constructor
    · rintro ⟨u, hu, hw⟩
      exact ⟨u, hu, (ih u hu).mp hw⟩
    · rintro ⟨u, hu, hw⟩
      exact ⟨u, hu, (ih u hu).mpr hw⟩

/-- **A traversal meets a vertex before those below it**, and each only once. -/
theorem pairwise (h : t.Visits v order) (ht : t.WellFormed) :
    order.Pairwise fun a b => ¬ ∃ ls, t.follow? b ls = some a := by
  induction h with
  | intro v below hbelow ih =>
    refine List.pairwise_cons.mpr ⟨fun b hb => ?_, List.pairwise_flatMap.mpr ⟨ih, ?_⟩⟩
    · -- Labels lead down, so the vertex itself is not below its children.
      rintro ⟨ls, hls⟩
      obtain ⟨w, hw, hb⟩ := List.mem_flatMap.mp hb
      obtain ⟨xs, hxs⟩ := ((hbelow w hw).mem_iff ht b).mp hb
      obtain ⟨l, hl⟩ := ht.mem_children.mp hw
      obtain ⟨h1, h2⟩ := ht.later hl
      obtain ⟨h3, h4⟩ := ht.follow?_le hxs h2
      have h5 := (ht.follow?_le hls h4).1
      omega
    · -- What lies below a vertex below `w` lies below `w`.
      refine (ht.nodup_children v).imp_of_mem fun {u w} hu hw hne a ha b hb => ?_
      rintro ⟨ls, hls⟩
      obtain ⟨xs, hxs⟩ := ((hbelow u hu).mem_iff ht a).mp ha
      obtain ⟨ys, hys⟩ := ((hbelow w hw).mem_iff ht b).mp hb
      have hwa : t.follow? w (ys ++ ls) = some a := by
        rw [follow?_append, hys]
        exact hls
      exact hne (ht.child_unique hu hw hxs hwa)

theorem nodup (h : t.Visits v order) (ht : t.WellFormed) : order.Nodup := by
  refine (h.pairwise ht).imp fun {a b} hnot heq => hnot ?_
  exact ⟨[], by rw [heq]; rfl⟩

/-- The ends at or below a vertex are collected as a traversal meets them. -/
theorem terminalsUnder_eq (h : t.Visits v order) (ht : t.WellFormed) :
    t.terminalsUnder v = order.filter fun w => (t.vertex w).isTerminal := by
  induction h with
  | intro v below _ ih =>
    rw [ht.terminalsUnder_eq, List.filter_cons, List.filter_flatMap, List.flatMap_congr ih]
    split <;> rfl

/-- A traversal from the root meets every vertex once. -/
theorem perm_range (h : t.Visits root order) (ht : t.WellFormed) :
    order.Perm (List.range t.size) := by
  refine (List.perm_ext_iff_of_nodup (h.nodup ht) List.nodup_range).mpr fun w => ?_
  rw [h.mem_iff ht, List.mem_range]
  constructor
  · rintro ⟨ls, hls⟩
    exact ht.lt_size hls
  · exact ht.exists_follow?

end Visits

/-- The ends that are collected are those at or below the vertex. -/
theorem WellFormed.mem_terminalsUnder (ht : t.WellFormed) {v w : Nat} :
    w ∈ t.terminalsUnder v ↔ (t.vertex w).isTerminal = true ∧ ∃ ls, t.follow? v ls = some w := by
  obtain ⟨order, h⟩ := ht.exists_visits v
  rw [h.terminalsUnder_eq ht, List.mem_filter, h.mem_iff ht, and_comm]

/-- **An end is collected before the ends below it**, and each only once. -/
theorem WellFormed.terminalsUnder_pairwise (ht : t.WellFormed) (v : Nat) :
    (t.terminalsUnder v).Pairwise fun a b => ¬ ∃ ls, t.follow? b ls = some a := by
  obtain ⟨order, h⟩ := ht.exists_visits v
  rw [h.terminalsUnder_eq ht]
  exact (h.pairwise ht).filter _

/-! ### The lines of the outline -/

/-- **The line of a vertex**: the root has the first one, and every other vertex the line
of the edge that leads to it, indented by as many levels as there are edges on the way. -/
inductive IsLine (t : Trie ι) (write : ι → String) : Nat → String → Prop
  | root : IsLine t write root ("<root>" ++ t.lineEnd write root)
  | edge {ls : List Label} {v w : Nat} {label : String} :
      t.follow? root ls = some v → (label, w) ∈ labelledChildren (t.vertex v) →
      IsLine t write w
        (String.ofList (List.replicate (2 * (ls.length + 1)) ' ') ++ label ++ t.lineEnd write w)

theorem map_snd_labelledChildren (x : Vertex ι) :
    (labelledChildren x).map Prod.snd = x.children := by
  rw [labelledChildren, Vertex.children, List.map_append, List.map_map]
  congr 1
  cases x.parameter <;> rfl

theorem mem_children_of_mem_labelledChildren {x : Vertex ι} {child : String × Nat}
    (h : child ∈ labelledChildren x) : child.2 ∈ x.children := by
  rw [← map_snd_labelledChildren]
  exact List.mem_map_of_mem h

/-- Every edge leads to a later vertex, so no line below it is left out. -/
theorem WellFormed.outlineFrom_eq (ht : t.WellFormed) (write : ι → String) (level v : Nat) :
    t.outlineFrom write level v = String.join ((labelledChildren (t.vertex v)).map fun child =>
      String.ofList (List.replicate (2 * level) ' ') ++ child.1 ++ t.lineEnd write child.2 ++
        t.outlineFrom write (level + 1) child.2) := by
  rw [outlineFrom]
  refine congrArg String.join (List.map_congr_left fun child hchild => ?_)
  obtain ⟨l, hl⟩ := ht.mem_children.mp (mem_children_of_mem_labelledChildren hchild)
  dsimp only
  rw [dif_pos (ht.later hl)]

/-- Below a vertex, the outline has a line for each vertex that a traversal meets. -/
theorem WellFormed.exists_lines (ht : t.WellFormed) (write : ι → String) {v : Nat}
    {ls : List Label} (hv : t.follow? root ls = some v) :
    ∃ lines : List (Nat × String),
      t.outlineFrom write (ls.length + 1) v = String.join (lines.map Prod.snd) ∧
      t.Visits v (v :: lines.map Prod.fst) ∧ ∀ line ∈ lines, t.IsLine write line.1 line.2 := by
  induction v using ht.children_induction generalizing ls with
  | step v ih =>
    have hbelow : ∀ w ∈ (t.vertex v).children, ∃ lines : List (Nat × String),
        t.outlineFrom write (ls.length + 1 + 1) w = String.join (lines.map Prod.snd) ∧
        t.Visits w (w :: lines.map Prod.fst) ∧ ∀ line ∈ lines, t.IsLine write line.1 line.2 := by
      intro w hw
      obtain ⟨l, hl⟩ := ht.mem_children.mp hw
      have hlength : (ls ++ [l]).length = ls.length + 1 := List.length_append
      rw [← hlength]
      apply ih l w hl
      rw [follow?_concat, hv, Option.bind_some, hl]
    choose! below houtline hvisits hlines using hbelow
    refine ⟨(labelledChildren (t.vertex v)).flatMap fun child =>
      (child.2, String.ofList (List.replicate (2 * (ls.length + 1)) ' ') ++ child.1 ++
        t.lineEnd write child.2) :: below child.2, ?_, ?_, ?_⟩
    · rw [ht.outlineFrom_eq, List.map_flatMap, join_flatMap]
      refine congrArg String.join (List.map_congr_left fun child hmem => ?_)
      rw [List.map_cons, String.join_cons, houtline _ (mem_children_of_mem_labelledChildren hmem)]
    · rw [List.map_flatMap]
      have horder := Visits.intro v (fun w => w :: (below w).map Prod.fst) hvisits
      rwa [← map_snd_labelledChildren, List.flatMap_map] at horder
    · intro line hline
      obtain ⟨child, hmem, hline⟩ := List.mem_flatMap.mp hline
      rcases List.mem_cons.mp hline with rfl | hline
      · exact .edge hv hmem
      · exact hlines _ (mem_children_of_mem_labelledChildren hmem) line hline

/-! ### Every vertex once -/

/-- **Traversals meet every vertex once.**  The vertices are those of a tree, so from any
of them a traversal comes to an end and meets once what lies at or below it; the ends
among this are collected.  From the root that is the whole trie: the outline has one line
for each vertex, and nothing leads on from the root if it is the only one. -/
structure TraversedOnce (t : Trie ι) : Prop extends IsTree t where
  visits : ∀ v, v < t.size → ∃ order, t.Visits v order ∧ order.Nodup ∧
    (∀ w, w ∈ order ↔ ∃ ls, t.follow? v ls = some w) ∧
    t.terminalsUnder v = order.filter fun w => (t.vertex w).isTerminal
  terminals : ∀ v, v < t.size → (t.terminalsUnder v).Nodup ∧ ∀ w, w ∈ t.terminalsUnder v ↔
    (t.vertex w).isTerminal = true ∧ ∃ ls, t.follow? v ls = some w
  terminals_root : ∀ w, w ∈ t.terminalsUnder root ↔ (t.vertex w).isTerminal = true
  outline : ∀ write, ∃ lines : List (Nat × String),
    t.outline write = String.join (lines.map Prod.snd) ∧ t.Visits root (lines.map Prod.fst) ∧
    (lines.map Prod.fst).Perm (List.range t.size) ∧ ∀ line ∈ lines, t.IsLine write line.1 line.2
  isEmpty_iff : t.isEmpty = true ↔ t.size = 1

theorem lt_size_of_isTerminal {v : Nat} (h : (t.vertex v).isTerminal = true) : v < t.size := by
  by_contra hv
  rw [t.vertex_of_size_le (Nat.le_of_not_lt hv)] at h
  cases h

theorem WellFormed.traversedOnce (ht : t.WellFormed) : t.TraversedOnce where
  toIsTree := ht.isTree
  visits v _ := by
    obtain ⟨order, h⟩ := ht.exists_visits v
    exact ⟨order, h, h.nodup ht, h.mem_iff ht, h.terminalsUnder_eq ht⟩
  terminals v _ := by
    obtain ⟨order, h⟩ := ht.exists_visits v
    refine ⟨?_, fun w => ht.mem_terminalsUnder⟩
    rw [h.terminalsUnder_eq ht]
    exact (h.nodup ht).filter _
  terminals_root w := by
    rw [ht.mem_terminalsUnder, and_iff_left_iff_imp]
    intro hterminal
    exact ht.exists_follow? (lt_size_of_isTerminal hterminal)
  outline write := by
    obtain ⟨lines, houtline, hvisits, hlines⟩ := ht.exists_lines write (follow?_nil t root)
    refine ⟨(root, "<root>" ++ t.lineEnd write root) :: lines, ?_, hvisits,
      hvisits.perm_range ht, ?_⟩
    · rw [List.map_cons, String.join_cons, ← houtline]
      rfl
    · intro line hline
      rcases List.mem_cons.mp hline with rfl | hline
      · exact .root
      · exact hlines line hline
  isEmpty_iff := ht.isEmpty_iff

end Trie
end LinkRouting
