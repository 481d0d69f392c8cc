import LinkRouting.Trie.Basic

/-!
# How a trie grows

Registering only ever adds to a trie (`Extends`): a vertex keeps its number, its edges and its
identifier, and new vertices come after the old ones.  What is added keeps it a tree (`IsTree`):
every edge leads to a later vertex, and every vertex but the root has exactly one edge to it.
-/

namespace LinkRouting

/-- The second vertex has all that the first has. -/
structure Vertex.Extends {ι : Type} (x y : Vertex ι) : Prop where
  exact : ∀ e ∈ x.exact, e ∈ y.exact
  parameter : ∀ e, x.parameter = some e → y.parameter = some e
  identifier : ∀ i, x.identifier = some i → y.identifier = some i

namespace Trie
variable {ι : Type}

/-- The second trie has all that the first has, under the same numbers. -/
structure Extends (t u : Trie ι) : Prop where
  size_le : t.size ≤ u.size
  vertex : ∀ v, v < t.size → (t.vertex v).Extends (u.vertex v)

/-- The vertices that edges lead to, over all edges of the trie. -/
def targets (t : Trie ι) : List Nat :=
  (List.range t.size).flatMap fun v => (t.vertex v).children

/-- The vertices are those of a tree with the root at its top. -/
structure IsTree (t : Trie ι) : Prop where
  size_pos : 0 < t.size
  later : ∀ v w, w ∈ (t.vertex v).children → v < w ∧ w < t.size
  once : t.targets.Perm (List.range' 1 (t.size - 1))

theorem Extends.refl (t : Trie ι) : t.Extends t :=
  ⟨Nat.le_refl _, fun _ _ => ⟨fun _ h => h, fun _ h => h, fun _ h => h⟩⟩

theorem Extends.trans {t u w : Trie ι} (h : t.Extends u) (k : u.Extends w) : t.Extends w where
  size_le := Nat.le_trans h.size_le k.size_le
  vertex v hv :=
    have x := h.vertex v hv
    have y := k.vertex v (Nat.lt_of_lt_of_le hv h.size_le)
    ⟨fun e he => y.exact e (x.exact e he), fun e he => y.parameter e (x.parameter e he),
      fun i hi => y.identifier i (x.identifier i hi)⟩

end Trie
end LinkRouting
