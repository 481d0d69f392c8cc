import LinkRouting.Path.Token

/-!
# The routing trie

All registered patterns are merged into one trie.  Its vertices are numbered in the order in which
they were made, the root first, and each holds what leads out of it: **exact edges**, each taken by
its own path token alone, and at most one **parameter edge**, which takes any literal and binds it
to the name under which the edge was first made.  A vertex at which a route ends carries the
identifier of that route.

The trie only grows.  `descend` and `descendParameter` follow an edge that is there and make it,
with a new vertex at the end of the numbering, where it is not; `mark` gives a vertex an identifier
unless it has one.  The exact edges of a vertex are kept in the order of `Path.Token.precedes`, so
that every walk over the trie meets them in that order, and the parameter edge last.
-/

namespace LinkRouting

/-- The edge of a vertex that takes any literal and binds it to a name. -/
structure ParameterEdge where
  name : String
  target : Nat
  deriving DecidableEq, Repr

/-- A vertex of the trie: the edges that leave it and the route that ends at it. -/
structure Vertex (ι : Type) where
  exact : List (Path.Token × Nat) := []
  parameter : Option ParameterEdge := none
  identifier : Option ι := none
  deriving DecidableEq, Repr

namespace Vertex
variable {ι : Type}

/-- Whether a route ends here. -/
def isTerminal (x : Vertex ι) : Bool :=
  x.identifier.isSome

/-- Whether nothing leads on from here. -/
def isFinal (x : Vertex ι) : Bool :=
  x.exact.isEmpty && x.parameter.isNone

/-- The vertices that the edges lead to: the exact edges in order, then the parameter edge. -/
def children (x : Vertex ι) : List Nat :=
  x.exact.map Prod.snd ++ (x.parameter.map ParameterEdge.target).toList

end Vertex

/-- Puts an edge before the first one that it precedes. -/
def insertEdge (token : Path.Token) (target : Nat) :
    List (Path.Token × Nat) → List (Path.Token × Nat)
  | [] => [(token, target)]
  | e :: es =>
    if token.precedes e.1 then (token, target) :: e :: es else e :: insertEdge token target es

theorem mem_insertEdge {token : Path.Token} {target : Nat} {es : List (Path.Token × Nat)}
    {e : Path.Token × Nat} : e ∈ insertEdge token target es ↔ e = (token, target) ∨ e ∈ es := by
  induction es with
  | nil => simp [insertEdge]
  | cons d es ih =>
    unfold insertEdge
    split
    · simp
    · simp only [List.mem_cons, ih]
      constructor
      · rintro (h | h | h) <;> simp [h]
      · rintro (h | h | h) <;> simp [h]

/-- A routing trie, with its vertices in the order in which they were made. -/
structure Trie (ι : Type) where
  vertices : Array (Vertex ι)
  deriving DecidableEq, Repr

namespace Trie
variable {ι : Type}

/-- The trie of no routes: a root and nothing else. -/
def empty : Trie ι :=
  ⟨#[{}]⟩

/-- The number of the root. -/
def root : Nat := 0

/-- The number of vertices, the root included. -/
def size (t : Trie ι) : Nat :=
  t.vertices.size

/-- A vertex by its number; where there is none, nothing leads on and no route ends. -/
def vertex (t : Trie ι) (v : Nat) : Vertex ι :=
  t.vertices[v]?.getD {}

/-- Whether no route was ever laid. -/
def isEmpty (t : Trie ι) : Bool :=
  (t.vertex root).isFinal

/-- The vertex to which the exact edge for a token leads. -/
def next? (t : Trie ι) (v : Nat) (token : Path.Token) : Option Nat :=
  (t.vertex v).exact.lookup token

/-- The parameter edge of a vertex. -/
def parameter? (t : Trie ι) (v : Nat) : Option ParameterEdge :=
  (t.vertex v).parameter

/-- Changes one vertex. -/
def update (t : Trie ι) (v : Nat) (f : Vertex ι → Vertex ι) : Trie ι :=
  ⟨t.vertices.modify v f⟩

/-- Adds a vertex that nothing leaves, under the next number. -/
def push (t : Trie ι) : Trie ι :=
  ⟨t.vertices.push {}⟩

@[simp]
theorem size_empty : (empty : Trie ι).size = 1 := rfl

@[simp]
theorem size_update (t : Trie ι) (v : Nat) (f : Vertex ι → Vertex ι) :
    (t.update v f).size = t.size := by
  simp [update, size]

@[simp]
theorem size_push (t : Trie ι) : t.push.size = t.size + 1 := by
  simp [push, size]

theorem vertex_update (t : Trie ι) (v w : Nat) (f : Vertex ι → Vertex ι) (hv : v < t.size) :
    (t.update v f).vertex w = if v = w then f (t.vertex w) else t.vertex w := by
  simp only [update, vertex, Array.getElem?_modify]
  split
  · next h => subst h; simp only [size] at hv; simp [hv]
  · rfl

theorem vertex_push (t : Trie ι) (w : Nat) : t.push.vertex w = t.vertex w := by
  simp only [push, vertex, Array.getElem?_push]
  split
  · next h => subst h; simp
  · rfl

/-- The end of the exact edge for a token, which is made if it is missing. -/
def descend (t : Trie ι) (v : Nat) (token : Path.Token) : Trie ι × Nat :=
  match t.next? v token with
  | some w => (t, w)
  | none =>
    ((t.update v fun x => { x with exact := insertEdge token t.size x.exact }).push, t.size)

/-- The end of the parameter edge, which is made under a name if it is missing. -/
def descendParameter (t : Trie ι) (v : Nat) (name : String) : Trie ι × Nat :=
  match t.parameter? v with
  | some e => (t, e.target)
  | none => ((t.update v fun x => { x with parameter := some ⟨name, t.size⟩ }).push, t.size)

/-- Lets a route end at a vertex, unless one ends there already. -/
def mark (t : Trie ι) (v : Nat) (identifier : ι) : Trie ι :=
  t.update v fun x => { x with identifier := x.identifier.or (some identifier) }

/-- The vertices at and below `v` at which routes end: `v` first, then below its edges in order.

An edge is followed only to a later vertex of the trie, as all edges of a laid trie lead. -/
def terminalsUnder (t : Trie ι) (v : Nat) : List Nat :=
  (if (t.vertex v).isTerminal then [v] else []) ++
    (t.vertex v).children.flatMap fun w =>
      if _later : v < w ∧ w < t.size then t.terminalsUnder w else []
termination_by t.size - v
decreasing_by omega

end Trie
end LinkRouting
