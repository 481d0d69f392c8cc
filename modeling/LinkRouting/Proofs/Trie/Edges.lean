import Mathlib
import LinkRouting.Trie.Label

/-! # The edges of a vertex, read by their labels

A trie is seen here through three readings of a vertex: the vertex below it
under a label (`child?`), the name of its parameter edge (`parameterName?`), and
the identifier of the route that ends there.  `descend` and `descendParameter`
differ only in the label that they open and in the name that they may give, so
both are one operation on steps, `advance`.  Each operation has one equation for
each reading, and later modules open none of them.
-/
namespace LinkRouting

namespace Path.Token

theorem precedes_irrefl (a : Token) : a.precedes a = false := by
  cases a <;> simp [precedes]

theorem precedes_trans {a b c : Token} (hab : a.precedes b = true) (hbc : b.precedes c = true) :
    a.precedes c = true := by
  cases a <;> cases b <;> cases c <;>
    simp_all only [precedes, decide_eq_true_eq, Bool.false_eq_true]
  -- Only literals are left, which are ordered as texts are.
  exact lt_trans hab hbc

/-- Of two different tokens one precedes the other. -/
theorem precedes_of_not_precedes {a b : Token} (hab : a.precedes b = false) (hne : a ≠ b) :
    b.precedes a = true := by
  cases a <;> cases b <;>
    simp_all only [precedes, decide_eq_true_eq, decide_eq_false_iff_not, Bool.true_eq_false,
      ne_eq, not_true_eq_false]
  exact lt_of_le_of_ne (not_lt.mp hab) fun h => hne (h ▸ rfl)

end Path.Token

theorem lookup_cons_eq {α β : Type} [BEq α] [LawfulBEq α] [DecidableEq α] (e : α × β)
    (es : List (α × β)) (u : α) :
    List.lookup u (e :: es) = if u = e.1 then some e.2 else es.lookup u := by
  rw [List.lookup_cons]
  by_cases h : u = e.1
  · simp [h]
  · have hb : (u == e.1) = false := by simp [h]
    simp [hb, h]

theorem lookup_insertEdge {token : Path.Token} (target : Nat) {es : List (Path.Token × Nat)}
    (h : es.lookup token = none) (u : Path.Token) :
    (insertEdge token target es).lookup u = if u = token then some target else es.lookup u := by
  induction es with
  | nil => exact lookup_cons_eq (token, target) [] u
  | cons e es ih =>
    rw [lookup_cons_eq] at h
    have hne : token ≠ e.1 := fun he => by simp [he] at h
    rw [if_neg hne] at h
    unfold insertEdge
    split
    · exact lookup_cons_eq (token, target) (e :: es) u
    · rw [lookup_cons_eq, ih h, lookup_cons_eq]
      by_cases hu : u = e.1
      · subst hu; simp [Ne.symm hne]
      · simp [hu]

/-- Exact edges stand in the order of their tokens, each token once. -/
def IsSorted (es : List (Path.Token × Nat)) : Prop :=
  es.Pairwise fun a b => a.1.precedes b.1 = true

theorem IsSorted.insertEdge {token : Path.Token} {target : Nat} {es : List (Path.Token × Nat)}
    (hs : IsSorted es) (h : es.lookup token = none) : IsSorted (insertEdge token target es) := by
  induction es with
  | nil => exact List.pairwise_singleton _ _
  | cons e es ih =>
    rw [lookup_cons_eq] at h
    have hne : token ≠ e.1 := fun he => by simp [he] at h
    rw [if_neg hne] at h
    obtain ⟨he, hs'⟩ := List.pairwise_cons.mp hs
    unfold LinkRouting.insertEdge
    split
    · next hlt =>
      refine List.pairwise_cons.mpr ⟨fun d hd => ?_, hs⟩
      rcases List.mem_cons.mp hd with rfl | hd
      · exact hlt
      · exact Path.Token.precedes_trans hlt (he d hd)
    · next hlt =>
      refine List.pairwise_cons.mpr ⟨fun d hd => ?_, ih hs' h⟩
      rcases mem_insertEdge.mp hd with rfl | hd
      · exact Path.Token.precedes_of_not_precedes (by simpa using hlt) hne
      · exact he d hd

/-- In sorted edges, what an edge leads to is what its token is looked up as. -/
theorem IsSorted.mem_iff_lookup {es : List (Path.Token × Nat)} (hs : IsSorted es)
    {token : Path.Token} {w : Nat} : (token, w) ∈ es ↔ es.lookup token = some w := by
  induction es with
  | nil => simp
  | cons e es ih =>
    obtain ⟨he, hs'⟩ := List.pairwise_cons.mp hs
    rw [List.mem_cons, ih hs', lookup_cons_eq]
    by_cases ht : token = e.1
    · subst ht
      have hnot : es.lookup e.1 ≠ some w := by
        intro hl
        have := he _ ((ih hs').mpr hl)
        rw [Path.Token.precedes_irrefl] at this
        cases this
      simp [hnot, Prod.ext_iff, eq_comm]
    · simp [ht, Prod.ext_iff]

/-- Sorted edges are told by which edges there are. -/
theorem IsSorted.ext {es es' : List (Path.Token × Nat)} (hs : IsSorted es) (hs' : IsSorted es')
    (h : ∀ e, e ∈ es ↔ e ∈ es') : es = es' := by
  have : Std.Irrefl fun a b : Path.Token × Nat => a.1.precedes b.1 = true :=
    ⟨fun a => by rw [Path.Token.precedes_irrefl]; exact Bool.false_ne_true⟩
  have : Std.Antisymm fun a b : Path.Token × Nat => a.1.precedes b.1 = true := by
    refine ⟨fun a b hab hba => ?_⟩
    have haa := Path.Token.precedes_trans hab hba
    rw [Path.Token.precedes_irrefl] at haa
    cases haa
  exact hs.eq_of_mem_iff hs' h

/-- The name that a step gives to a parameter edge that it makes. -/
def Step.name? : Step → Option String
  | .exact _ => none
  | .capture name => some name

namespace Vertex
variable {ι : Type}

/-- The vertex to which the edge with a label leads. -/
def child? (x : Vertex ι) : Label → Option Nat
  | .exact token => x.exact.lookup token
  | .parameter => x.parameter.map ParameterEdge.target

/-- The vertex with a new edge, under the name of its step. -/
def withEdge (x : Vertex ι) (s : Step) (target : Nat) : Vertex ι :=
  match s with
  | .exact token => { x with exact := insertEdge token target x.exact }
  | .capture name => { x with parameter := some ⟨name, target⟩ }

theorem child?_withEdge {x : Vertex ι} {s : Step} (h : x.child? s.label = none) (target : Nat)
    (l : Label) :
    (x.withEdge s target).child? l = if l = s.label then some target else x.child? l := by
  cases s with
  | exact token =>
    cases l with
    | exact token' =>
      rw [withEdge, child?, lookup_insertEdge target h]
      simp [Step.label, child?]
    | parameter => simp [withEdge, child?, Step.label]
  | capture name =>
    cases l <;> simp [withEdge, child?, Step.label]

end Vertex

namespace Trie
variable {ι : Type} (t : Trie ι)

theorem child?_eq (v : Nat) (l : Label) : t.child? v l = (t.vertex v).child? l := by
  cases l <;> rfl

/-- The name of the parameter edge of a vertex. -/
def parameterName? (v : Nat) : Option String :=
  (t.parameter? v).map ParameterEdge.name

theorem vertex_of_size_le {v : Nat} (h : t.size ≤ v) : t.vertex v = {} := by
  simp only [size] at h
  simp [vertex, h]

theorem child?_of_size_le {v : Nat} (h : t.size ≤ v) (l : Label) : t.child? v l = none := by
  cases l <;> simp [child?, next?, parameter?, t.vertex_of_size_le h]

theorem parameterName?_isSome (v : Nat) :
    (t.parameterName? v).isSome = (t.child? v .parameter).isSome := by
  simp [parameterName?, child?]

/-- Nothing leads on from a vertex without a child. -/
theorem isFinal_iff (v : Nat) : (t.vertex v).isFinal = true ↔ ∀ l, t.child? v l = none := by
  rw [Vertex.isFinal, Bool.and_eq_true, List.isEmpty_iff, Option.isNone_iff_eq_none]
  constructor
  · rintro ⟨he, hp⟩ (token | _)
    · simp [child?, next?, he]
    · simp [child?, parameter?, hp]
  · intro h
    refine ⟨?_, by simpa [child?, parameter?] using h .parameter⟩
    cases he : (t.vertex v).exact with
    | nil => rfl
    | cons e es =>
      have := h (.exact e.1)
      simp [child?, next?, he] at this

/-! ### Following or making the edge of a step -/

/-- The end of the edge with a step's label, which is made, under the step's
name, if it is missing. -/
def advance (v : Nat) : Step → Trie ι × Nat
  | .exact token => t.descend v token
  | .capture name => t.descendParameter v name

variable {t} {v : Nat}

theorem advance_of_child? {s : Step} {w : Nat} (h : t.child? v s.label = some w) :
    t.advance v s = (t, w) := by
  cases s with
  | exact token =>
    have h' : t.next? v token = some w := h
    simp [advance, descend, h']
  | capture name =>
    obtain ⟨e, he, rfl⟩ := Option.map_eq_some_iff.mp h
    simp [advance, descendParameter, he]

theorem advance_of_child?_eq_none {s : Step} (h : t.child? v s.label = none) :
    (t.advance v s).2 = t.size ∧ (t.advance v s).1.size = t.size + 1 := by
  cases s with
  | exact token =>
    have h' : t.next? v token = none := h
    simp [advance, descend, h']
  | capture name =>
    have h' : t.parameter? v = none := Option.map_eq_none_iff.mp h
    simp [advance, descendParameter, h']

/-- Only the vertex that gets the new edge changes. -/
theorem vertex_advance_of_child?_eq_none (hv : v < t.size) {s : Step}
    (h : t.child? v s.label = none) (u : Nat) :
    (t.advance v s).1.vertex u =
      if v = u then (t.vertex u).withEdge s t.size else t.vertex u := by
  cases s with
  | exact token =>
    have h' : t.next? v token = none := h
    simp only [advance, descend, h', vertex_push, vertex_update _ _ _ _ hv]
    rfl
  | capture name =>
    have h' : t.parameter? v = none := Option.map_eq_none_iff.mp h
    simp only [advance, descendParameter, h', vertex_push, vertex_update _ _ _ _ hv]
    rfl

theorem child?_advance (hv : v < t.size) (s : Step) (u : Nat) (l : Label) :
    (t.advance v s).1.child? u l =
      if u = v ∧ l = s.label then some (t.advance v s).2 else t.child? u l := by
  cases h : t.child? v s.label with
  | some w =>
    rw [advance_of_child? h]
    split
    · next hul => rw [hul.1, hul.2, h]
    · rfl
  | none =>
    rw [child?_eq, vertex_advance_of_child?_eq_none hv h, (advance_of_child?_eq_none h).1]
    by_cases hu : v = u
    · subst hu
      rw [if_pos rfl, Vertex.child?_withEdge h, child?_eq]
      simp
    · rw [if_neg hu, if_neg fun hul => hu hul.1.symm, child?_eq]

theorem parameterName?_advance (hv : v < t.size) (s : Step) (u : Nat) :
    (t.advance v s).1.parameterName? u =
      if u = v then (t.parameterName? v).or s.name? else t.parameterName? u := by
  cases h : t.child? v s.label with
  | some w =>
    rw [advance_of_child? h]
    split
    · next hu =>
      subst hu
      cases s with
      | exact token => simp [Step.name?]
      | capture name =>
        have hn : (t.parameterName? u).isSome := by
          rw [parameterName?_isSome]; exact Option.isSome_of_eq_some h
        rw [Option.or_of_isSome hn]
    · rfl
  | none =>
    simp only [parameterName?, parameter?, vertex_advance_of_child?_eq_none hv h]
    by_cases hu : v = u
    · subst hu
      cases s with
      | exact token => simp [Vertex.withEdge, Step.name?]
      | capture name =>
        have h' : (t.vertex v).parameter = none := Option.map_eq_none_iff.mp h
        simp [Vertex.withEdge, Step.name?, h']
    · simp [hu, Ne.symm hu]

theorem identifier_advance (hv : v < t.size) (s : Step) (u : Nat) :
    ((t.advance v s).1.vertex u).identifier = (t.vertex u).identifier := by
  cases h : t.child? v s.label with
  | some w => rw [advance_of_child? h]
  | none =>
    rw [vertex_advance_of_child?_eq_none hv h]
    split
    · cases s <;> rfl
    · rfl

theorem isSorted_advance (hv : v < t.size) (s : Step) {u : Nat}
    (hs : IsSorted (t.vertex u).exact) : IsSorted ((t.advance v s).1.vertex u).exact := by
  cases h : t.child? v s.label with
  | some w => rwa [advance_of_child? h]
  | none =>
    rw [vertex_advance_of_child?_eq_none hv h]
    split
    · next hu =>
      subst hu
      cases s with
      | exact token => exact hs.insertEdge h
      | capture name => exact hs
    · exact hs

/-! ### Marking the end of a route -/

@[simp] theorem size_mark (t : Trie ι) (v : Nat) (i : ι) : (t.mark v i).size = t.size :=
  size_update _ _ _

theorem vertex_mark (hv : v < t.size) (i : ι) (u : Nat) :
    (t.mark v i).vertex u =
      if v = u then { t.vertex u with identifier := (t.vertex u).identifier.or (some i) }
      else t.vertex u :=
  vertex_update _ _ _ _ hv

theorem child?_mark (hv : v < t.size) (i : ι) (u : Nat) (l : Label) :
    (t.mark v i).child? u l = t.child? u l := by
  rw [child?_eq, vertex_mark hv]
  split <;> cases l <;> rfl

theorem parameterName?_mark (hv : v < t.size) (i : ι) (u : Nat) :
    (t.mark v i).parameterName? u = t.parameterName? u := by
  simp only [parameterName?, parameter?, vertex_mark hv]
  split <;> rfl

theorem identifier_mark (hv : v < t.size) (i : ι) (u : Nat) :
    ((t.mark v i).vertex u).identifier =
      if u = v then (t.vertex v).identifier.or (some i) else (t.vertex u).identifier := by
  rw [vertex_mark hv]
  by_cases h : v = u
  · subst h; simp
  · simp [h, Ne.symm h]

end Trie
end LinkRouting
