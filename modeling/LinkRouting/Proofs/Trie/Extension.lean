import LinkRouting.Proofs.Trie.Gain
import LinkRouting.Proofs.Trie.Walk
import LinkRouting.Trie.Growth

/-! # Walks over a trie that has grown

What a trie gains is added to what it has: every vertex keeps its number, its edges
with their names, and its identifier (`Gains.extends`), and new vertices come after the
old ones (`Extends.follow?_root_iff`).  If it gains only ends that it has already, nothing
changes at all (`Gains.eq_self`).  A walk takes the same edges after as before
(`Extends.walk_eq_or_shadows`), but for one way to be led astray.  A literal that took a
parameter edge takes an exact edge instead if one has come for it at the same vertex; the
path is then *shadowed* there (`Shadows`).

A walk that bound nothing took no parameter edge, and cannot be led astray at all
(`not_shadows_of_walk_eq_empty`).
-/
namespace LinkRouting

/-- Vertices each of which has all that the other has are the same. -/
theorem Vertex.Extends.antisymm {ι : Type} {x y : Vertex ι} (h : x.Extends y) (k : y.Extends x)
    (hx : IsSorted x.exact) (hy : IsSorted y.exact) : x = y := by
  have hexact : x.exact = y.exact := hx.ext hy fun e => ⟨h.exact e, k.exact e⟩
  have hparameter : x.parameter = y.parameter :=
    Option.ext fun e => ⟨h.parameter e, k.parameter e⟩
  have hidentifier : x.identifier = y.identifier :=
    Option.ext fun i => ⟨h.identifier i, k.identifier i⟩
  cases x
  cases y
  subst hexact hparameter hidentifier
  rfl

namespace Trie
variable {ι : Type} {t u : Trie ι} {i : ι} {branches : List Branch}

/-! ### Nothing is taken away -/

/-- **Every way to a vertex is kept**, with the names on it and the route that ends there. -/
structure Keeps (t u : Trie ι) : Prop where
  follow? : ∀ {ls v}, t.follow? root ls = some v → u.follow? root ls = some v
  nameAt? : ∀ {ls name}, t.nameAt? ls = some name → u.nameAt? ls = some name
  routeAt? : ∀ {ls j}, t.routeAt? ls = some j → u.routeAt? ls = some j

/-- The edges that lead on from a vertex are kept. -/
theorem Keeps.child?_eq_some (h : t.Keeps u) {ls : List Label} {v w : Nat} {l : Label}
    (hv : t.follow? root ls = some v) (hw : t.child? v l = some w) : u.child? v l = some w := by
  have hold : t.follow? root (ls ++ [l]) = some w := by
    rw [follow?_concat, hv, Option.bind_some, hw]
  have hnew := h.follow? hold
  rwa [follow?_concat, h.follow? hv, Option.bind_some] at hnew

/-- A parameter edge is kept under its name. -/
theorem Keeps.parameter?_eq_some (h : t.Keeps u) {ls : List Label} {v : Nat}
    {e : ParameterEdge} (hv : t.follow? root ls = some v) (he : t.parameter? v = some e) :
    u.parameter? v = some e := by
  have htarget : u.child? v .parameter = some e.target := by
    apply h.child?_eq_some hv
    rw [child?, he, Option.map_some]
  have hname : u.nameAt? ls = some e.name := by
    apply h.nameAt?
    rw [Trie.nameAt?, hv, Option.bind_some, parameterName?, he, Option.map_some]
  obtain ⟨f, hf, hftarget⟩ := Option.map_eq_some_iff.mp htarget
  rw [Trie.nameAt?, h.follow? hv, Option.bind_some, parameterName?, hf, Option.map_some] at hname
  have hfname : f.name = e.name := Option.some.inj hname
  have hfe : f = e := by
    cases e
    cases f
    exact congrArg₂ ParameterEdge.mk hfname hftarget
  rw [hf, hfe]

/-- **A trie that keeps every way extends the one that had it.** -/
theorem Keeps.extends (h : t.Keeps u) (ht : t.WellFormed) (hu : u.WellFormed) : t.Extends u where
  size_le := by
    have hpos := ht.size_pos
    obtain ⟨ls, hls⟩ := ht.exists_follow? (v := t.size - 1) (by omega)
    have hlt := hu.lt_size (h.follow? hls)
    omega
  vertex v hv := by
    obtain ⟨ls, hls⟩ := ht.exists_follow? hv
    refine ⟨fun e he => ?_, fun e he => h.parameter?_eq_some hls he, fun j hj => ?_⟩
    · have hold : t.child? v (.exact e.1) = some e.2 := (ht.sorted v).mem_iff_lookup.mp he
      exact (hu.sorted v).mem_iff_lookup.mpr (h.child?_eq_some hls hold)
    · rw [← routeAt?_of_follow? (h.follow? hls)]
      apply h.routeAt?
      rwa [routeAt?_of_follow? hls]

theorem Gains.keeps (hg : Gains t u i branches) : t.Keeps u where
  follow? h := hg.follow? h
  nameAt? h := by rw [hg.nameAt?, h, Option.some_or]
  routeAt? h := by rw [hg.routeAt?, h, Option.some_or]

/-- **What a trie gains is added to what it has.** -/
theorem Gains.extends (hg : Gains t u i branches) (ht : t.WellFormed) (hu : u.WellFormed) :
    t.Extends u :=
  hg.keeps.extends ht hu

/-- A vertex that the smaller trie lacks has nothing to keep. -/
theorem Extends.vertex_extends (h : t.Extends u) (v : Nat) :
    (t.vertex v).Extends (u.vertex v) := by
  by_cases hv : v < t.size
  · exact h.vertex v hv
  · rw [t.vertex_of_size_le (Nat.le_of_not_lt hv)]
    constructor <;> intro x hx <;> cases hx

theorem Extends.next?_eq_some (h : t.Extends u) (ht : t.WellFormed) (hu : u.WellFormed) {v w : Nat}
    {token : Path.Token} (hw : t.next? v token = some w) : u.next? v token = some w := by
  have hmem := (ht.sorted v).mem_iff_lookup.mpr hw
  exact (hu.sorted v).mem_iff_lookup.mp ((h.vertex_extends v).exact _ hmem)

theorem Extends.parameter?_eq_some (h : t.Extends u) {v : Nat} {e : ParameterEdge}
    (he : t.parameter? v = some e) : u.parameter? v = some e :=
  (h.vertex_extends v).parameter e he

theorem Extends.identifier_eq_some (h : t.Extends u) {v : Nat} {j : ι}
    (hj : (t.vertex v).identifier = some j) : (u.vertex v).identifier = some j :=
  (h.vertex_extends v).identifier j hj

/-- An edge is kept with what it leads to. -/
theorem Extends.child?_eq_some (h : t.Extends u) (ht : t.WellFormed) (hu : u.WellFormed) {v w : Nat}
    {l : Label} (hw : t.child? v l = some w) : u.child? v l = some w := by
  cases l with
  | exact token => exact h.next?_eq_some ht hu hw
  | parameter =>
    obtain ⟨e, he, rfl⟩ := Option.map_eq_some_iff.mp hw
    rw [child?, h.parameter?_eq_some he, Option.map_some]

theorem Extends.follow?_eq_some (h : t.Extends u) (ht : t.WellFormed) (hu : u.WellFormed)
    {v w : Nat} {ls : List Label} (hw : t.follow? v ls = some w) : u.follow? v ls = some w := by
  induction ls generalizing v with
  | nil => exact hw
  | cons l ls ih =>
    obtain ⟨x, hx, hrest⟩ := Option.bind_eq_some_iff.mp hw
    rw [follow?, h.child?_eq_some ht hu hx]
    exact ih hrest

/-- **New vertices come after the old ones.**  What leads to an old number has led there
before. -/
theorem Extends.follow?_root_iff (h : t.Extends u) (ht : t.WellFormed) (hu : u.WellFormed)
    {v : Nat} {ls : List Label} :
    t.follow? root ls = some v ↔ v < t.size ∧ u.follow? root ls = some v := by
  constructor
  · intro hv
    exact ⟨ht.lt_size hv, h.follow?_eq_some ht hu hv⟩
  · rintro ⟨hlt, hv⟩
    obtain ⟨ms, hms⟩ := ht.exists_follow? hlt
    rwa [hu.labels_unique hv (h.follow?_eq_some ht hu hms)]

/-! ### Nothing is added -/

/-- **Tries each of which has all that the other has are the same**, numbers included. -/
theorem Extends.antisymm (h : t.Extends u) (k : u.Extends t) (ht : t.WellFormed)
    (hu : u.WellFormed) : t = u := by
  have hvertex : ∀ v, t.vertex v = u.vertex v := fun v =>
    (h.vertex_extends v).antisymm (k.vertex_extends v) (ht.sorted v) (hu.sorted v)
  have hvertices : t.vertices = u.vertices := by
    refine Array.ext (Nat.le_antisymm h.size_le k.size_le) fun v hvt hvu => ?_
    have hv := hvertex v
    simp only [Trie.vertex, Array.getElem?_eq_getElem hvt, Array.getElem?_eq_getElem hvu,
      Option.getD_some] at hv
    exact hv
  cases t
  exact congrArg Trie.mk hvertices

/-- **A trie that gains only ends that it has stays the same.** -/
theorem Gains.eq_self (hg : Gains t u i branches) (ht : t.WellFormed) (hu : u.WellFormed)
    (hends : ∀ b ∈ branches, (t.routeAt? b.labels).isSome) : u = t := by
  have hvertex : ∀ ls, u.HasVertex ls → t.HasVertex ls := by
    intro ls hls
    rcases (hg.hasVertex ls).mp hls with hold | ⟨b, hb, hp⟩
    · exact hold
    · exact (hasVertex_of_isEnd (hends b hb)).of_isPrefix hp
  have hkeeps : u.Keeps t := by
    refine ⟨fun {ls v} hv => ?_, fun {ls name} hname => ?_, fun {ls j} hj => ?_⟩
    · obtain ⟨w, hw⟩ := Option.isSome_iff_exists.mp (hvertex ls (hasVertex_of_follow? hv))
      obtain rfl : v = w := Option.some.inj (hv.symm.trans (hg.follow? hw))
      exact hw
    · -- The old trie has the parameter edge, and so a name for it.
      have hold : (t.nameAt? ls).isSome := by
        rw [nameAt?_isSome_iff]
        apply hvertex
        rw [← nameAt?_isSome_iff, hname, Option.isSome_some]
      rwa [hg.nameAt?, Option.or_of_isSome hold] at hname
    · rw [hg.routeAt?] at hj
      split at hj
      · next hmem =>
        obtain ⟨b, hb, rfl⟩ := List.mem_map.mp hmem
        rwa [Option.or_of_isSome (hends b hb)] at hj
      · rwa [Option.or_none] at hj
  exact (hkeeps.extends hu ht).antisymm (hg.extends ht hu) hu ht

/-! ### The walk over the old trie and over the new one -/

/-- **A path is shadowed** where a trie has grown: at one of its literals the walk over the
old trie takes the parameter edge of a vertex, and the new trie has an exact edge for the
literal at this vertex, which the old one had not. -/
def Shadows (t u : Trie ι) (decode : Bool) (v : Nat) (b : Bindings) (tokens : List Path.Token) :
    Prop :=
  ∃ before text after w c, tokens = before ++ .literal text :: after ∧
    t.walk decode v b before = .ok (w, c) ∧
    t.next? w (.literal (literalKey text)) = none ∧
    (t.parameter? w).isSome ∧ (u.next? w (.literal (literalKey text))).isSome

/-- What is shadowed further on is shadowed. -/
theorem Shadows.cons {decode : Bool} {v w : Nat} {b c : Bindings} {token : Path.Token}
    {tokens : List Path.Token} (hstep : t.step decode v b token = .ok (w, c))
    (h : t.Shadows u decode w c tokens) : t.Shadows u decode v b (token :: tokens) := by
  obtain ⟨before, text, after, x, d, rfl, hwalk, hnone, hparameter, hexact⟩ := h
  refine ⟨token :: before, text, after, x, d, rfl, ?_, hnone, hparameter, hexact⟩
  rw [walk, hstep]
  exact hwalk

/-- **A step is the same over the new trie**, unless an exact edge has come for its
literal. -/
theorem Extends.step_eq_or (h : t.Extends u) (ht : t.WellFormed) (hu : u.WellFormed) {decode : Bool}
    {v w : Nat} {b c : Bindings} {token : Path.Token}
    (hstep : t.step decode v b token = .ok (w, c)) :
    u.step decode v b token = .ok (w, c) ∨
      ∃ text, token = .literal text ∧ t.next? v (.literal (literalKey text)) = none ∧
        (t.parameter? v).isSome ∧ (u.next? v (.literal (literalKey text))).isSome := by
  cases token with
  | slash | dot =>
    left
    dsimp only [step] at hstep ⊢
    split at hstep
    · next hnext => rw [h.next?_eq_some ht hu hnext]; exact hstep
    · cases hstep
  | literal text =>
    rw [step] at hstep ⊢
    cases hnext : t.next? v (.literal (literalKey text)) with
    | some x =>
      left
      rw [hnext] at hstep
      rw [h.next?_eq_some ht hu hnext]
      exact hstep
    | none =>
      rw [hnext] at hstep
      cases hedge : t.parameter? v with
      | none => rw [hedge] at hstep; cases hstep
      | some e =>
        cases hnew : u.next? v (.literal (literalKey text)) with
        | some x => exact .inr ⟨text, rfl, hnext, rfl, by rw [hnew]; rfl⟩
        | none =>
          left
          rw [hedge] at hstep
          rw [h.parameter?_eq_some hedge]
          exact hstep

/-- **A walk is the same over the new trie, unless its path is shadowed.** -/
theorem Extends.walk_eq_or_shadows (h : t.Extends u) (ht : t.WellFormed) (hu : u.WellFormed)
    {decode : Bool} {tokens : List Path.Token} {v x : Nat} {b c : Bindings}
    (hwalk : t.walk decode v b tokens = .ok (x, c)) :
    u.walk decode v b tokens = .ok (x, c) ∨ t.Shadows u decode v b tokens := by
  induction tokens generalizing v b with
  | nil => exact .inl hwalk
  | cons token tokens ih =>
    rw [walk] at hwalk
    split at hwalk
    · next w d hstep =>
      rcases h.step_eq_or ht hu hstep with hsame | ⟨text, rfl, hnone, hparameter, hexact⟩
      · rcases ih hwalk with hrest | hshadows
        · left
          rw [walk, hsame]
          exact hrest
        · exact .inr (hshadows.cons hstep)
      · exact .inr ⟨[], text, tokens, v, b, rfl, rfl, hnone, hparameter, hexact⟩
    · cases hwalk

/-! ### Walks that bind nothing -/

theorem walk_append (decode : Bool) (v : Nat) (b : Bindings) (xs ys : List Path.Token) :
    t.walk decode v b (xs ++ ys) =
      t.walk decode v b xs >>= fun next => t.walk decode next.1 next.2 ys := by
  induction xs generalizing v b with
  | nil => rfl
  | cons token xs ih =>
    rw [List.cons_append, walk, walk]
    cases t.step decode v b token with
    | error miss => rfl
    | ok next => exact ih next.1 next.2

/-- What is bound stays bound. -/
theorem isSome_get?_of_walk {decode : Bool} {tokens : List Path.Token} {v x : Nat}
    {b c : Bindings} (hwalk : t.walk decode v b tokens = .ok (x, c)) {name : String}
    (hname : (b.get? name).isSome) : (c.get? name).isSome := by
  obtain ⟨_, bs, -, -, rfl⟩ := walk_eq_ok hwalk
  rw [Bindings.get?_foldl_set, Option.isSome_or, hname, Bool.or_true]

/-- **A path is not shadowed if the walk over it binds nothing.** -/
theorem not_shadows_of_walk_eq_empty {decode : Bool} {tokens : List Path.Token} {v x : Nat}
    {b : Bindings} (hwalk : t.walk decode v b tokens = .ok (x, .empty)) :
    ¬ t.Shadows u decode v b tokens := by
  rintro ⟨before, text, after, w, c, rfl, hbefore, hnone, hparameter, -⟩
  obtain ⟨e, he⟩ := Option.isSome_iff_exists.mp hparameter
  rw [walk_append, hbefore] at hwalk
  -- The literal binds the name of the edge that it takes, which then stays bound.
  have hstep : t.step decode w c (.literal text) =
      .ok (e.target, c.set e.name (captureValue decode text)) := by
    rw [step, hnone, he]
  have hafter : t.walk decode e.target (c.set e.name (captureValue decode text)) after =
      .ok (x, .empty) := by
    have hrest : t.walk decode w c (.literal text :: after) = .ok (x, .empty) := hwalk
    rwa [walk, hstep] at hrest
  have hset : ((c.set e.name (captureValue decode text)).get? e.name).isSome := by
    rw [Bindings.get?_set, if_pos rfl, Option.isSome_some]
  have hbound := isSome_get?_of_walk hafter hset
  rw [Bindings.get?_empty] at hbound
  cases hbound

end Trie
end LinkRouting
