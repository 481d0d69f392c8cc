import LinkRouting.Proofs.Path.Escapes
import LinkRouting.Proofs.Pattern.Spacing
import LinkRouting.Proofs.RouteTable.Registration
import LinkRouting.Proofs.Trie.Walk

/-! # Writing a path for a route

A path is *spelled* along the edges of a trie by writing each separator, some
encoding of each literal, and some encoding of a chosen text for each parameter
(`Trie.Spelling`).  Matching takes it back along the same edges, whatever was chosen
(`Spelling.walk_eq`), for two reasons.  The path is cut into the tokens that
were written, since labels that lead to a vertex never put text beside text
(`Reachable.spellable`).  And no token leaves its edge: a literal decodes to the text
of its own edge, a chosen text to one that has none.

Every vertex can be spelled (`exists_spelling`), so no route is dead.
-/
namespace LinkRouting

namespace Trie
variable {ι : Type} {t : Trie ι}

/-- **A path that is spelled along edges**: its tokens, and the names with the texts
chosen for them, in order.  A text that is chosen at a vertex is not that of an exact
edge there. -/
inductive Spelling (t : Trie ι) :
    Nat → List Path.Token → List (String × String) → Nat → Prop
  | nil (v : Nat) : Spelling t v [] [] v
  | separator {v w x : Nat} {token : Path.Token} {tokens : List Path.Token}
      {bs : List (String × String)} : token.isSeparator = true →
      t.next? v token = some w → Spelling t w tokens bs x →
      Spelling t v (token :: tokens) bs x
  | literal {v w x : Nat} {text written : String} {tokens : List Path.Token}
      {bs : List (String × String)} : t.next? v (.literal text) = some w →
      Path.IsLiteralText written → Percent.decode? written = some text →
      Spelling t w tokens bs x → Spelling t v (.literal written :: tokens) bs x
  | parameter {v x : Nat} {e : ParameterEdge} {chosen written : String}
      {tokens : List Path.Token} {bs : List (String × String)} :
      t.parameter? v = some e → t.next? v (.literal chosen) = none →
      Path.IsLiteralText written → Percent.decode? written = some chosen →
      Spelling t e.target tokens bs x →
      Spelling t v (.literal written :: tokens) ((e.name, chosen) :: bs) x

/-- What is spelled is taken back along the same edges. -/
theorem Spelling.walk_eq {v x : Nat} {tokens : List Path.Token} {bs : List (String × String)}
    (h : t.Spelling v tokens bs x) (b : Bindings) :
    t.walk true v b tokens = .ok (x, bs.foldl (fun b p => b.set p.1 p.2) b) := by
  induction h generalizing b with
  | nil v => rfl
  | separator htoken hnext _ ih =>
    rw [walk, step_separator htoken hnext]
    exact ih b
  | literal hnext _ hdecode _ ih =>
    rw [walk, step, literalKey, hdecode, Option.getD_some, hnext]
    exact ih b
  | parameter he hfree _ hdecode _ ih =>
    rw [walk, step, literalKey, hdecode, Option.getD_some, hfree, he, captureValue, if_pos rfl,
      hdecode, Option.getD_some]
    exact ih _

/-- What is spelled has separators where the labels have them. -/
theorem Spelling.exists_labels {v x : Nat} {tokens : List Path.Token}
    {bs : List (String × String)} (h : t.Spelling v tokens bs x) :
    ∃ ls, t.follow? v ls = some x ∧
      tokens.map Path.Token.isSeparator = ls.map Label.isSeparator := by
  induction h with
  | nil v => exact ⟨[], rfl, rfl⟩
  | @separator _ _ _ token _ _ _ hnext _ ih =>
    obtain ⟨ls, hls, hplaces⟩ := ih
    refine ⟨.exact token :: ls, ?_, congrArg _ hplaces⟩
    rw [follow?, child?, hnext]
    exact hls
  | @literal _ _ _ text _ _ _ hnext _ _ _ ih =>
    obtain ⟨ls, hls, hplaces⟩ := ih
    refine ⟨.exact (.literal text) :: ls, ?_, congrArg _ hplaces⟩
    rw [follow?, child?, hnext]
    exact hls
  | parameter he _ _ _ _ ih =>
    obtain ⟨ls, hls, hplaces⟩ := ih
    refine ⟨.parameter :: ls, ?_, congrArg _ hplaces⟩
    rw [follow?, child?, he]
    exact hls

theorem Spelling.isLiteralText {v x : Nat} {tokens : List Path.Token}
    {bs : List (String × String)} (h : t.Spelling v tokens bs x) :
    ∀ text, .literal text ∈ tokens → Path.IsLiteralText text := by
  induction h with
  | nil v => nofun
  | separator htoken _ _ ih =>
    intro text hmem
    rcases List.mem_cons.mp hmem with rfl | hmem
    · cases htoken
    · exact ih text hmem
  | literal _ hwritten _ _ ih | parameter _ _ hwritten _ _ ih =>
    intro text hmem
    rcases List.mem_cons.mp hmem with heq | hmem
    · exact Path.Token.literal.inj heq ▸ hwritten
    · exact ih text hmem

/-- **What is spelled along spellable labels is cut into the same tokens again.** -/
theorem Spelling.canonical {v x : Nat} {tokens : List Path.Token} {bs : List (String × String)}
    (h : t.Spelling v tokens bs x) (hls : ∀ ls, t.follow? v ls = some x → Spellable ls) :
    Path.Canonical tokens := by
  obtain ⟨ls, hfollow, hplaces⟩ := h.exists_labels
  exact Path.canonical_iff.mpr ⟨hplaces ▸ (hls ls hfollow).spaced, h.isLiteralText⟩

/-! ### Every vertex can be spelled -/

/-- A text with every character written as escapes. -/
def escaped (text : String) : String :=
  String.ofList (Percent.encodeWith (fun _ => true) text.toList)

theorem decode?_escaped (text : String) : Percent.decode? (escaped text) = some text :=
  Percent.decode?_encodeWith rfl text

/-- The escapes of a text that is not empty could stand in a path. -/
theorem isLiteralText_escaped {text : String} (h : text ≠ "") :
    Path.IsLiteralText (escaped text) :=
  Path.isLiteralText_encodeWith h fun _ _ hkept => absurd hkept (by simp)

/-- Some text is not that of an edge, for a vertex has finitely many. -/
theorem exists_free_text (t : Trie ι) (v : Nat) :
    ∃ chosen, chosen ≠ "" ∧ t.next? v (.literal chosen) = none := by
  let texts (n : Nat) : Path.Token := .literal (String.ofList (List.replicate (n + 1) 'a'))
  have htexts : texts.Injective := fun m n h => by
    have hlist := String.ofList_injective (Path.Token.literal.inj h)
    simpa using congrArg List.length hlist
  obtain ⟨_, ⟨n, rfl⟩, hn⟩ := (Set.infinite_range_of_injective htexts).exists_notMem_finite
    (List.finite_toSet ((t.vertex v).exact.map Prod.fst))
  refine ⟨String.ofList (List.replicate (n + 1) 'a'), by simp [List.replicate_succ],
    List.lookup_eq_none_iff.mpr fun e he => ?_⟩
  rw [bne_iff_ne]
  exact fun heq => hn (List.mem_map.mpr ⟨e, he, heq.symm⟩)

theorem exists_spelling {ls : List Label} {v x : Nat} (h : t.follow? v ls = some x)
    (hls : ∀ text, .exact (.literal text) ∈ ls → text ≠ "") :
    ∃ tokens bs, t.Spelling v tokens bs x := by
  induction ls generalizing v with
  | nil =>
    cases h
    exact ⟨[], [], .nil _⟩
  | cons l ls ih =>
    rw [follow?] at h
    obtain ⟨w, hw, hx⟩ := Option.bind_eq_some_iff.mp h
    obtain ⟨tokens, bs, hrest⟩ := ih hx fun text hmem => hls text (List.mem_cons_of_mem _ hmem)
    cases l with
    | exact token =>
      cases token with
      | slash => exact ⟨_, _, .separator rfl hw hrest⟩
      | dot => exact ⟨_, _, .separator rfl hw hrest⟩
      | literal text =>
        exact ⟨_, _, .literal hw (isLiteralText_escaped (hls text List.mem_cons_self))
          (decode?_escaped text) hrest⟩
    | parameter =>
      obtain ⟨chosen, hne, hfree⟩ := t.exists_free_text v
      obtain ⟨e, he, rfl⟩ := Option.map_eq_some_iff.mp hw
      exact ⟨_, _, .parameter he hfree (isLiteralText_escaped hne) (decode?_escaped chosen) hrest⟩

end Trie

namespace RouteTable
variable {ι : Type} {r : RouteTable ι}

/-- Labels that lead to a vertex can be written. -/
theorem Reachable.spellable (hr : r.Reachable) {ls : List Label} (h : r.trie.HasVertex ls) :
    Spellable ls := by
  induction hr generalizing ls with
  | empty =>
    rw [(Trie.hasVertex_empty ls).mp h]
    exact Spellable.behind_nil.toSpellable
  | register hr hreg ih =>
    rcases (hasVertex_register hr.wellFormed hreg ls).mp h with hold | ⟨route, hroute, hp⟩
    · exact ih hold
    · exact ((register_gains hr.wellFormed hreg).1.spellable hroute).of_isPrefix hp
  | withDecoding _ _ ih => exact ih h

/-- No route ends at the root. -/
theorem Reachable.identifier_root (hr : r.Reachable) :
    (r.trie.vertex Trie.root).identifier = none := by
  induction hr with
  | empty => rw [RouteTable.empty, Trie.vertex_empty]
  | register hr hreg ih =>
    have hroute := routeAt?_register hr.wellFormed hreg []
    rw [Trie.routeAt?_of_follow? (Trie.follow?_nil _ _),
      Trie.routeAt?_of_follow? (Trie.follow?_nil _ _), ih, if_neg] at hroute
    · exact hroute
    · intro hmem
      obtain ⟨hgram, -⟩ := register_gains hr.wellFormed hreg
      exact absurd (hgram.slash_prefix hmem) (by simp)
  | withDecoding _ _ ih => exact ih

/-- **Matching undoes spelling, and no route is dead.**  In every table that
registrations lead to, with captures decoded, each vertex at which a route ends can
be spelled, and whatever is spelled for it is matched with its identifier.  What is
bound are the names on the way, each to the text that was chosen for it last. -/
theorem matchPath_render_spelling (hr : r.Reachable) (hdecode : r.decodeParameters = true) {v : Nat}
    {i : ι} (hid : (r.trie.vertex v).identifier = some i) :
    (∃ tokens bs, r.trie.Spelling Trie.root tokens bs v) ∧
      ∀ tokens bs, r.trie.Spelling Trie.root tokens bs v →
        ∃ b, r.matchPath (Path.render tokens) = .ok ⟨i, b⟩ ∧
          ∀ name, b.get? name = bs.reverse.lookup name := by
  refine ⟨?_, fun tokens bs h => ?_⟩
  · -- Past the last vertex no route ends, so some labels lead to this one.
    have hv : v < r.trie.size := by
      by_contra hv
      rw [Trie.vertex_of_size_le _ (Nat.le_of_not_lt hv)] at hid
      cases hid
    obtain ⟨ls, hls⟩ := hr.wellFormed.exists_follow? hv
    exact Trie.exists_spelling hls (hr.spellable (Trie.hasVertex_of_follow? hls)).literal_ne
  · have hcanonical : Path.Canonical tokens :=
      h.canonical fun ls hls => hr.spellable (Trie.hasVertex_of_follow? hls)
    refine ⟨bs.foldl (fun b p => b.set p.1 p.2) .empty,
      matchPath_eq_ok_iff.mpr ⟨fun hempty => ?_, v, ?_, hid⟩, fun name => ?_⟩
    · -- The empty path is spelled for the root alone, at which no route ends.
      have hnil : tokens = [] := by
        rw [← Path.scan_render hcanonical, hempty, Path.scan_eq_nil_iff]
      subst hnil
      cases h
      rw [hr.identifier_root] at hid
      cases hid
    · rw [Path.scan_render hcanonical, hdecode]
      exact h.walk_eq .empty
    · rw [Bindings.get?_foldl_set, Bindings.get?_empty, Option.or_none]

/-- The vertex at which `/a/:b` ends is spelled and matched, beside the route `/a/c`. -/
theorem matchPath_render_spelling_symbol :
    ∃ r : RouteTable Nat, r = RouteTable.empty.registerEach [("/a(/:b)", 7), ("/a/c", 8)] ∧
      (∃ tokens bs, r.trie.Spelling Trie.root tokens bs 4) ∧
        ∀ tokens bs, r.trie.Spelling Trie.root tokens bs 4 →
          ∃ b, r.matchPath (Path.render tokens) = .ok ⟨7, b⟩ ∧
            ∀ name, b.get? name = bs.reverse.lookup name :=
  ⟨_, rfl, matchPath_render_spelling (Reachable.empty.registerEach _) (by cbv) (by cbv)⟩

end RouteTable
end LinkRouting
