import LinkRouting.Proofs.RouteTable.Shadowing
import LinkRouting.Proofs.Trie.Traversal

/-! # How a route table grows

Registrations only ever add to a table, also where some of a series are refused: what is
refused leaves nothing behind, so a series leads where those of it lead that are accepted
(`registerEach_accepted`).  Every vertex keeps its number and all it has, and what comes
has greater numbers (`registerEach_append_only`).

The vertices thus stay those of a tree, whose traversals need not remember what they
met.  The table is empty as long as nothing was accepted (`registerEach_traversal`).
-/
namespace LinkRouting
namespace RouteTable
variable {ι : Type} {r r' : RouteTable ι} {pattern : String} {i : ι}

/-! ### A series of registrations -/

/-- A registration extends the trie, accepted or refused. -/
theorem attempt_extends (ht : r.trie.WellFormed) (pattern : String) (i : ι) :
    r.trie.Extends (r.attempt pattern i).trie := by
  rw [attempt]
  split
  · next h => exact register_extends ht h
  · exact .refl _

theorem registerEach_extends (hr : r.Reachable) (series : List (String × ι)) :
    r.trie.Extends (r.registerEach series).trie := by
  induction series generalizing r with
  | nil => exact .refl _
  | cons entry series ih =>
    obtain ⟨pattern, i⟩ := entry
    exact (attempt_extends hr.wellFormed pattern i).trans (ih (hr.attempt pattern i))

/-- **What is refused leaves nothing behind.** -/
theorem registerEach_accepted (r : RouteTable ι) (series : List (String × ι)) :
    r.registerEach (r.accepted series) = r.registerEach series := by
  induction series generalizing r with
  | nil => rfl
  | cons entry series ih =>
    obtain ⟨pattern, i⟩ := entry
    cases h : r.register pattern i with
    | ok r' =>
      simp only [accepted, registerEach, attempt, h]
      exact ih r'
    | error refusal =>
      simp only [accepted, registerEach, attempt, h]
      exact ih r

/-- With the refused ones left out, none of a series is refused. -/
theorem accepted_accepted (r : RouteTable ι) (series : List (String × ι)) :
    r.accepted (r.accepted series) = r.accepted series := by
  induction series generalizing r with
  | nil => rfl
  | cons entry series ih =>
    obtain ⟨pattern, i⟩ := entry
    cases h : r.register pattern i with
    | ok r' =>
      simp only [accepted, h]
      rw [ih r']
    | error refusal =>
      simp only [accepted, h]
      exact ih r

/-- **A table only grows at its end.**  Through any series of registrations, of which any
may be refused for any reason, every vertex keeps its number, its edges with their names
and ends, and its identifier; what leads to an old number has led there before; and the
table is the one that the accepted registrations alone lead to, of which none is refused
when they are made alone. -/
theorem registerEach_append_only (hr : r.Reachable) (series : List (String × ι)) :
    r.trie.Extends (r.registerEach series).trie ∧
    (∀ ls v, r.trie.follow? Trie.root ls = some v ↔
      v < r.trie.size ∧ (r.registerEach series).trie.follow? Trie.root ls = some v) ∧
    r.registerEach (r.accepted series) = r.registerEach series ∧
    r.accepted (r.accepted series) = r.accepted series := by
  have hext := registerEach_extends hr series
  have hwf := (hr.registerEach series).wellFormed
  exact ⟨hext, fun ls v => hext.follow?_root_iff hr.wellFormed hwf,
    registerEach_accepted r series, accepted_accepted r series⟩

/-- Where `/a/:b` leads already, `/a(/:x)` is refused and `/a/c` accepted. -/
theorem registerEach_append_only_refused :
    ∃ r : RouteTable Nat, r = RouteTable.empty.registerEach [("/a/:b", 3)] ∧
      r.accepted [("/a(/:x)", 7), ("/a/c", 8)] = [("/a/c", 8)] ∧
      r.trie.Extends (r.registerEach [("/a(/:x)", 7), ("/a/c", 8)]).trie ∧
      r.registerEach [("/a/c", 8)] = r.registerEach [("/a(/:x)", 7), ("/a/c", 8)] := by
  obtain ⟨hext, -, hsame, -⟩ := registerEach_append_only (ι := Nat)
    (Reachable.empty.registerEach [("/a/:b", 3)]) [("/a(/:x)", 7), ("/a/c", 8)]
  have haccepted : (RouteTable.empty.registerEach [("/a/:b", 3)]).accepted
      [("/a(/:x)", 7), ("/a/c", 8)] = [("/a/c", 8)] := by cbv
  rw [haccepted] at hsame
  exact ⟨_, rfl, haccepted, hext, hsame⟩

/-! ### The vertices as a tree -/

/-- A table in which a pattern was registered has more than a root. -/
theorem one_lt_size_register (ht : r.trie.WellFormed) (h : r.register pattern i = .ok r') :
    1 < r'.trie.size := by
  obtain ⟨hgram, hwf, -⟩ := register_gains ht h
  obtain ⟨ls, hls⟩ := List.exists_mem_of_ne_nil _ hgram.routes_ne_nil
  have hslash : r'.trie.HasVertex [.exact .slash] :=
    (hasVertex_register ht h _).mpr (.inr ⟨ls, hls, hgram.slash_prefix hls⟩)
  obtain ⟨v, hv⟩ := Option.isSome_iff_exists.mp hslash
  obtain ⟨w, hw, -⟩ := Option.bind_eq_some_iff.mp hv
  obtain ⟨hlt, hsize⟩ := hwf.later hw
  omega

/-- The root stays alone as long as every registration is refused. -/
theorem size_registerEach_eq_one_iff (hr : r.Reachable) (hsize : r.trie.size = 1)
    (series : List (String × ι)) :
    (r.registerEach series).trie.size = 1 ↔ r.accepted series = [] := by
  induction series with
  | nil => exact iff_of_true hsize rfl
  | cons entry series ih =>
    obtain ⟨pattern, i⟩ := entry
    cases h : r.register pattern i with
    | error refusal =>
      simp only [registerEach, attempt, accepted, h]
      exact ih
    | ok r' =>
      simp only [registerEach, attempt, accepted, h]
      have hlt := one_lt_size_register hr.wellFormed h
      have hle := (registerEach_extends (hr.register h) series).size_le
      exact iff_of_false (by omega) (List.cons_ne_nil _ _)

/-- **The vertices of a table are those of a tree, which traversals go through once.**
This holds after any series of registrations, with captures decoded or not; and there is
no vertex but the root if none of the series was accepted, and only then. -/
theorem registerEach_traversal (decode : Bool) (series : List (String × ι)) :
    ((RouteTable.empty.withDecoding decode).registerEach series).trie.TraversedOnce ∧
    (((RouteTable.empty.withDecoding decode).registerEach series).trie.size = 1 ↔
      (RouteTable.empty.withDecoding decode).accepted series = []) := by
  have hr : (RouteTable.empty.withDecoding decode : RouteTable ι).Reachable :=
    Reachable.empty.withDecoding decode
  exact ⟨(hr.registerEach series).wellFormed.traversedOnce,
    size_registerEach_eq_one_iff hr rfl series⟩

/-- One line for each of five vertices, and none for what was refused. -/
example : (RouteTable.empty.registerEach [("/a(/:b)", 3), ("/c(", 4)]).trie.outline Nat.repr =
    "<root>\n  \"/\"\n    \"a\" => 3\n      \"/\"\n        :b => 3\n" := by cbv

end RouteTable
end LinkRouting
