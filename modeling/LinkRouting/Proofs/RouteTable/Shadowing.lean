import LinkRouting.Proofs.RouteTable.Registration
import LinkRouting.Proofs.Trie.Extension

/-! # What a registration changes for old paths

A registration only extends the trie (`register_extends`), so a path that was matched is
matched with the same identifier and the same parameters afterwards, unless the pattern
shadows it (`matchPath_register_or_shadows`): the walk took the parameter edge of a
vertex for a literal, and the pattern has brought an exact edge for this literal there.
A path that is matched without parameters keeps its match for good.
-/
namespace LinkRouting
namespace RouteTable
variable {ι : Type} {r r' : RouteTable ι} {pattern path : String} {i : ι} {m : Match ι}

/-- Nothing is taken away by a registration. -/
theorem register_extends (ht : r.trie.WellFormed) (h : r.register pattern i = .ok r') :
    r.trie.Extends r'.trie := by
  obtain ⟨-, hwf, hg⟩ := register_gains ht h
  exact hg.extends ht hwf

/-- **A match is kept, unless the path is shadowed.** -/
theorem matchPath_eq_or_shadows (ht : r.trie.WellFormed) (h : r.register pattern i = .ok r')
    (hm : r.matchPath path = .ok m) :
    r'.matchPath path = .ok m ∨
      r.trie.Shadows r'.trie r.decodeParameters Trie.root .empty (Path.scan path) := by
  obtain ⟨j, b⟩ := m
  obtain ⟨hpath, v, hwalk, hid⟩ := matchPath_eq_ok_iff.mp hm
  have hext := register_extends ht h
  obtain ⟨-, hwf, -⟩ := register_gains ht h
  rcases hext.walk_eq_or_shadows ht hwf hwalk with hsame | hshadows
  · left
    refine matchPath_eq_ok_iff.mpr ⟨hpath, v, ?_, hext.identifier_eq_some hid⟩
    rw [decodeParameters_register h]
    exact hsame
  · exact .inr hshadows

/-- What is matched without parameters is not shadowed. -/
theorem matchPath_register_of_empty (ht : r.trie.WellFormed) (h : r.register pattern i = .ok r')
    (hm : r.matchPath path = .ok m) (hempty : m.parameters = .empty) :
    r'.matchPath path = .ok m := by
  rcases matchPath_eq_or_shadows ht h hm with hsame | hshadows
  · exact hsame
  · obtain ⟨j, b⟩ := m
    obtain rfl : b = .empty := hempty
    obtain ⟨-, v, hwalk, -⟩ := matchPath_eq_ok_iff.mp hm
    exact absurd hshadows (Trie.not_shadows_of_walk_eq_empty hwalk)

/-- **A registration changes a match only by shadowing it.**  A path that was matched is
matched with the same identifier and the same parameters afterwards, unless it has a
literal at which the walk took the parameter edge of some vertex, and the registration
has made an exact edge for the literal's key at that vertex.  A path that was matched
without parameters keeps its match through any series of registrations. -/
theorem matchPath_register_or_shadows (hr : r.Reachable) (hm : r.matchPath path = .ok m) :
    (∀ pattern i r', r.register pattern i = .ok r' →
      r'.matchPath path = .ok m ∨
        r.trie.Shadows r'.trie r.decodeParameters Trie.root .empty (Path.scan path)) ∧
    (m.parameters = .empty →
      ∀ series : List (String × ι), (r.registerEach series).matchPath path = .ok m) := by
  refine ⟨fun pattern i r' h => matchPath_eq_or_shadows hr.wellFormed h hm, ?_⟩
  intro hempty series
  induction series generalizing r with
  | nil => exact hm
  | cons entry series ih =>
    obtain ⟨pattern, i⟩ := entry
    refine ih (hr.attempt pattern i) ?_
    rw [attempt]
    split
    · next r' h => exact matchPath_register_of_empty hr.wellFormed h hm hempty
    · exact hm

/-- Beside `/a/:x`, the pattern `/a/c` leaves the match of `/a/b` as it was and shadows
`/a/c`; no registration changes the match of `/d`. -/
theorem matchPath_register_or_shadows_symbol :
    ∃ r r' : RouteTable Nat, r = RouteTable.empty.registerEach [("/a/:x", 3), ("/d", 4)] ∧
      r.register "/a/c" 7 = .ok r' ∧
      r.matchPath "/a/b" = .ok ⟨3, ⟨[("x", "b")]⟩⟩ ∧
      (r'.matchPath "/a/b" = .ok ⟨3, ⟨[("x", "b")]⟩⟩ ∨
        r.trie.Shadows r'.trie r.decodeParameters Trie.root .empty (Path.scan "/a/b")) ∧
      (r'.matchPath "/a/c" = .ok ⟨3, ⟨[("x", "c")]⟩⟩ ∨
        r.trie.Shadows r'.trie r.decodeParameters Trie.root .empty (Path.scan "/a/c")) ∧
      r'.matchPath "/a/c" = .ok ⟨7, .empty⟩ ∧
      ∀ series, (r.registerEach series).matchPath "/d" = .ok ⟨4, .empty⟩ := by
  have hr : (RouteTable.empty.registerEach [("/a/:x", 3), ("/d", 4)]).Reachable :=
    Reachable.empty.registerEach _
  have h : (RouteTable.empty.registerEach [("/a/:x", 3), ("/d", 4)]).register "/a/c" 7 =
      .ok (RouteTable.empty.registerEach [("/a/:x", 3), ("/d", 4), ("/a/c", 7)]) := by cbv
  have hb : (RouteTable.empty.registerEach [("/a/:x", 3), ("/d", 4)]).matchPath "/a/b" =
      .ok ⟨3, ⟨[("x", "b")]⟩⟩ := by cbv
  have hc : (RouteTable.empty.registerEach [("/a/:x", 3), ("/d", 4)]).matchPath "/a/c" =
      .ok ⟨3, ⟨[("x", "c")]⟩⟩ := by cbv
  have hd : (RouteTable.empty.registerEach [("/a/:x", 3), ("/d", 4)]).matchPath "/d" =
      .ok ⟨4, .empty⟩ := by cbv
  refine ⟨_, _, rfl, h, hb, (matchPath_register_or_shadows hr hb).1 _ _ _ h,
    (matchPath_register_or_shadows hr hc).1 _ _ _ h, by cbv,
    (matchPath_register_or_shadows hr hd).2 rfl⟩

end RouteTable
end LinkRouting
