import LinkRouting.Manifest
import LinkRouting.Proofs.Pattern.Check
import LinkRouting.Proofs.Pattern.Scan
import LinkRouting.Proofs.RouteTable.Registration
import LinkRouting.Proofs.Trie.Meeting

/-! # Which patterns a table accepts

A table accepts only patterns of the grammar, and refuses such a pattern only as
ambiguous (`register_grammar`).  What is registered already matters at one vertex
alone: the one where the pattern's first group begins (`answer_eq_of_lead`).  So a
table with more routes gives the same answer, or refuses the pattern as ambiguous
(`answer_of_subset`): with fewer routes nothing is refused that was accepted, and
what is refused once is refused for good (`acceptance_antitone`).
-/
namespace LinkRouting

namespace Pattern

/-- The labels of a pattern before its first group. -/
def leadLabels (ts : List Token) : List Label :=
  (steps (beforeGroups ts)).map Step.label

theorem begins_of_check {ts : List Token} (h : check ts = .ok ()) :
    (Plan.ofTokens ts).Begins [] ts := by
  match ts with
  | .slash :: ts => exact begins_ofTokens ts
  | [] => cases h
  | .dot :: _ | .openParen :: _ | .closeParen :: _ | .literal _ :: _ | .symbol _ :: _
  | .star _ :: _ => cases h

/-- What is told about a fault in a group has the group's `(` in it. -/
theorem Offence.Behind.mem_of_unexpected {trail : List Token} {after : String}
    (h : (Offence.unexpected after).Behind (.openParen :: trail)) : '(' ∈ after.toList := by
  rcases h with h | ⟨more, h⟩
  · cases h
  · obtain rfl := Offence.unexpected.inj h
    exact mem_toList_render_of_mem (by simp)

end Pattern

namespace RouteTable
open Pattern (Offence Grammatical)

variable {ι : Type} {r r' : RouteTable ι} {pattern : String} {i j : ι}

/-- What a registration answers: that the pattern is registered, or why it is not. -/
def answer (r : RouteTable ι) (pattern : String) (i : ι) : Except Refusal Unit :=
  (r.register pattern i).map fun _ => ()

theorem answer_eq_ok_iff : r.answer pattern i = .ok () ↔ ∃ r', r.register pattern i = .ok r' := by
  rw [answer]
  cases r.register pattern i <;> simp [Except.map]

theorem answer_eq_error_iff {e : Refusal} :
    r.answer pattern i = .error e ↔ r.register pattern i = .error e := by
  rw [answer]
  cases r.register pattern i <;> simp [Except.map]

theorem answer_of_check_eq_error {o : Offence}
    (h : Pattern.check (Pattern.scan pattern) = .error o) (r : RouteTable ι) (i : ι) :
    r.answer pattern i = .error (.malformed o) := by
  simp only [answer, register, h]
  rfl

theorem answer_of_check (h : Pattern.check (Pattern.scan pattern) = .ok ()) (r : RouteTable ι)
    (i : ι) :
    r.answer pattern i =
      ((Trie.lay i (.ofTokens (Pattern.scan pattern)) r.trie Trie.root).map
        fun _ => ()).mapError Refusal.unlaid := by
  simp only [answer, register, h]
  cases Trie.lay i (.ofTokens (Pattern.scan pattern)) r.trie Trie.root <;> rfl

/-- The pattern is refused when it is laid if its plan is. -/
theorem answer_eq_unlaid_iff (h : Pattern.check (Pattern.scan pattern) = .ok ()) {o : Offence} :
    r.answer pattern i = .error (.unlaid o) ↔
      Trie.lay i (.ofTokens (Pattern.scan pattern)) r.trie Trie.root = .error o := by
  rw [answer_of_check h]
  cases Trie.lay i (.ofTokens (Pattern.scan pattern)) r.trie Trie.root <;>
    simp [Except.map, Except.mapError]

/-- The answer is that the pattern cannot go on, before any group of it. -/
def StopsBeforeGroups (a : Except Refusal Unit) : Prop :=
  ∃ after, a = .error (.unlaid (.unexpected after)) ∧ '(' ∉ after.toList

/-- **What the answer depends on.**  A pattern without groups is accepted by every
table, and a pattern that cannot go on before its first group is refused by every
table.  Else a table refuses the pattern as ambiguous if something leads on from where
the first group begins, and all other tables give it one answer. -/
inductive AnswerOf (ι : Type) (pattern : String) : Prop
  | accepted (h : '(' ∉ pattern.toList)
      (ok : ∀ (r : RouteTable ι) i, r.trie.WellFormed → r.answer pattern i = .ok ())
  | stopped (after : String) (h : '(' ∉ after.toList)
      (error : ∀ (r : RouteTable ι) i, r.trie.WellFormed →
        r.answer pattern i = .error (.unlaid (.unexpected after)))
  | groups (h : '(' ∈ pattern.toList)
      (ambiguous : ∀ (r : RouteTable ι) i, r.trie.WellFormed →
        r.trie.GoesOn (Pattern.leadLabels (Pattern.scan pattern)) →
          r.answer pattern i = .error (.unlaid .ambiguousGroup))
      (same : ∀ (r r' : RouteTable ι) i j, r.trie.WellFormed → r'.trie.WellFormed →
        ¬ r.trie.GoesOn (Pattern.leadLabels (Pattern.scan pattern)) →
        ¬ r'.trie.GoesOn (Pattern.leadLabels (Pattern.scan pattern)) →
          r.answer pattern i = r'.answer pattern j)
      (later : ∀ (r : RouteTable ι) i, ¬ StopsBeforeGroups (r.answer pattern i))

theorem answerOf_of_check (h : Pattern.check (Pattern.scan pattern) = .ok ()) :
    AnswerOf ι pattern := by
  cases Pattern.begins_of_check h with
  | stop hts heq =>
    refine .accepted (fun hmem => hts ((Pattern.mem_toList_iff _).mp hmem)) fun r i hr => ?_
    obtain ⟨t, ht⟩ := Trie.lay_along_stop (i := i) (Pattern.steps (Pattern.scan pattern)) hr
    rw [answer_of_check h, heq, ht]
    rfl
  | fault ss before hbefore hp heq =>
    rw [List.append_nil] at heq
    refine .stopped (Pattern.trailText before.reverse) ?_ fun r i hr => ?_
    · have hwritten : ∀ t ∈ before, t.IsWritten := fun t ht =>
        Pattern.isWritten_of_mem_scan (hp.subset ht)
      rwa [Pattern.trailText, List.reverse_reverse, Pattern.mem_toList_render_iff hwritten]
    · rw [answer_eq_unlaid_iff h, heq]
      exact Trie.lay_along_fault ss _ hr
  | @groups gs before hts hf heq =>
    refine .groups ((Pattern.mem_toList_iff _).mpr hts) (fun r i hr hgo => ?_)
      (fun r r' i j hr hr' hgo hgo' => ?_) fun r i => ?_
    · rw [answer_eq_unlaid_iff h, heq]
      exact Trie.lay_along_groups_of_goesOn gs hr hgo
    · rw [answer_of_check h, answer_of_check h, heq, Trie.map_lay_along_groups gs hr hr' hgo hgo']
    · -- A fault from the first group on is told with the `(` of that group.
      have hplan : (Pattern.Plan.along (Pattern.steps (Pattern.beforeGroups (Pattern.scan pattern)))
          (.groups gs)).EveryFault (Offence.Behind (.openParen :: before)) :=
        (Pattern.Plan.everyFault_along _).mpr hf
      rintro ⟨after, hstop, hafter⟩
      rw [answer_eq_unlaid_iff h, heq] at hstop
      rcases Trie.lay_error _ hplan hstop with ho | ho
      · cases ho
      · exact hafter ho.mem_of_unexpected

/-! ### The grammar -/

/-- **A table accepts only patterns of the grammar, and refuses a pattern of the grammar
only as ambiguous.** -/
theorem register_grammar (hr : r.Reachable) (pattern : String) (i : ι) :
    (∀ r', r.register pattern i = .ok r' → Grammatical (Pattern.scan pattern)) ∧
      (Grammatical (Pattern.scan pattern) →
        (∃ r', r.register pattern i = .ok r') ∨
          r.register pattern i = .error (.unlaid .ambiguousGroup)) := by
  refine ⟨fun r' h => (register_gains hr.wellFormed h).1, fun hgram => ?_⟩
  rw [← answer_eq_ok_iff, ← answer_eq_error_iff, answer_of_check hgram.check_eq_ok]
  cases hlay : Trie.lay i (.ofTokens (Pattern.scan pattern)) r.trie Trie.root with
  | ok t => exact .inl rfl
  | error o =>
    obtain rfl := Trie.eq_ambiguousGroup_of_lay_error hgram.isOf.faultless hlay
    exact .inr rfl

/-- After `/a`, the pattern `/b(/:x(.:y))(/*z)` is accepted, and is one of the grammar. -/
theorem register_grammar_nested :
    ∃ r r' : RouteTable Nat, r = RouteTable.empty.registerEach [("/a", 3)] ∧
      r.register "/b(/:x(.:y))(/*z)" 7 = .ok r' ∧
      Grammatical (Pattern.scan "/b(/:x(.:y))(/*z)") ∧
      ((∃ s, r.register "/b(/:x(.:y))(/*z)" 8 = .ok s) ∨
        r.register "/b(/:x(.:y))(/*z)" 8 = .error (.unlaid .ambiguousGroup)) := by
  have h : (RouteTable.empty.registerEach [("/a", 3)]).register "/b(/:x(.:y))(/*z)" 7 =
      .ok (RouteTable.empty.registerEach [("/a", 3), ("/b(/:x(.:y))(/*z)", 7)]) := by cbv
  have hr := Reachable.empty.registerEach [("/a", 3)]
  have hgram := (register_grammar hr _ 7).1 _ h
  exact ⟨_, _, rfl, h, hgram, (register_grammar hr _ 8).2 hgram⟩

/-! ### The one vertex that matters -/

/-- **The earlier routes matter only at the vertex where the first group begins.**  A
pattern without groups, or one that cannot go on before them, gets the answer of the
empty table.  Any other pattern is refused as ambiguous if something leads on from the
vertex with the labels before its first group, and gets the answer of the empty table
if nothing does, or if there is no such vertex. -/
theorem answer_eq_of_lead (hr : r.Reachable)
    (hcheck : Pattern.check (Pattern.scan pattern) = .ok ()) (i j : ι) :
    ('(' ∉ pattern.toList ∨ StopsBeforeGroups ((empty : RouteTable ι).answer pattern j) →
      r.answer pattern i = (empty : RouteTable ι).answer pattern j) ∧
    (¬ ('(' ∉ pattern.toList ∨ StopsBeforeGroups ((empty : RouteTable ι).answer pattern j)) →
      (r.trie.GoesOn (Pattern.leadLabels (Pattern.scan pattern)) →
        r.answer pattern i = .error (.unlaid .ambiguousGroup)) ∧
      (¬ r.trie.GoesOn (Pattern.leadLabels (Pattern.scan pattern)) →
        r.answer pattern i = (empty : RouteTable ι).answer pattern j)) := by
  have ht := hr.wellFormed
  have he : (empty : RouteTable ι).trie.WellFormed := Trie.wellFormed_empty
  cases answerOf_of_check (ι := ι) hcheck with
  | accepted h ok =>
    exact ⟨fun _ => (ok r i ht).trans (ok empty j he).symm, fun hnot => absurd (.inl h) hnot⟩
  | stopped after h error =>
    refine ⟨fun _ => (error r i ht).trans (error empty j he).symm, fun hnot => absurd ?_ hnot⟩
    exact .inr ⟨after, error empty j he, h⟩
  | groups h ambiguous same later =>
    refine ⟨?_, fun _ => ⟨ambiguous r i ht, fun hgo => ?_⟩⟩
    · rintro (hno | hstop)
      · exact absurd h hno
      · exact absurd hstop (later empty j)
    · exact same r empty i j ht he hgo (Trie.not_goesOn_empty _)

/-- After `/foo/bar`, the group of `/foo(/:id)` begins where something leads on. -/
theorem answer_eq_of_lead_ambiguous :
    ∃ r : RouteTable Nat, r = RouteTable.empty.registerEach [("/foo/bar", 3)] ∧
      Pattern.check (Pattern.scan "/foo(/:id)") = .ok () ∧
      r.trie.GoesOn (Pattern.leadLabels (Pattern.scan "/foo(/:id)")) ∧
      r.answer "/foo(/:id)" 7 = .error (.unlaid .ambiguousGroup) := by
  have hcheck : Pattern.check (Pattern.scan "/foo(/:id)") = .ok () := by cbv
  have halone : (RouteTable.empty : RouteTable Nat).answer "/foo(/:id)" 7 = .ok () := by cbv
  have hgo : (RouteTable.empty.registerEach [("/foo/bar", 3)]).trie.GoesOn
      (Pattern.leadLabels (Pattern.scan "/foo(/:id)")) := ⟨2, by cbv, by cbv⟩
  have hlead := answer_eq_of_lead (Reachable.empty.registerEach [("/foo/bar", 3)]) hcheck 7 7
  refine ⟨_, rfl, hcheck, hgo, (hlead.2 ?_).1 hgo⟩
  rintro (hno | ⟨after, hstop, -⟩)
  · exact hno (by decide)
  · rw [halone] at hstop
    cases hstop

/-! ### No other routes -/

/-- **A table without routes refuses a pattern as ambiguous if the pattern meets
itself.**  It does so only if groups inside a group of the pattern begin where a route
of the pattern itself leads on, and for a pattern of the grammar with such groups it
always does. -/
theorem register_ambiguous_of_no_routes (hr : r.trie = .empty) (pattern : String) (i : ι) :
    (r.register pattern i = .error (.unlaid .ambiguousGroup) →
      (Pattern.Plan.ofTokens (Pattern.scan pattern)).MeetsItself) ∧
    (Grammatical (Pattern.scan pattern) →
      (Pattern.Plan.ofTokens (Pattern.scan pattern)).MeetsItself →
        r.register pattern i = .error (.unlaid .ambiguousGroup)) := by
  have htells := Trie.lay_tellsMeeting i _ (Pattern.everyFault_ofTokens (Pattern.scan pattern))
    Trie.wellFormed_empty (Trie.follow?_nil _ _)
  have hblocks : ¬ (Trie.empty : Trie ι).Blocks [] (.ofTokens (Pattern.scan pattern)) :=
    fun ⟨_, _, hgo⟩ => Trie.not_goesOn_empty _ hgo
  constructor
  · intro h
    rw [← answer_eq_error_iff] at h
    cases hcheck : Pattern.check (Pattern.scan pattern) with
    | error o =>
      rw [answer_of_check_eq_error hcheck] at h
      cases h
    | ok _ =>
      rw [answer_eq_unlaid_iff hcheck, hr] at h
      exact (htells.sound h).resolve_right hblocks
  · intro hgram hmeets
    rw [← answer_eq_error_iff, answer_eq_unlaid_iff hgram.check_eq_ok, hr]
    exact htells.complete hgram.isOf.faultless (.inl hmeets)

/-- In `/foo(/a(/b))(/a(/c))` the group `(/c)` begins at `/foo/a`, from where a route of the
group before leads on. -/
theorem register_ambiguous_of_no_routes_shared :
    (RouteTable.empty : RouteTable Nat).trie = .empty ∧
      Grammatical (Pattern.scan "/foo(/a(/b))(/a(/c))") ∧
      (Pattern.Plan.ofTokens (Pattern.scan "/foo(/a(/b))(/a(/c))")).MeetsItself ∧
      (RouteTable.empty : RouteTable Nat).register "/foo(/a(/b))(/a(/c))" 8 =
        .error (.unlaid .ambiguousGroup) := by
  have hrefused : (RouteTable.empty : RouteTable Nat).register "/foo(/a(/b))(/a(/c))" 7 =
      .error (.unlaid .ambiguousGroup) := by cbv
  have hgram : Grammatical (Pattern.scan "/foo(/a(/b))(/a(/c))") := by
    have hscan : Pattern.scan "/foo(/a(/b))(/a(/c))" =
        [.slash, .literal "foo",
          .openParen, .slash, .literal "a", .openParen, .slash, .literal "b",
            .closeParen, .closeParen,
          .openParen, .slash, .literal "a", .openParen, .slash, .literal "c",
            .closeParen, .closeParen] := by cbv
    rw [hscan]
    have hinner (text : String) :
        Pattern.Grammar.Groups [.openParen, .slash, .literal text, .closeParen] :=
      .last (.slash (.literal .nil))
    exact .slash (.literal (.groups (.cons (.slash (.literal (.groups (hinner "b"))))
      (.last (.slash (.literal (.groups (hinner "c"))))))))
  have hmeets := (register_ambiguous_of_no_routes rfl _ 7).1 hrefused
  exact ⟨rfl, hgram, hmeets, (register_ambiguous_of_no_routes rfl _ 8).2 hgram hmeets⟩

/-- **A pattern can be ambiguous with itself.**  The group `(/c)` begins at `/foo/a`,
from where the group `(/b)` of the same pattern leads on. -/
theorem ambiguous_without_routes :
    (RouteTable.empty : RouteTable Nat).register "/foo(/a(/b))(/a(/c))" 7 =
      .error (.unlaid .ambiguousGroup) := by
  cbv

/-! ### More routes -/

/-- **In a table with more routes a pattern gets the same answer, or is refused as
ambiguous.** -/
theorem answer_of_subset (hr : r.trie.WellFormed) (hr' : r'.trie.WellFormed)
    (hsub : ∀ ls, r.trie.HasVertex ls → r'.trie.HasVertex ls) (pattern : String) (i j : ι) :
    r'.answer pattern j = r.answer pattern i ∨
      r'.answer pattern j = .error (.unlaid .ambiguousGroup) := by
  cases hcheck : Pattern.check (Pattern.scan pattern) with
  | error o =>
    rw [answer_of_check_eq_error hcheck, answer_of_check_eq_error hcheck]
    exact .inl rfl
  | ok _ =>
    cases answerOf_of_check (ι := ι) hcheck with
    | accepted h ok => exact .inl ((ok r' j hr').trans (ok r i hr).symm)
    | stopped after h error => exact .inl ((error r' j hr').trans (error r i hr).symm)
    | groups h ambiguous same later =>
      by_cases hgo : r'.trie.GoesOn (Pattern.leadLabels (Pattern.scan pattern))
      · exact .inr (ambiguous r' j hr' hgo)
      · exact .inl (same r' r j i hr' hr hgo fun h => hgo (h.mono hsub))

/-- What a table with more routes accepts, one with fewer accepts too, and has fewer
routes still. -/
theorem exists_register_of_subset {s' : RouteTable ι} (hr : r.trie.WellFormed)
    (hr' : r'.trie.WellFormed) (hsub : ∀ ls, r.trie.HasVertex ls → r'.trie.HasVertex ls)
    (h : r'.register pattern j = .ok s') (i : ι) :
    ∃ s, r.register pattern i = .ok s ∧
      ∀ ls, s.trie.HasVertex ls → s'.trie.HasVertex ls := by
  have hok : r'.answer pattern j = .ok () := answer_eq_ok_iff.mpr ⟨s', h⟩
  have hanswer := answer_of_subset hr hr' hsub pattern i j
  rw [hok] at hanswer
  obtain ⟨s, hs⟩ := answer_eq_ok_iff.mp (hanswer.resolve_right nofun).symm
  refine ⟨s, hs, fun ls hls => (hasVertex_register hr' h ls).mpr ?_⟩
  exact ((hasVertex_register hr hs ls).mp hls).imp (hsub ls) id

theorem registerAll_of_sublist {es es' : List RouteEntry} (hes : es'.Sublist es)
    {r r' s' : RouteTable String} (hr : r.trie.WellFormed) (hr' : r'.trie.WellFormed)
    (hsub : ∀ ls, r.trie.HasVertex ls → r'.trie.HasVertex ls)
    (h : r'.registerAll es = .ok s') : ∃ s, r.registerAll es' = .ok s := by
  induction hes generalizing r r' with
  | slnil => exact ⟨r, rfl⟩
  | cons e hes ih =>
    -- The route is left out, and the table stays behind.
    rw [registerAll] at h
    split at h
    · next q' hq' =>
      refine ih hr (register_gains hr' hq').2.1 (fun ls hls => ?_) h
      exact (hasVertex_register hr' hq' ls).mpr (.inl (hsub ls hls))
    · cases h
  | cons_cons e hes ih =>
    rw [registerAll] at h
    split at h
    · next q' hq' =>
      obtain ⟨q, hq, hsub'⟩ := exists_register_of_subset hr hr' hsub hq' e.identifier
      obtain ⟨s, hs⟩ := ih (register_gains hr hq).2.1 (register_gains hr' hq').2.1 hsub' h
      exact ⟨s, by rw [registerAll, hq]; exact hs⟩
    · cases h

/-- A series of registrations takes no routes away. -/
theorem hasVertex_registerEach (hr : r.trie.WellFormed) (series : List (String × ι))
    {ls : List Label} (h : r.trie.HasVertex ls) : (r.registerEach series).trie.HasVertex ls := by
  induction series generalizing r with
  | nil => exact h
  | cons entry series ih =>
    obtain ⟨pattern, i⟩ := entry
    dsimp only [registerEach, attempt]
    cases hreg : r.register pattern i with
    | error refusal => exact ih hr h
    | ok r' =>
      exact ih (register_gains hr hreg).2.1 ((hasVertex_register hr hreg ls).mpr (.inl h))

/-- **Leaving routes out keeps a manifest acceptable, and a refusal is for good.**  A
manifest whose routes are some of an acceptable one's, in their order, is acceptable.
A pattern that is refused is refused again after any further registrations, for the
same reason or as ambiguous. -/
theorem acceptance_antitone :
    (∀ (m m' : Manifest) (r : RouteTable String), m'.routes.Sublist m.routes →
      ofManifest m = .ok r → ∃ r', ofManifest m' = .ok r') ∧
    (∀ r : RouteTable ι, r.Reachable → ∀ pattern i e, r.register pattern i = .error e →
      ∀ series j, ∃ e', (r.registerEach series).register pattern j = .error e' ∧
        (e' = e ∨ e' = .unlaid .ambiguousGroup)) := by
  constructor
  · intro m m' r hroutes h
    refine registerAll_of_sublist hroutes ?_ ?_ ?_ h
    · exact Trie.wellFormed_empty
    · exact Trie.wellFormed_empty
    · exact fun _ => id
  · intro r hr pattern i e h series j
    have hanswer := answer_of_subset hr.wellFormed (hr.registerEach series).wellFormed
      (fun _ => hasVertex_registerEach hr.wellFormed series) pattern i j
    rw [answer_eq_error_iff.mpr h] at hanswer
    rcases hanswer with hsame | hamb
    · exact ⟨e, answer_eq_error_iff.mp hsame, .inl rfl⟩
    · exact ⟨_, answer_eq_error_iff.mp hamb, .inr rfl⟩

/-- With `/foo/bar` left out, `/foo(/:id)` and `/x` are accepted still, and after `/foo/bar`
the pattern `/foo(/:id)` is refused for good. -/
theorem acceptance_antitone_foo :
    (∃ r, ofManifest ⟨{}, [⟨"/foo(/:id)", none⟩, ⟨"/x", none⟩]⟩ = .ok r) ∧
    ∃ e, ((RouteTable.empty.registerEach [("/foo/bar", 3)]).registerEach
      [("/x", 4), ("/y(", 5)]).register "/foo(/:id)" 8 = .error e := by
  obtain ⟨hmanifest, hrefused⟩ := acceptance_antitone (ι := Nat)
  constructor
  · have h : ofManifest ⟨{}, [⟨"/foo(/:id)", none⟩, ⟨"/foo/bar", none⟩, ⟨"/x", none⟩]⟩ =
        .ok (RouteTable.empty.registerEach
          [("/foo(/:id)", "/foo(/:id)"), ("/foo/bar", "/foo/bar"), ("/x", "/x")]) := by cbv
    exact hmanifest _ _ _ (.cons_cons _ (.cons _ (.refl _))) h
  · have h : (RouteTable.empty.registerEach [("/foo/bar", 3)]).register "/foo(/:id)" 7 =
        .error (.unlaid .ambiguousGroup) := by cbv
    obtain ⟨e, he, -⟩ := hrefused _ (Reachable.empty.registerEach _) _ 7 _ h
      [("/x", 4), ("/y(", 5)] 8
    exact ⟨e, he⟩

end RouteTable
end LinkRouting
