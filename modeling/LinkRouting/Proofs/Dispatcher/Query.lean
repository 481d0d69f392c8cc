import LinkRouting.Proofs.Dispatcher.Coherence

/-! # Merging the query

The parameters that a handler is called with are the captures of the path and the pairs of
the query.  Of the pairs that have one name the last gives the value (`Bindings.get?_ofList`),
and where the path binds the name too, the options say which of the two is kept
(`isMerge_merge`).  The handler itself is found by the path alone, so the query has no say in
which handler is called (`Coherent.dispatch_of_path`).
-/
namespace LinkRouting

namespace Bindings
variable {b c : Bindings}

/-! ## Each name once -/

theorem names_set (b : Bindings) (name value : String) :
    (b.set name value).names = if name ∈ b.names then b.names else b.names ++ [name] := by
  obtain ⟨es⟩ := b
  rw [set, names, names]
  induction es with
  | nil => rfl
  | cons e es ih =>
    obtain ⟨m, v⟩ := e
    rw [setEntry, List.map_cons]
    by_cases hm : name = m
    · rw [if_pos hm, List.map_cons, if_pos (hm ▸ List.mem_cons_self), hm]
    · rw [if_neg hm, List.map_cons, ih]
      by_cases hes : name ∈ es.map Prod.fst
      · rw [if_pos hes, if_pos (List.mem_cons_of_mem _ hes)]
      · have hmem : name ∉ m :: es.map Prod.fst := by simp [hm, hes]
        rw [if_neg hes, if_neg hmem, List.cons_append]

theorem nodup_names_set (h : b.names.Nodup) (name value : String) :
    (b.set name value).names.Nodup := by
  rw [names_set]
  split
  · exact h
  · next hname => exact List.concat_eq_append ▸ h.concat hname

theorem nodup_names_ofList (pairs : List (String × String)) : (ofList pairs).names.Nodup := by
  rw [ofList]
  suffices h : ∀ b : Bindings, b.names.Nodup →
      (pairs.foldl (fun b p => b.set p.1 p.2) b).names.Nodup from h empty List.nodup_nil
  induction pairs with
  | nil => exact fun b hb => hb
  | cons p pairs ih => exact fun b hb => ih _ (nodup_names_set hb p.1 p.2)

/-- Where each name comes once, its entry is found from either end. -/
theorem lookup_reverse (h : c.names.Nodup) (n : String) :
    c.entries.reverse.lookup n = c.get? n := by
  obtain ⟨es⟩ := c
  rw [names] at h
  rw [get?]
  induction es with
  | nil => rfl
  | cons e es ih =>
    rw [List.map_cons, List.nodup_cons] at h
    rw [List.reverse_cons, List.lookup_append, ih h.2, lookup_cons_eq, lookup_cons_eq]
    by_cases hn : n = e.1
    · have hnone : es.lookup n = none := by
        rw [List.lookup_eq_none_iff]
        intro p hp
        rw [bne_iff_ne, hn]
        exact fun heq => h.1 (heq ▸ List.mem_map_of_mem hp)
      rw [hnone, Option.none_or]
      rfl
    · rw [if_neg hn, if_neg hn, List.lookup_nil, Option.or_none]

/-! ## What is bound -/

/-- The bindings that are added come first. -/
theorem get?_override (b : Bindings) (hc : c.names.Nodup) (n : String) :
    (b.override c).get? n = (c.get? n).or (b.get? n) := by
  rw [override, get?_foldl_set, lookup_reverse hc]

/-- The bindings that are added come last. -/
theorem get?_fill (b c : Bindings) (n : String) :
    (b.fill c).get? n = (b.get? n).or (c.get? n) := by
  obtain ⟨es⟩ := c
  rw [fill, get?.eq_def ⟨es⟩]
  induction es generalizing b with
  | nil => rw [List.lookup_nil, Option.or_none]; rfl
  | cons e es ih =>
    rw [List.foldl_cons, ih, get?_setNew, Option.or_assoc, lookup_cons_eq]
    split <;> rfl

end Bindings

namespace Dispatcher
variable {η υ γ : Type} {log : List (String × η)} {d : Dispatcher η υ}

/-! ## What a handler is called with -/

/-- **Parameters merged as the options say** from captures and the pairs of a query.  A name
is bound if it is captured or, with merging on, a pair has it.  The value is the captured one
or that of the last pair with the name, and one comes before the other. -/
structure IsMerge (settings : Settings) (captured : Bindings) (pairs : List (String × String))
    (parameters : Bindings) : Prop where
  isSome_iff : ∀ name, (parameters.get? name).isSome ↔
    (captured.get? name).isSome ∨ settings.mergeQuery = true ∧ name ∈ pairs.map Prod.fst
  path_only : settings.mergeQuery = false →
    ∀ name, parameters.get? name = captured.get? name
  path_first : settings.mergeQuery = true → settings.queryOverridesPath = false →
    ∀ name, parameters.get? name = (captured.get? name).or (pairs.reverse.lookup name)
  query_first : settings.mergeQuery = true → settings.queryOverridesPath = true →
    ∀ name, parameters.get? name = (pairs.reverse.lookup name).or (captured.get? name)

theorem isSome_lookup_reverse (pairs : List (String × String)) (name : String) :
    (pairs.reverse.lookup name).isSome ↔ name ∈ pairs.map Prod.fst := by
  rw [← mem_map_fst_iff, List.map_reverse, List.mem_reverse]

/-- What is merged by name, as the options say. -/
theorem get?_merge (settings : Settings) (captured : Bindings) (pairs : List (String × String))
    (name : String) : (merge settings captured (.ofList pairs)).get? name =
      if settings.mergeQuery = true then
        if settings.queryOverridesPath = true then
          (pairs.reverse.lookup name).or (captured.get? name)
        else (captured.get? name).or (pairs.reverse.lookup name)
      else captured.get? name := by
  rw [merge]
  split
  · split
    · rw [Bindings.get?_override _ (Bindings.nodup_names_ofList pairs), Bindings.get?_ofList]
    · rw [Bindings.get?_fill, Bindings.get?_ofList]
  · rfl

/-- **The merge is one that the options ask for.** -/
theorem isMerge_merge (settings : Settings) (captured : Bindings)
    (pairs : List (String × String)) :
    IsMerge settings captured pairs (merge settings captured (.ofList pairs)) where
  isSome_iff name := by
    rw [get?_merge, ← isSome_lookup_reverse]
    by_cases hmerge : settings.mergeQuery = true
    · rw [if_pos hmerge, and_iff_right hmerge]
      split
      · rw [Option.isSome_or, Bool.or_eq_true, or_comm]
      · rw [Option.isSome_or, Bool.or_eq_true]
    · rw [if_neg hmerge]
      exact ⟨.inl, fun h => h.resolve_right fun hpair => hmerge hpair.1⟩
  path_only hmerge name := by
    rw [get?_merge, hmerge, if_neg Bool.false_ne_true]
  path_first hmerge hpath name := by
    rw [get?_merge, if_pos hmerge, hpath, if_neg Bool.false_ne_true]
  query_first hmerge hquery name := by
    rw [get?_merge, if_pos hmerge, if_pos hquery]

/-- **The path alone finds the handler**, the latest of the pattern that it matches. -/
theorem Coherent.dispatch_of_path (hc : Coherent log d) {input : String} {url : Url}
    {m : Match String} (hurl : readUrl? input = some url)
    (hm : d.table.matchPath url.path = .ok m) (context : Option γ) :
    ∃ handler, log.lookup m.identifier = some handler ∧
      d.dispatch input context = (true, [.matched handler url
        (merge d.settings m.parameters (.ofList url.queryPairs)) context]) := by
  obtain ⟨handler, hlog, hroute⟩ := hc.route_of_match hurl hm
  refine ⟨handler, hlog, ?_⟩
  rw [dispatch, hroute, calls]
  rfl

/-- **The merging law.**  A text that a handler is called for is a URL whose path is matched.
The handler is the latest of the matched pattern, and it is called once, with that URL, the
caller's context, and the captures of the path merged with the pairs of the query as the
options say.  For a URL with the same path and any other query the same handler is called,
with the same context. -/
theorem Reached.dispatch_isMerge (h : Reached log d) {input : String} {context : Option γ}
    (hcalled : (d.dispatch input context).1 = true) :
    ∃ url m handler parameters,
      readUrl? input = some url ∧ d.table.matchPath url.path = .ok m ∧
      log.lookup m.identifier = some handler ∧
      d.dispatch input context = (true, [.matched handler url parameters context]) ∧
      IsMerge d.settings m.parameters url.queryPairs parameters ∧
      ∀ input' url', readUrl? input' = some url' → url'.path = url.path →
        ∃ parameters', d.dispatch input' context =
          (true, [.matched handler url' parameters' context]) := by
  have hc := h.coherent
  obtain ⟨url, m, hurl, hm⟩ := (hc.calls_fst_iff _ _ _).mp hcalled
  obtain ⟨handler, hlog, hcalls⟩ := hc.dispatch_of_path hurl hm context
  refine ⟨url, m, handler, _, hurl, hm, hlog, hcalls, isMerge_merge _ _ _, ?_⟩
  intro input' url' hurl' hpath
  obtain ⟨handler', hlog', hcalls'⟩ := hc.dispatch_of_path hurl' (hpath ▸ hm) context
  obtain rfl : handler = handler' := Option.some.inj (hlog.symm.trans hlog')
  exact ⟨_, hcalls'⟩

/-- Where the query overrides the path, the last `i` of the query replaces the captured one. -/
theorem Reached.dispatch_isMerge_override :
    ∃ d : Dispatcher Nat Nat, Reached [("/:i", 5)] d ∧
      (d.dispatch "/1?i=2&t=3&i=4" (some 'x')).1 = true ∧
      ∃ url parameters, d.dispatch "/1?i=2&t=3&i=4" (some 'x') =
          (true, [.matched 5 url parameters (some 'x')]) ∧
        parameters.get? "i" = some "4" ∧ parameters.get? "t" = some "3" ∧
        ∃ url' parameters', d.dispatch "/1?i=5" (some 'x') =
          (true, [.matched 5 url' parameters' (some 'x')]) := by
  have hregister : (Dispatcher.empty.configure ⟨true, true, true⟩ : Dispatcher Nat Nat).register
      "/:i" 5 =
        .ok ⟨RouteTable.empty.registerEach [("/:i", "/:i")], [("/:i", 5)],
          ⟨true, true, true⟩, none⟩ := by cbv
  have hd := (Reached.empty.configure ⟨true, true, true⟩).register hregister
  have hurl : readUrl? "/1?i=2&t=3&i=4" =
      some { base with path := "/1", query := some "i=2&t=3&i=4" } := by cbv
  have hurl' : readUrl? "/1?i=5" =
      some { base with path := "/1", query := some "i=5" } := by cbv
  have hm : (RouteTable.empty.registerEach [("/:i", "/:i")]).matchPath "/1" =
      .ok ⟨"/:i", ⟨[("i", "1")]⟩⟩ := by cbv
  obtain ⟨_, -, hcalls⟩ := hd.coherent.dispatch_of_path hurl hm (some 'x')
  have hcalled := congrArg Prod.fst hcalls
  obtain ⟨url, m, handler, parameters, hurl₁, hm₁, hlog, hcalls, hmerge, hother⟩ :=
    hd.dispatch_isMerge hcalled
  obtain rfl := Option.some.inj (hurl.symm.trans hurl₁)
  obtain rfl := Except.ok.inj (hm.symm.trans hm₁)
  obtain rfl : 5 = handler := Option.some.inj hlog
  obtain ⟨parameters', hcalls'⟩ := hother _ _ hurl' rfl
  have hid : parameters.get? "i" = _ := hmerge.query_first rfl rfl "i"
  have htab : parameters.get? "t" = _ := hmerge.query_first rfl rfl "t"
  exact ⟨_, hd, hcalled, _, _, hcalls, hid.trans (by cbv), htab.trans (by cbv), _, _, hcalls'⟩

end Dispatcher
end LinkRouting
