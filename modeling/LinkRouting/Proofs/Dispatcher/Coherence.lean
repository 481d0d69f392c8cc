import LinkRouting.Dispatcher.History
import LinkRouting.Proofs.RouteTable.Registration
import LinkRouting.Proofs.Trie.Walk

/-! # Handlers and routes in step

A dispatcher keeps two stores: the route table, whose vertices keep the first pattern that
ends there, and the handlers, of which a pattern has the last that was registered for it.
`Coherent` says that the two are in step with the log of registrations.  One request keeps
it (`Coherent.register`), so every dispatcher that is reached is coherent
(`Reached.coherent`), and no URL is ever routed to a pattern without a handler
(`Coherent.route_ne_noHandler`).
-/
namespace LinkRouting
namespace Dispatcher
variable {η υ γ : Type} {log : List (String × η)} {d d' : Dispatcher η υ} {pattern : String}
  {handler : η}

/-! ## The handlers -/

theorem mem_map_fst_iff {entries : List (String × η)} {key : String} :
    key ∈ entries.map Prod.fst ↔ (entries.lookup key).isSome := by
  rw [List.lookup_isSome_iff, List.mem_map]
  refine exists_congr fun e => and_congr_right fun _ => ?_
  rw [beq_iff_eq, eq_comm]

/-- A pattern is bound to another handler in its old place. -/
theorem map_fst_rebind (pattern : String) (handler : η) (bound : List (String × η)) :
    (rebind pattern handler bound).map Prod.fst = bound.map Prod.fst := by
  induction bound with
  | nil => rfl
  | cons e bound ih =>
    obtain ⟨p, h⟩ := e
    rw [rebind]
    split
    · rfl
    · rw [List.map_cons, List.map_cons, ih]

theorem lookup_rebind {bound : List (String × η)} (h : (bound.lookup pattern).isSome)
    (handler : η) (q : String) :
    (rebind pattern handler bound).lookup q =
      if q = pattern then some handler else bound.lookup q := by
  induction bound with
  | nil => cases h
  | cons e bound ih =>
    obtain ⟨p, k⟩ := e
    rw [lookup_cons_eq] at h
    rw [rebind]
    by_cases hp : p = pattern
    · rw [if_pos hp, lookup_cons_eq, lookup_cons_eq, hp]
      by_cases hq : q = pattern <;> simp [hq]
    · rw [if_neg (Ne.symm hp)] at h
      rw [if_neg hp, lookup_cons_eq, lookup_cons_eq, ih h]
      by_cases hq : q = p
      · have hne : q ≠ pattern := fun heq => hp (hq ▸ heq)
        rw [if_pos hq, if_pos hq, if_neg hne]
      · rw [if_neg hq, if_neg hq]

/-- A registration that is not refused either binds a pattern to another handler and
leaves the routes alone, or adds the pattern to both stores. -/
theorem register_eq_ok (h : d.register pattern handler = .ok d') :
    ((d.handler? pattern).isSome ∧
      d' = { d with handlers := rebind pattern handler d.handlers }) ∨
    (d.handler? pattern = none ∧ ∃ table, d.table.register pattern pattern = .ok table ∧
      d' = { d with table, handlers := (pattern, handler) :: d.handlers }) := by
  rw [register] at h
  split at h
  · next hbound => exact .inl ⟨hbound, (Except.ok.inj h).symm⟩
  · next hbound =>
    rw [Option.not_isSome_iff_eq_none] at hbound
    split at h
    · cases h
    · next table htable => exact .inr ⟨hbound, table, htable, (Except.ok.inj h).symm⟩

/-- The pattern has the new handler, and every other pattern the one it had. -/
theorem handler?_register (h : d.register pattern handler = .ok d') (q : String) :
    d'.handler? q = if q = pattern then some handler else d.handler? q := by
  rcases register_eq_ok h with ⟨hbound, rfl⟩ | ⟨-, table, -, rfl⟩
  · exact lookup_rebind hbound handler q
  · exact lookup_cons_eq _ _ _

/-! ## The invariant -/

/-- **The stores of a dispatcher are in step** with a log of registrations, the latest
first. -/
structure Coherent (log : List (String × η)) (d : Dispatcher η υ) : Prop where
  /-- The routes come from registrations. -/
  reachable : d.table.Reachable
  /-- The handler of a pattern is the latest. -/
  handler?_eq : ∀ pattern, d.handler? pattern = log.lookup pattern
  /-- A pattern is bound once. -/
  nodup : (d.handlers.map Prod.fst).Nodup
  /-- Where a route ends, a pattern with a handler ends. -/
  bound : ∀ v i, (d.table.trie.vertex v).identifier = some i → (d.handler? i).isSome
  /-- The table decodes captures if the options say so. -/
  decode_eq : d.table.decodeParameters = d.settings.decodeParameters

namespace Coherent

theorem empty : Coherent [] (.empty : Dispatcher η υ) where
  reachable := .empty
  handler?_eq _ := rfl
  nodup := List.nodup_nil
  bound v i h := by
    have hnone : ((Trie.empty : Trie String).vertex v).identifier = none := by
      rw [Trie.vertex_empty]
    exact absurd (hnone.symm.trans h) (Option.some_ne_none i).symm
  decode_eq := rfl

/-- **A registration keeps the stores in step.** -/
theorem register (hc : Coherent log d) (h : d.register pattern handler = .ok d') :
    Coherent ((pattern, handler) :: log) d' := by
  have hhandler : ∀ q, d'.handler? q = ((pattern, handler) :: log).lookup q := fun q => by
    rw [handler?_register h, hc.handler?_eq, lookup_cons_eq]
  have hkept : ∀ q, (d.handler? q).isSome → (d'.handler? q).isSome := by
    intro q hq
    rw [handler?_register h]
    split
    · rfl
    · exact hq
  rcases register_eq_ok h with ⟨-, rfl⟩ | ⟨hnone, table, htable, rfl⟩
  · refine ⟨hc.reachable, hhandler, ?_, fun v i hi => hkept i (hc.bound v i hi), hc.decode_eq⟩
    rw [map_fst_rebind]
    exact hc.nodup
  · refine ⟨hc.reachable.register htable, hhandler, ?_, fun v i hi => ?_, ?_⟩
    · refine List.nodup_cons.mpr ⟨?_, hc.nodup⟩
      rw [mem_map_fst_iff, Option.not_isSome_iff_eq_none]
      exact hnone
    · rcases RouteTable.identifier_register hc.reachable.wellFormed htable v with heq | ⟨-, heq⟩
      · -- The vertex had its identifier before.
        exact hkept i (hc.bound v i (heq.symm.trans hi))
      · obtain rfl : pattern = i := Option.some.inj (heq.symm.trans hi)
        rw [handler?_register h, if_pos rfl]
        rfl
    · exact (RouteTable.decodeParameters_register htable).trans hc.decode_eq

theorem configure (hc : Coherent log d) (settings : Settings) :
    Coherent log (d.configure settings) :=
  ⟨hc.reachable.withDecoding _, hc.handler?_eq, hc.nodup, hc.bound, rfl⟩

theorem withFallback (hc : Coherent log d) (handler : υ) :
    Coherent log (d.withFallback handler) :=
  ⟨hc.reachable, hc.handler?_eq, hc.nodup, hc.bound, hc.decode_eq⟩

end Coherent

/-- **Every dispatcher that is reached is coherent.** -/
theorem Reached.coherent (h : Reached log d) : Coherent log d := by
  induction h with
  | empty => exact .empty
  | register _ h ih => exact ih.register h
  | configure settings _ ih => exact ih.configure settings
  | withFallback handler _ ih => exact ih.withFallback handler

/-! ## Routing -/

/-- A text can be dispatched: it is a URL, and a route matches its path. -/
def Matches (d : Dispatcher η υ) (input : String) : Prop :=
  ∃ url m, readUrl? input = some url ∧ d.table.matchPath url.path = .ok m

/-- A route that matches has a handler, the latest of its pattern. -/
theorem Coherent.route_of_match (hc : Coherent log d) {input : String} {url : Url}
    {m : Match String} (hurl : readUrl? input = some url)
    (hm : d.table.matchPath url.path = .ok m) :
    ∃ handler, log.lookup m.identifier = some handler ∧ d.route input =
      .handled handler url (merge d.settings m.parameters url.queryParameters) := by
  obtain ⟨j, b⟩ := m
  obtain ⟨-, v, -, hid⟩ := RouteTable.matchPath_eq_ok_iff.mp hm
  obtain ⟨handler, hhandler⟩ := Option.isSome_iff_exists.mp (hc.bound v j hid)
  refine ⟨handler, ?_, ?_⟩
  · rw [← hc.handler?_eq]
    exact hhandler
  · simp only [route, hurl, hm, hhandler]

/-- Where no route matches, the text is no URL or its path is missed. -/
theorem route_of_no_match {input : String} (hnot : ¬ d.Matches input) :
    d.route input = .notUrl ∨ ∃ url miss, d.route input = .noRoute url miss := by
  rw [route]
  cases hurl : readUrl? input with
  | none => exact .inl rfl
  | some url =>
    cases hm : d.table.matchPath url.path with
    | error miss => exact .inr ⟨url, miss, by simp only [hm]⟩
    | ok m => exact absurd ⟨url, m, hurl, hm⟩ hnot

/-- **No text is routed to a pattern without a handler.** -/
theorem Coherent.route_ne_noHandler (hc : Coherent log d) (input : String) (url : Url)
    (pattern : String) : d.route input ≠ .noHandler url pattern := by
  intro hroute
  by_cases hmatch : d.Matches input
  · obtain ⟨url', m, hurl, hm⟩ := hmatch
    obtain ⟨handler, -, hroute'⟩ := hc.route_of_match hurl hm
    cases hroute.symm.trans hroute'
  · rcases route_of_no_match hmatch with hroute' | ⟨url', miss, hroute'⟩
    · cases hroute.symm.trans hroute'
    · cases hroute.symm.trans hroute'

/-- What is not matched goes to the handler for that, if there is one. -/
theorem calls_of_no_match {input : String} (hnot : ¬ d.Matches input) (unmatched : Option υ)
    (context : Option γ) : calls unmatched input context (d.route input) =
      (false, (unmatched.map fun u => .unmatched u input context).toList) := by
  rcases route_of_no_match hnot with hroute | ⟨url, miss, hroute⟩
  · rw [hroute]
    rfl
  · rw [hroute]
    rfl

/-- The handler of a route is called just where a route matches. -/
theorem Coherent.calls_fst_iff (hc : Coherent log d) (unmatched : Option υ) (input : String)
    (context : Option γ) :
    (calls unmatched input context (d.route input)).1 = true ↔ d.Matches input := by
  constructor
  · intro htrue
    by_contra hnot
    rw [calls_of_no_match hnot] at htrue
    cases htrue
  · rintro ⟨url, m, hurl, hm⟩
    obtain ⟨handler, -, hroute⟩ := hc.route_of_match hurl hm
    rw [hroute]
    rfl

/-- **Handlers and routes stay coherent.**  Whatever was registered and configured, every
identifier in the trie is bound to a handler, just the patterns that were registered are
bound, each once, and the table decodes captures as the options say.  So a text is never
routed to a pattern without a handler: if it is a URL whose path is matched, the latest
handler of the matched pattern is called and nothing else, and otherwise the caller's
handler for what is not matched is called once, with the text as it is. -/
theorem Reached.dispatchWith_eq (h : Reached log d) :
    (∀ v i, (d.table.trie.vertex v).identifier = some i → i ∈ d.handlers.map Prod.fst) ∧
    ((d.handlers.map Prod.fst).Nodup ∧
      ∀ pattern, pattern ∈ d.handlers.map Prod.fst ↔ pattern ∈ log.map Prod.fst) ∧
    d.table.decodeParameters = d.settings.decodeParameters ∧
    ∀ (unmatched : υ) (input : String) (context : Option γ),
      (∀ url pattern, d.route input ≠ .noHandler url pattern) ∧
      ((d.dispatchWith unmatched input context).1 = true ↔ d.Matches input) ∧
      (∀ url m, readUrl? input = some url → d.table.matchPath url.path = .ok m →
        ∃ handler, log.lookup m.identifier = some handler ∧
          d.dispatchWith unmatched input context =
            (true, [.matched handler url
              (merge d.settings m.parameters url.queryParameters) context])) ∧
      (¬ d.Matches input → d.dispatchWith unmatched input context =
        (false, [.unmatched unmatched input context])) := by
  have hc := h.coherent
  refine ⟨fun v i hi => mem_map_fst_iff.mpr (hc.bound v i hi), ⟨hc.nodup, fun pattern => ?_⟩,
    hc.decode_eq, fun unmatched input context => ?_⟩
  · rw [mem_map_fst_iff, mem_map_fst_iff, ← hc.handler?_eq]
    rfl
  · refine ⟨hc.route_ne_noHandler input, hc.calls_fst_iff _ _ _, fun url m hurl hm => ?_,
      fun hnot => calls_of_no_match hnot _ _⟩
    obtain ⟨handler, hlog, hroute⟩ := hc.route_of_match hurl hm
    refine ⟨handler, hlog, ?_⟩
    rw [dispatchWith, hroute, calls]

/-- `/a` ends where `/a(/:b)` ended before it, so its own handler is never called.  The
handler that is called is the one to which `/a(/:b)` was bound last. -/
theorem Reached.dispatchWith_eq_rebound :
    ∃ d : Dispatcher Nat Nat, Reached [("/a(/:b)", 3), ("/a", 2), ("/a(/:b)", 1)] d ∧
      (∀ v i, (d.table.trie.vertex v).identifier = some i → i ∈ d.handlers.map Prod.fst) ∧
      d.handlers.map Prod.fst = ["/a", "/a(/:b)"] ∧
      ∃ url, readUrl? "/a?c=2" = some url ∧
        d.dispatchWith 9 "/a?c=2" (some 'x') =
          (true, [.matched 3 url ⟨[("c", "2")]⟩ (some 'x')]) ∧
        d.dispatchWith 9 "/b" (some 'x') = (false, [.unmatched 9 "/b" (some 'x')]) := by
  have hfirst : (Dispatcher.empty : Dispatcher Nat Nat).register "/a(/:b)" 1 =
      .ok ⟨RouteTable.empty.registerEach [("/a(/:b)", "/a(/:b)")], [("/a(/:b)", 1)], {},
        none⟩ := by cbv
  have hsecond : (⟨RouteTable.empty.registerEach [("/a(/:b)", "/a(/:b)")], [("/a(/:b)", 1)], {},
        none⟩ : Dispatcher Nat Nat).register "/a" 2 =
      .ok ⟨RouteTable.empty.registerEach [("/a(/:b)", "/a(/:b)"), ("/a", "/a")],
        [("/a", 2), ("/a(/:b)", 1)], {}, none⟩ := by cbv
  have hthird : (⟨RouteTable.empty.registerEach [("/a(/:b)", "/a(/:b)"), ("/a", "/a")],
        [("/a", 2), ("/a(/:b)", 1)], {}, none⟩ : Dispatcher Nat Nat).register "/a(/:b)" 3 =
      .ok ⟨RouteTable.empty.registerEach [("/a(/:b)", "/a(/:b)"), ("/a", "/a")],
        [("/a", 2), ("/a(/:b)", 3)], {}, none⟩ := by cbv
  have hd := ((Reached.empty.register hfirst).register hsecond).register hthird
  have hurl : readUrl? "/a?c=2" = some { base with path := "/a", query := some "c=2" } := by cbv
  have hother : readUrl? "/b" = some { base with path := "/b" } := by cbv
  have hmatch : (RouteTable.empty.registerEach
      [("/a(/:b)", "/a(/:b)"), ("/a", "/a")]).matchPath "/a" = .ok ⟨"/a(/:b)", .empty⟩ := by cbv
  have hmiss : (RouteTable.empty.registerEach
      [("/a(/:b)", "/a(/:b)"), ("/a", "/a")]).matchPath "/b" = .error (.noLiteralEdge "b") := by
    cbv
  obtain ⟨hbound, -, -, hcalls⟩ := hd.dispatchWith_eq (γ := Char)
  refine ⟨_, hd, hbound, rfl, _, hurl, ?_, ?_⟩
  · obtain ⟨-, -, hmatched, -⟩ := hcalls 9 "/a?c=2" (some 'x')
    obtain ⟨handler, hlog, heq⟩ := hmatched _ _ hurl hmatch
    obtain rfl : 3 = handler := Option.some.inj hlog
    exact heq
  · obtain ⟨-, -, -, hmissed⟩ := hcalls 9 "/b" (some 'x')
    apply hmissed
    rintro ⟨url, m, hurl', hm⟩
    obtain rfl : { base with path := "/b" } = url := Option.some.inj (hother.symm.trans hurl')
    cases hmiss.symm.trans hm

end Dispatcher
end LinkRouting
