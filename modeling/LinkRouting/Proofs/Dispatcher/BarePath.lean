import LinkRouting.Proofs.Dispatcher.Coherence
import LinkRouting.Proofs.Trie.Concord
import LinkRouting.Proofs.Url.BarePath

/-! # Dispatching bare paths

A bare path is matched by a dispatcher as it is by its route table
(`Reached.dispatch_bare`), although the dispatcher reads it as a URL first, which writes
some of its characters as escapes.  The two texts are cut at the same places, and their
literals decode to the same text (`matchPath_encodeWith`).

This needs the literals to be readable: one that does not decode to UTF-8 is looked for as
it is written, and then it matters how.  And it needs captures to be decoded.
-/
namespace LinkRouting

/-- Two texts that decode to the same text. -/
def Percent.Alike (x y : String) : Prop :=
  ∃ text, decode? x = some text ∧ decode? y = some text

namespace Trie
variable {ι : Type} {t : Trie ι}

/-- Whichever of two texts is read that decode to the same, the walk is the same. -/
theorem concord_percentAlike (ht : t.WellFormed) :
    Concord t t true true Percent.Alike Eq where
  alike := ⟨ht, ht, fun _ => Iff.rfl, fun _ => Iff.rfl⟩
  key_eq := by
    rintro x y ⟨text, hx, hy⟩
    rw [literalKey, literalKey, hx, hy, Option.getD_some, Option.getD_some]
  capture := by
    rintro v w e f x y b c ⟨ls, hv, hw⟩ he hf ⟨text, hx, hy⟩ rfl
    obtain rfl : v = w := Option.some.inj (hv.symm.trans hw)
    obtain rfl : e = f := Option.some.inj (he.symm.trans hf)
    rw [captureValue, captureValue, if_pos rfl, if_pos rfl, hx, hy, Option.getD_some]

end Trie

namespace RouteTable
variable {ι : Type} {r : RouteTable ι} {set : Char → Bool}

/-- **Escapes do not change what is matched.** -/
theorem matchPath_encodeWith (ht : r.trie.WellFormed) (hdecode : r.decodeParameters = true)
    (hslash : set '/' = false) (hdot : set '.' = false) (hpercent : set '%' = false)
    (hdigit : ∀ b, (Percent.hexValue? b).isSome → set (Char.ofNat b.toNat) = false)
    {path : String}
    (hliterals : ∀ text, .literal text ∈ Path.scan path → (Percent.decode? text).isSome) :
    (r.matchPath path).toOption =
      (r.matchPath (String.ofList (Percent.encodeWith set path.toList))).toOption := by
  have htokens : List.Forall₂ (Path.Token.Like Percent.Alike) (Path.scan path)
      (Path.scan (String.ofList (Percent.encodeWith set path.toList))) := by
    rw [Path.scan_encodeWith hslash hdot, List.forall₂_map_right_iff, List.forall₂_same]
    intro token htoken
    cases token with
    | slash => exact .slash
    | dot => exact .dot
    | literal own =>
      obtain ⟨text, htext⟩ := Option.isSome_iff_exists.mp (hliterals own htoken)
      refine .literal ⟨text, htext, ?_⟩
      rw [Percent.decode?_encodeWith_of_kept hpercent hdigit, htext]
  have hconcord := Trie.concord_percentAlike ht
  rw [← hdecode] at hconcord
  refine eq_of_rel (rel_matchPath hconcord htokens rfl) ?_
  rintro ⟨i, b⟩ ⟨j, c⟩ ⟨⟨ls, hi, hj⟩, hbc⟩
  exact congrArg₂ Match.mk (Option.some.inj (hi.symm.trans hj)) hbc

end RouteTable

namespace Url

/-- What is escaped in a path is none of the digits. -/
theorem escapedInPath_digit (b : UInt8) (h : (Percent.hexValue? b).isSome) :
    escapedInPath (Char.ofNat b.toNat) = false := by
  have hall : ∀ n < 256, (Percent.hexValue? (UInt8.ofNat n)).isSome →
      escapedInPath (Char.ofNat n) = false := by decide +kernel
  refine hall b.toNat b.toNat_lt ?_
  rw [UInt8.ofNat_toNat]
  exact h

end Url

namespace Dispatcher
variable {η υ γ : Type} {log : List (String × η)} {d : Dispatcher η υ} {path : String}

/-- **A bare path is read as a URL under the base**, which has no query. -/
theorem readUrl?_bare (hpath : Url.IsBarePath path) :
    readUrl? path = some { base with path := Url.escaped Url.escapedInPath path.toList } := by
  have hempty : path.isEmpty = false := by
    obtain ⟨cs, hcs⟩ := hpath.exists_cons
    by_contra htrue
    rw [Bool.not_eq_false, String.isEmpty_iff] at htrue
    rw [htrue] at hcs
    cases hcs
  rw [readUrl?, hempty, hpath.parse_eq]
  dsimp only
  rw [if_neg Bool.false_ne_true, hpath.resolve_eq (by decide)]
  rfl

theorem merge_empty (settings : Settings) (captured : Bindings) :
    merge settings captured .empty = captured := by
  rw [merge]
  split
  · split
    · rfl
    · rfl
  · rfl

/-- **Dispatching a bare path agrees with matching it.** -/
theorem Reached.dispatch_bare (h : Reached log d) (hdecode : d.settings.decodeParameters = true)
    (hpath : Url.IsBarePath path)
    (hliterals : ∀ text, .literal text ∈ Path.scan path → (Percent.decode? text).isSome)
    (context : Option γ) :
    ((d.dispatch path context).1 = true ↔ ∃ m, d.table.matchPath path = .ok m) ∧
    (∀ m, d.table.matchPath path = .ok m → ∃ handler, d.handler? m.identifier = some handler ∧
      d.dispatch path context = (true, [.matched handler
        { base with path := Url.escaped Url.escapedInPath path.toList } m.parameters context])) ∧
    ((¬ ∃ m, d.table.matchPath path = .ok m) → d.dispatch path context =
      (false, (d.fallback.map fun u => .unmatched u path context).toList)) := by
  have hc := h.coherent
  have hurl := readUrl?_bare hpath
  have hsame := RouteTable.matchPath_encodeWith hc.reachable.wellFormed
    (hc.decode_eq.trans hdecode) (by decide) (by decide) (by decide) Url.escapedInPath_digit
    hliterals
  have hiff : ∀ m, d.table.matchPath path = .ok m ↔
      d.table.matchPath (Url.escaped Url.escapedInPath path.toList) = .ok m := fun m => by
    rw [← RouteTable.toOption_matchPath_eq_some_iff, hsame,
      RouteTable.toOption_matchPath_eq_some_iff, Url.escaped]
  have hmatches : d.Matches path ↔ ∃ m, d.table.matchPath path = .ok m := by
    constructor
    · rintro ⟨url, m, hurl', hm⟩
      obtain rfl := Option.some.inj (hurl.symm.trans hurl')
      exact ⟨m, (hiff m).mpr hm⟩
    · rintro ⟨m, hm⟩
      exact ⟨_, m, hurl, (hiff m).mp hm⟩
  refine ⟨(hc.calls_fst_iff _ _ _).trans hmatches, fun m hm => ?_, fun hnot => ?_⟩
  · obtain ⟨handler, hlog, hroute⟩ := hc.route_of_match hurl ((hiff m).mp hm)
    have hquery : Url.queryParameters
        { base with path := Url.escaped Url.escapedInPath path.toList } = .empty := rfl
    refine ⟨handler, (hc.handler?_eq _).trans hlog, ?_⟩
    rw [dispatch, hroute, calls, hquery, merge_empty]
  · exact calls_of_no_match (fun hmatch => hnot (hmatches.mp hmatch)) _ _

/-- Characters past ASCII, blanks and a `%` that begins no escape come through. -/
theorem Reached.dispatch_bare_unescaped :
    ∃ d : Dispatcher Nat Nat, Reached [("/café/:x", 5)] d ∧
      Url.IsBarePath "/caf%C3%A9/é b%2" ∧
      d.table.matchPath "/caf%C3%A9/é b%2" = .ok ⟨"/café/:x", ⟨[("x", "é b%2")]⟩⟩ ∧
      d.dispatch "/caf%C3%A9/é b%2" (some 'x') =
        (true, [.matched 5 { base with path := "/caf%C3%A9/%C3%A9%20b%2" } ⟨[("x", "é b%2")]⟩
          (some 'x')]) := by
  have hregister : (Dispatcher.empty : Dispatcher Nat Nat).register "/café/:x" 5 =
      .ok ⟨RouteTable.empty.registerEach [("/café/:x", "/café/:x")], [("/café/:x", 5)], {},
        none⟩ := by cbv
  have hd := Reached.empty.register hregister
  have htext : "/caf%C3%A9/é b%2".toList = ['/', 'c', 'a', 'f', '%', 'C', '3', '%', 'A', '9',
      '/', 'é', ' ', 'b', '%', '2'] := rfl
  have hpath : Url.IsBarePath "/caf%C3%A9/é b%2" := by
    refine ⟨?_, ?_, ?_, ?_, ?_⟩ <;> rw [htext]
    · rfl
    · decide
    · simp
    · simp
    · decide
  have hscan : Path.scan "/caf%C3%A9/é b%2" =
      [.slash, .literal "caf%C3%A9", .slash, .literal "é b%2"] := by cbv
  have hliterals : ∀ text, .literal text ∈ Path.scan "/caf%C3%A9/é b%2" →
      (Percent.decode? text).isSome := by
    intro text hmem
    rw [hscan] at hmem
    simp only [List.mem_cons, Path.Token.literal.injEq, List.not_mem_nil, reduceCtorEq,
      or_false, false_or] at hmem
    rcases hmem with rfl | rfl
    · decide +kernel
    · decide +kernel
  have hm : (RouteTable.empty.registerEach [("/café/:x", "/café/:x")]).matchPath
      "/caf%C3%A9/é b%2" = .ok ⟨"/café/:x", ⟨[("x", "é b%2")]⟩⟩ := by cbv
  obtain ⟨-, hmatched, -⟩ := hd.dispatch_bare rfl hpath hliterals (some 'x')
  obtain ⟨handler, hhandler, hcalls⟩ := hmatched _ hm
  obtain rfl : 5 = handler := Option.some.inj hhandler
  have hescaped : Url.escaped Url.escapedInPath "/caf%C3%A9/é b%2".toList =
      "/caf%C3%A9/%C3%A9%20b%2" := by decide +kernel
  rw [hescaped] at hcalls
  exact ⟨_, hd, hpath, hm, hcalls⟩

end Dispatcher
end LinkRouting
