import LinkRouting.Proofs.RouteTable.Registration
import LinkRouting.Proofs.Trie.Walk

/-! # What the captures of one pattern are called

A table with a single pattern matches a path along one choice of the pattern's
groups.  What it binds are the texts at the captures of that choice, but not always
under the names of that choice: where captures of different choices come to one
vertex, they share its parameter edge, which has the name that was laid first
(`Pattern.firstName?`).

What is bound is therefore told by the steps under the names laid first.  Where all
choices have one name for one place, these are the names of the choice itself
(`Pattern.NamesAgree`); a pattern with two names for one place comes last.
-/
namespace LinkRouting

namespace Pattern

/-- The name that was laid first for the parameter after some labels. -/
def firstName? (ts : List Token) (ls : List Label) : Option String :=
  (Plan.ofTokens ts).routes.findSome? fun route => Step.nameAt? [] route ls

/-- Steps that come after some labels, with each capture under the name that was
laid first for its place. -/
def underFirstNames (ts : List Token) : List Label → List Step → List Step
  | _, [] => []
  | before, .exact token :: steps =>
    .exact token :: underFirstNames ts (before ++ [.exact token]) steps
  | before, .capture name :: steps =>
    .capture ((firstName? ts before).getD name) ::
      underFirstNames ts (before ++ [.parameter]) steps

/-- All choices of a pattern that have a capture after the same labels have one name
for it. -/
def NamesAgree (ts : List Token) : Prop :=
  ∀ way ∈ choices ts, ∀ other ∈ choices ts, ∀ ls name name',
    Step.nameAt? [] (steps way) ls = some name → Step.nameAt? [] (steps other) ls = some name' →
      name = name'

variable {ts : List Token}

/-- A capture has its name after the labels before it. -/
theorem nameAt?_capture (before rest : List Step) (name : String) :
    Step.nameAt? [] (before ++ .capture name :: rest) (before.map Step.label) = some name := by
  rw [Step.nameAt?_append]
  cases h : Step.nameAt? [] before (before.map Step.label) with
  | none => simp [Step.nameAt?, Step.name?]
  | some other =>
    -- No capture comes after more labels than there are.
    have hlen := (Step.prefix_of_nameAt? h).2.length_le
    simp at hlen

/-- **Where the names agree, the names laid first are a choice's own.** -/
theorem NamesAgree.underFirstNames_eq (h : NamesAgree ts) (hts : Grammatical ts)
    {way : List Token} (hway : way ∈ choices ts) :
    underFirstNames ts [] (steps way) = steps way := by
  -- A capture's place is the labels before it, so the steps before it are kept along.
  suffices ∀ before rest, before ++ rest = steps way →
      underFirstNames ts (before.map Step.label) rest = rest from this [] _ rfl
  intro before rest hsteps
  induction rest generalizing before with
  | nil => rfl
  | cons s rest ih =>
    have hrest := ih (before ++ [s]) (by simpa using hsteps)
    rw [List.map_append] at hrest
    cases s with
    | exact token => exact congrArg _ hrest
    | capture name =>
      have hown := nameAt?_capture before rest name
      rw [hsteps] at hown
      rw [underFirstNames]
      refine congrArg₂ _ (congrArg _ ?_) hrest
      cases hfirst : firstName? ts (before.map Step.label) with
      | none => rfl
      | some other =>
        obtain ⟨route, hroute, hother⟩ := List.exists_of_findSome?_eq_some hfirst
        obtain ⟨way', hway', rfl⟩ := (hts.isOf.mem_routes route).mp hroute
        exact (h way hway way' hway' _ _ _ hown hother).symm

end Pattern

namespace Trie
variable {ι : Type} {t : Trie ι}

theorem Leads.follow? {v x : Nat} {steps : List Step} (h : t.Leads v steps x) :
    t.follow? v (steps.map Step.label) = some x := by
  induction h with
  | nil v => rfl
  | exact hnext _ ih =>
    rw [List.map_cons, Trie.follow?, Step.label, child?, hnext]
    exact ih
  | capture he _ ih =>
    rw [List.map_cons, Trie.follow?, Step.label, child?, he]
    exact ih

/-- **Steps that lead on have the names laid first**: they are any steps with the same
labels, under these names. -/
theorem Leads.eq_underFirstNames {ts : List Pattern.Token}
    (hnames : ∀ ls, t.nameAt? ls = Pattern.firstName? ts ls) {v x : Nat}
    {steps own : List Step} (h : t.Leads v steps x) {before : List Label}
    (hv : t.follow? root before = some v) (hown : own.map Step.label = steps.map Step.label) :
    steps = Pattern.underFirstNames ts before own := by
  induction h generalizing before own with
  | nil v =>
    rw [List.map_nil, List.map_eq_nil_iff] at hown
    rw [hown]
    rfl
  | @exact _ _ _ token _ hnext _ ih =>
    obtain ⟨s, own, rfl, hs, hrest⟩ := List.map_eq_cons_iff.mp hown
    cases s with
    | capture name => cases hs
    | exact token' =>
      obtain rfl := Label.exact.inj hs
      refine congrArg _ (ih ?_ hrest)
      rw [follow?_concat, hv, Option.bind_some, child?, hnext]
  | @capture _ _ e _ he _ ih =>
    obtain ⟨s, own, rfl, hs, hrest⟩ := List.map_eq_cons_iff.mp hown
    cases s with
    | exact token => cases hs
    | capture name =>
      have hfirst : Pattern.firstName? ts before = some e.name := by
        rw [← hnames, nameAt?, hv, Option.bind_some, parameterName?, he]
        rfl
      rw [Pattern.underFirstNames, hfirst]
      refine congrArg _ (ih ?_ hrest)
      rw [follow?_concat, hv, Option.bind_some, child?, he]
      rfl

end Trie

namespace RouteTable
variable {ι : Type} {r : RouteTable ι} {pattern path : String} {i : ι} {m : Match ι}

/-- In the table of a single pattern, the name of each parameter edge is the one that
was laid first. -/
theorem nameAt?_register_empty {decode : Bool}
    (h : (RouteTable.empty.withDecoding decode).register pattern i = .ok r) (ls : List Label) :
    r.trie.nameAt? ls = Pattern.firstName? (Pattern.scan pattern) ls := by
  rw [nameAt?_register Trie.wellFormed_empty h]
  exact congrArg (Option.or · _) (Trie.nameAt?_empty ls)

/-- **What is bound reflects the groups taken, under the names laid first.**  A path
that the table of a single pattern matches, with captures not decoded, is one that
fits the steps of a choice of the pattern's groups, each capture of it under the name
laid first for its place.  The parameters are the texts at these captures, the last one
for a name that comes twice.  Where all choices agree on the names, they are those of
the choice itself. -/
theorem matchPath_captures
    (h : (RouteTable.empty.withDecoding false).register pattern i = .ok r)
    (hm : r.matchPath path = .ok m) :
    ∃ way ∈ Pattern.choices (Pattern.scan pattern), ∃ bs,
      Fits false (Pattern.underFirstNames (Pattern.scan pattern) [] (Pattern.steps way))
          (Path.scan path) bs ∧
        (∀ name, m.parameters.get? name = bs.reverse.lookup name) ∧
        (Pattern.NamesAgree (Pattern.scan pattern) →
          Pattern.underFirstNames (Pattern.scan pattern) [] (Pattern.steps way)
            = Pattern.steps way) := by
  obtain ⟨hgram, -, -⟩ := register_gains Trie.wellFormed_empty h
  obtain ⟨j, b⟩ := m
  obtain ⟨-, v, hwalk, hid⟩ := matchPath_eq_ok_iff.mp hm
  rw [decodeParameters_register h] at hwalk
  obtain ⟨steps, bs, hleads, hfits, hb⟩ := Trie.walk_eq_ok hwalk
  -- The route that ends where the walk does is one of the pattern.
  have hroute := routeAt?_register Trie.wellFormed_empty h (steps.map Step.label)
  rw [Trie.routeAt?_of_follow? hleads.follow?, hid] at hroute
  have hmem : steps.map Step.label ∈ Pattern.routes (Pattern.scan pattern) := by
    by_contra hmem
    rw [if_neg hmem, Option.or_none] at hroute
    exact Option.some_ne_none _ (hroute.trans (Trie.routeAt?_empty _))
  obtain ⟨way, hway, hlabels⟩ := List.mem_map.mp hmem
  rw [hleads.eq_underFirstNames (nameAt?_register_empty h) (Trie.follow?_nil _ _) hlabels] at hfits
  refine ⟨way, hway, bs, hfits, fun name => ?_, fun hagree => hagree.underFirstNames_eq hgram hway⟩
  rw [hb, Bindings.get?_foldl_set, Bindings.get?_empty, Option.or_none]

/-- The path `/a/1/b` takes the second group of `/a(/:x)(/:y/b)`, the capture of which
shares its edge with that of the first. -/
theorem matchPath_captures_shared_edge :
    ∃ (r : RouteTable Nat) (m : Match Nat),
      (RouteTable.empty.withDecoding false).register "/a(/:x)(/:y/b)" 7 = .ok r ∧
        r.matchPath "/a/1/b" = .ok m ∧
        ∃ way ∈ Pattern.choices (Pattern.scan "/a(/:x)(/:y/b)"), ∃ bs,
          Fits false
              (Pattern.underFirstNames (Pattern.scan "/a(/:x)(/:y/b)") [] (Pattern.steps way))
              (Path.scan "/a/1/b") bs ∧
            (∀ name, m.parameters.get? name = bs.reverse.lookup name) ∧
            (Pattern.NamesAgree (Pattern.scan "/a(/:x)(/:y/b)") →
              Pattern.underFirstNames (Pattern.scan "/a(/:x)(/:y/b)") [] (Pattern.steps way)
                = Pattern.steps way) := by
  have h : (RouteTable.empty.withDecoding false).register "/a(/:x)(/:y/b)" 7 =
      .ok ((RouteTable.empty.withDecoding false).registerEach [("/a(/:x)(/:y/b)", 7)]) := by cbv
  have hm : ((RouteTable.empty.withDecoding false).registerEach
      [("/a(/:x)(/:y/b)", 7)]).matchPath "/a/1/b" = .ok ⟨7, ⟨[("x", "1")]⟩⟩ := by cbv
  exact ⟨_, _, h, hm, matchPath_captures h hm⟩

/-- **A path can be matched with the name of a capture in a group that it does not
take.**  Both groups of `/a(/:x)(/:y/b)` begin with a capture, which was laid first
under the name `x`.  The path `/a/1/b` takes the second group alone, and binds `x`. -/
theorem captures_of_another_choice :
    ∃ (r : RouteTable Nat) (m : Match Nat),
      (RouteTable.empty.withDecoding false).register "/a(/:x)(/:y/b)" 7 = .ok r ∧
        r.matchPath "/a/1/b" = .ok m ∧
        ¬ ∃ way ∈ Pattern.choices (Pattern.scan "/a(/:x)(/:y/b)"), ∃ bs,
          Fits false (Pattern.steps way) (Path.scan "/a/1/b") bs ∧
            ∀ name, m.parameters.get? name = bs.reverse.lookup name := by
  have h : (RouteTable.empty.withDecoding false).register "/a(/:x)(/:y/b)" 7 =
      .ok ((RouteTable.empty.withDecoding false).registerEach [("/a(/:x)(/:y/b)", 7)]) := by cbv
  have hm : ((RouteTable.empty.withDecoding false).registerEach
      [("/a(/:x)(/:y/b)", 7)]).matchPath "/a/1/b" = .ok ⟨7, ⟨[("x", "1")]⟩⟩ := by cbv
  refine ⟨_, _, h, hm, ?_⟩
  rintro ⟨way, hway, bs, hfits, hget⟩
  -- The only choice of six steps has no capture of that name.
  have hother : ∀ way ∈ Pattern.choices (Pattern.scan "/a(/:x)(/:y/b)"),
      (Pattern.steps way).length = (Path.scan "/a/1/b").length →
        "x" ∉ (Pattern.steps way).filterMap Step.name? := by decide +kernel
  refine hother way hway hfits.length_eq ?_
  rw [← hfits.names_eq]
  have hx : bs.reverse.lookup "x" = some "1" := (hget "x").symm
  obtain ⟨l, r, hbs, -⟩ := List.lookup_eq_some_iff.mp hx
  exact List.mem_map.mpr ⟨("x", "1"), List.mem_reverse.mp (hbs ▸ by simp), rfl⟩

end RouteTable
end LinkRouting
