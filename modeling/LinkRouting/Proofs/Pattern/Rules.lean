import LinkRouting.Pattern.Check
import LinkRouting.Pattern.Rules
import LinkRouting.Proofs.Pattern.Scan

/-! # The check decides the rules

The check counts the groups that are open and keeps the tokens that it has read.  As long as no
token breaks a rule it goes on, and the count is that of the `(` in what was read, less that of the
`)` (`Orderly.exists_checkFrom`).  So it stops at the first token that does, or reads to the end,
and what it says is what the rules say of the tokens (`check_eq_iff_verdict`).
-/
namespace LinkRouting
namespace Pattern

variable {ts before : List Token} {t : Token}

theorem orderly_nil : Orderly [] := by
  intro before t h
  exact absurd (List.prefix_nil.mp h) (List.concat_ne_nil t before)

theorem orderly_concat_iff : Orderly (ts ++ [t]) ↔ Orderly ts ∧ ¬ t.Offends ts := by
  constructor
  · intro h
    exact ⟨fun before u hu => h before u (hu.trans (List.prefix_append _ _)), h ts t List.prefix_rfl⟩
  · rintro ⟨h, ht⟩ before u hu
    rcases List.prefix_concat_iff.mp hu with heq | hu
    · obtain ⟨rfl, hlast⟩ := List.append_inj' heq rfl
      obtain rfl := List.singleton_inj.mp hlast
      exact ht
    · exact h before u hu

theorem Orderly.of_isPrefix (h : Orderly ts) (hp : before <+: ts) : Orderly before :=
  fun _ _ hu => h _ _ (hu.trans hp)

/-- Either no token breaks a rule, or there is a first one that does. -/
theorem orderly_or_exists_firstOffender (ts : List Token) :
    Orderly ts ∨ ∃ before t, FirstOffender ts before t := by
  induction ts using List.reverseRecOn with
  | nil => exact .inl orderly_nil
  | append_singleton ts t ih =>
    rcases ih with h | ⟨before, u, h⟩
    · by_cases ht : t.Offends ts
      · exact .inr ⟨ts, t, List.prefix_rfl, h, ht⟩
      · exact .inl (orderly_concat_iff.mpr ⟨h, ht⟩)
    · exact .inr ⟨before, u, h.isPrefix.trans (List.prefix_append _ _), h.orderly, h.offends⟩

/-! ### What the check counts -/

/-- So many of the groups in what was read are open. -/
def OpenGroups (before : List Token) (depth : Nat) : Prop :=
  before.count .openParen = before.count .closeParen + depth

/-- **A token that breaks no rule is read over**, and the count goes on to be right. -/
theorem OpenGroups.exists_checkFrom {depth : Nat} (h : OpenGroups before depth)
    (ht : ¬ t.Offends before) :
    ∃ depth', OpenGroups (before ++ [t]) depth' ∧
      ∀ rest, checkFrom before.reverse depth (t :: rest) =
        checkFrom (before ++ [t]).reverse depth' rest := by
  have htrail : (before ++ [t]).reverse = t :: before.reverse := List.reverse_concat
  rw [OpenGroups] at h
  simp only [OpenGroups, htrail, List.count_append]
  cases t with
  | slash | dot | literal text => exact ⟨depth, by simpa using h, fun _ => rfl⟩
  | openParen =>
    refine ⟨depth + 1, ?_, fun _ => rfl⟩
    simp [h, Nat.add_assoc]
  | closeParen =>
    rw [Token.Offends, h] at ht
    cases depth with
    | zero => exact absurd (Nat.le_refl _) ht
    | succ depth =>
      refine ⟨depth, ?_, fun _ => rfl⟩
      simp [h]
      omega
  | symbol name =>
    refine ⟨depth, by simpa using h, fun rest => ?_⟩
    rw [checkFrom, List.head?_reverse]
    rw [Token.Offends, not_and_or, not_not, not_not] at ht
    exact if_pos ht
  | star name =>
    refine ⟨depth, by simpa using h, fun rest => ?_⟩
    rw [checkFrom, List.head?_reverse]
    exact if_pos (not_not.mp ht)

/-- **A token that breaks a rule is told**, with the text before it. -/
theorem OpenGroups.checkFrom_of_offends {depth : Nat} (h : OpenGroups before depth)
    (ht : t.Offends before) (rest : List Token) :
    checkFrom before.reverse depth (t :: rest) = .error (t.offence before) := by
  cases t with
  | slash | dot | openParen | literal text => exact ht.elim
  | closeParen =>
    rw [Token.Offends, h] at ht
    obtain rfl : depth = 0 := by omega
    rw [checkFrom, Offence.after, trailText, List.reverse_reverse]
    rfl
  | symbol name =>
    rw [checkFrom, List.head?_reverse, if_neg (not_or.mpr ht), trailText, List.reverse_reverse]
    rfl
  | star name =>
    rw [checkFrom, List.head?_reverse, if_neg ht, trailText, List.reverse_reverse]
    rfl

/-- **Orderly tokens are read over**, whatever comes behind them. -/
theorem Orderly.exists_checkFrom (h : Orderly before) :
    ∃ depth, OpenGroups before depth ∧
      ∀ rest, checkFrom [] 0 (before ++ rest) = checkFrom before.reverse depth rest := by
  induction before using List.reverseRecOn with
  | nil => exact ⟨0, rfl, fun _ => rfl⟩
  | append_singleton before t ih =>
    obtain ⟨hbefore, ht⟩ := orderly_concat_iff.mp h
    obtain ⟨depth, hopen, hgo⟩ := ih hbefore
    obtain ⟨depth', hopen', hnext⟩ := hopen.exists_checkFrom ht
    refine ⟨depth', hopen', fun rest => ?_⟩
    rw [List.append_assoc, List.singleton_append, hgo, hnext]

/-- Behind a `/` the check goes on as it goes on behind nothing. -/
theorem check_eq_checkFrom (h : ts.head? = some .slash) : check ts = checkFrom [] 0 ts := by
  obtain ⟨ts, rfl⟩ := List.head?_eq_some_iff.mp h
  rfl

/-! ### What the rules say -/

/-- The rules are kept by orderly tokens with as many `)` as `(`. -/
theorem keepsRules_iff :
    KeepsRules ts ↔
      ts.head? = some .slash ∧ Orderly ts ∧ ts.count .closeParen = ts.count .openParen := by
  constructor
  · intro h
    refine ⟨h.head_slash, fun before t hp ht => ?_, h.noneOpen⟩
    cases t with
    | slash | dot | openParen | literal text => exact ht
    | star name => exact ht (h.star before name hp)
    | symbol name => exact (h.symbol before name hp).elim ht.1 ht.2
    | closeParen =>
      -- With this token there would be more `)` than `(`.
      have hle := h.noneClosed _ hp
      have hone : [Token.closeParen].count .closeParen = 1 := by decide
      have hnone : [Token.closeParen].count .openParen = 0 := by decide
      rw [List.count_append, List.count_append, hone, hnone] at hle
      rw [Token.Offends] at ht
      omega
  · rintro ⟨hhead, horder, hcount⟩
    refine ⟨hhead, fun before name hp => ?_, fun before name hp => ?_, fun before hp => ?_, hcount⟩
    · exact not_not.mp (horder _ _ hp)
    · have hnot := horder _ _ hp
      rwa [Token.Offends, not_and_or, not_not, not_not] at hnot
    · obtain ⟨depth, hopen, -⟩ := (horder.of_isPrefix hp).exists_checkFrom
      rw [hopen]
      exact Nat.le_add_right _ _

/-- What the rules say is what the check says. -/
theorem Verdict.check_eq {a : Except Offence Unit} (h : Verdict ts a) : check ts = a := by
  cases h with
  | ok h =>
    obtain ⟨hhead, horder, hcount⟩ := keepsRules_iff.mp h
    obtain ⟨depth, hopen, hgo⟩ := horder.exists_checkFrom
    obtain rfl : depth = 0 := by rw [OpenGroups] at hopen; omega
    rw [check_eq_checkFrom hhead, ← List.append_nil ts, hgo]
    rfl
  | empty h => rw [h]; rfl
  | missingLeadingSlash hne hhead =>
    match ts with
    | [] => exact absurd rfl hne
    | .slash :: _ => exact absurd rfl hhead
    | .dot :: _ | .openParen :: _ | .closeParen :: _ | .literal _ :: _ | .symbol _ :: _
    | .star _ :: _ => rfl
  | offender hhead h =>
    obtain ⟨depth, hopen, hgo⟩ := h.orderly.exists_checkFrom
    obtain ⟨after, hts⟩ := h.isPrefix
    rw [check_eq_checkFrom hhead, ← hts, List.append_assoc, hgo]
    exact hopen.checkFrom_of_offends h.offends after
  | unbalanced hhead horder hcount =>
    obtain ⟨depth, hopen, hgo⟩ := horder.exists_checkFrom
    rw [check_eq_checkFrom hhead, ← List.append_nil ts, hgo, checkFrom, if_neg]
    rintro rfl
    exact hcount hopen.symm

/-- The rules say something of every list of tokens. -/
theorem exists_verdict (ts : List Token) : ∃ a, Verdict ts a := by
  by_cases hhead : ts.head? = some .slash
  · rcases orderly_or_exists_firstOffender ts with horder | ⟨before, t, h⟩
    · by_cases hcount : ts.count .closeParen = ts.count .openParen
      · exact ⟨_, .ok (keepsRules_iff.mpr ⟨hhead, horder, hcount⟩)⟩
      · exact ⟨_, .unbalanced hhead horder hcount⟩
    · exact ⟨_, .offender hhead h⟩
  · by_cases hne : ts = []
    · exact ⟨_, .empty hne⟩
    · exact ⟨_, .missingLeadingSlash hne hhead⟩

/-- The text of the first tokens of a pattern is what the pattern begins with. -/
theorem toList_render_prefix {pattern : String} (h : before <+: scan pattern) :
    (render before).toList <+: pattern.toList := by
  obtain ⟨after, hscan⟩ := h
  rw [← render_scan pattern, ← hscan, toList_render, toList_render, List.flatMap_append]
  exact List.prefix_append _ _

/-- **The check says of all lists of tokens what the rules say**: that they are kept, or the first
that is broken, told with the first token that breaks it.  The text that is told of a pattern, with
that of the token behind it, is what the pattern begins with. -/
theorem check_eq_iff_verdict :
    (∀ ts a, check ts = a ↔ Verdict ts a) ∧
      ∀ pattern before t, FirstOffender (scan pattern) before t →
        (render before ++ t.text).toList <+: pattern.toList := by
  refine ⟨fun ts a => ⟨?_, Verdict.check_eq⟩, fun pattern before t h => ?_⟩
  · rintro rfl
    obtain ⟨a, h⟩ := exists_verdict ts
    rwa [h.check_eq]
  · have hp := toList_render_prefix h.isPrefix
    rw [toList_render, List.flatMap_append, List.flatMap_singleton, ← toList_render] at hp
    rwa [String.toList_append]

/-- In `/a(:x)*y)` three tokens break a rule, and the first of them is told. -/
theorem check_eq_iff_verdict_several :
    check (scan "/a(:x)*y)") = .error (.misplacedSymbol "x" "/a(") ∧
      FirstOffender (scan "/a(:x)*y)") [.slash, .literal "a", .openParen] (.symbol "x") ∧
      "/a(:x".toList <+: "/a(:x)*y)".toList := by
  have hscan : scan "/a(:x)*y)" = [.slash, .literal "a", .openParen, .symbol "x", .closeParen,
      .star "y", .closeParen] := by cbv
  -- None of the first three tokens is one that can break a rule.
  have horderly : Orderly [.slash, .literal "a", .openParen] :=
    (@orderly_concat_iff [.slash, .literal "a"] _).mpr ⟨(@orderly_concat_iff [.slash] _).mpr
      ⟨(@orderly_concat_iff [] _).mpr ⟨orderly_nil, id⟩, id⟩, id⟩
  have hoffender : FirstOffender (scan "/a(:x)*y)") [.slash, .literal "a", .openParen]
      (.symbol "x") := by
    rw [hscan]
    exact ⟨by decide, horderly, by simp [Token.Offends]⟩
  have hverdict := Verdict.offender (by rw [hscan]; rfl) hoffender
  exact ⟨(check_eq_iff_verdict.1 _ _).mpr hverdict, hoffender,
    check_eq_iff_verdict.2 _ _ _ hoffender⟩

end Pattern
end LinkRouting
