import LinkRouting.Proofs.Pattern.Viable
import LinkRouting.Proofs.Trie.Readers

/-! # What passes the check can be read

The check counts the parentheses of a whole pattern, and the readers work on stretches of it, on
some of them several times.  What they are called for is balanced none the less (`Call.Sound`): a
balanced run stays so behind a token that is no parenthesis, and a group in it splits it into a
body and a rest that are balanced again.  With the `(` put back in front that holds of the stretch
of a group, too.  So no other reader meets a `)`, the `)` of a group is always found, and nothing
is looked for outside the list of tokens (`compile_of_check`).
-/
namespace LinkRouting
namespace Trie
open Pattern (Token Balanced Stretch Halt unexpectedAt closeGroup?)

variable {ι α : Type} {ts trail run : List Token} {s : Stretch}

/-! ### Every call is sound -/

namespace Reading.Sound
variable {x : Reading α} {f : α → Reading α}

theorem pure (a : α) : Sound ts (Pure.pure a : Reading α) :=
  ⟨by simp [Pure.pure], .inl ⟨a, rfl⟩⟩

theorem ambiguous : Sound ts (.halt (.refused .ambiguousGroup) : Reading α) :=
  ⟨nofun, .inr (.inl rfl)⟩

theorem unexpected (h : s.Holds ts trail run) :
    Sound ts (.halt (unexpectedAt ts s.start) : Reading α) := by
  refine ⟨nofun, .inr (.inr ⟨trail.reverse, ?_, ?_⟩)⟩
  · obtain ⟨others, rfl⟩ := h.eq
    exact List.prefix_append _ _
  · rw [h.unexpectedAt_eq]
    rfl

theorem called {c : Call} (hc : c.Sound ts) (hx : x.Sound ts) : Sound ts (.called c x) :=
  ⟨List.forall_mem_cons.mpr ⟨hc, hx.calls⟩, hx.result⟩

theorem bind (hx : x.Sound ts) (hf : ∀ a, (f a).Sound ts) : Sound ts (x >>= f) := by
  obtain ⟨calls, result⟩ := x
  cases result with
  | ok a => exact ⟨List.forall_mem_append.mpr ⟨hx.calls, (hf a).calls⟩, (hf a).result⟩
  | error e =>
    refine ⟨hx.calls, hx.result.imp ?_ id⟩
    rintro ⟨a, ha⟩
    cases ha

theorem foldlM {β : Type} {g : α → β → Reading α} (hg : ∀ a b, (g a b).Sound ts) (bs : List β)
    (a : α) : Sound ts (bs.foldlM g a) := by
  induction bs generalizing a with
  | nil => exact .pure a
  | cons b bs ih =>
    rw [List.foldlM_cons]
    exact (hg a b).bind ih

end Reading.Sound

/-- A reader that is no reader of groups is called for a stretch in which every group is closed. -/
theorem Call.sound_of_balanced {reader : Reader} (hreader : reader ≠ .group)
    (h : s.Holds ts trail run) (hb : Balanced run) : Call.Sound ts ⟨reader, s⟩ := by
  have hopening : reader.opening = [] := by
    cases reader with
    | group => exact absurd rfl hreader
    | slash | dot | literal | symbol | star | segment => rfl
  refine ⟨h.le.1, h.le.2, ?_, ?_, fun _ hpeek => ?_, fun hgroup => absurd hgroup hreader⟩
  · rw [hopening]
    exact List.nil_suffix
  · rw [hopening, h.tokens_eq]
    exact hb
  · obtain ⟨us, rfl⟩ := h.exists_cons hpeek
    exact hb.ne_closeParen rfl

/-- The reader of groups is called for a stretch in which its own group is closed, too. -/
theorem Call.sound_of_group (h : s.Holds ts (.openParen :: trail) run)
    (hb : Balanced (.openParen :: run)) : Call.Sound ts ⟨.group, s⟩ := by
  obtain ⟨inner, after, rfl, hi, -⟩ := hb.exists_group
  refine ⟨h.le.1, h.le.2, ?_, ?_, fun hgroup => absurd rfl hgroup, fun _ => ?_⟩
  · rw [h.take_start, List.reverse_cons]
    exact List.suffix_append _ _
  · rw [h.tokens_eq]
    exact hb
  · refine ⟨s.start + inner.length, ?_, ?_, ?_⟩
    · rw [h.closingParen_eq, Pattern.closeGroup?_of_balanced hi]
      rfl
    · exact h.right.getElem?_start
    · rw [h.left.tokens_eq]
      exact hi

section Soundness
variable (i : ι)

theorem readLiteral_sound (h : s.Holds ts trail run) (hb : Balanced run) (t : Trie ι) (v : Nat)
    (text : String) (hsegment : ∀ t v, (readSegment i ts t v s).Sound ts) :
    (readLiteral i ts t v text s).Sound ts := by
  rw [readLiteral]
  exact .called (Call.sound_of_balanced (by simp) h hb) (hsegment _ _)

theorem readSymbol_sound (h : s.Holds ts trail run) (hb : Balanced run) (t : Trie ι) (v : Nat)
    (name : String) (hsegment : ∀ t v, (readSegment i ts t v s).Sound ts) :
    (readSymbol i ts t v name s).Sound ts := by
  rw [readSymbol]
  exact .called (Call.sound_of_balanced (by simp) h hb) (hsegment _ _)

theorem readStar_sound (h : s.Holds ts trail run) (hb : Balanced run) (t : Trie ι) (v : Nat)
    (name : String) : (readStar i ts t v name s).Sound ts := by
  rw [readStar_eq h]
  refine .called (Call.sound_of_balanced (by simp) h hb) ?_
  match run, h with
  | [], _ => exact .pure _
  | _ :: _, h => exact .unexpected h

mutual

theorem readSlash_sound {run trail : List Token} {s : Stretch} (h : s.Holds ts trail run)
    (hb : Balanced run) (t : Trie ι) (v : Nat) : (readSlash i ts t v s).Sound ts := by
  rw [readSlash_eq h]
  refine .called (Call.sound_of_balanced (by simp) h hb) ?_
  match run, h, hb with
  | [], _, _ => exact .pure _
  | .literal text :: us, h, hb =>
    have hus := hb.of_cons (by simp)
    exact readLiteral_sound i h.rest hus _ _ text (readSegment_sound h.rest hus)
  | .symbol name :: us, h, hb =>
    have hus := hb.of_cons (by simp)
    exact readSymbol_sound i h.rest hus _ _ name (readSegment_sound h.rest hus)
  | .star name :: us, h, hb => exact readStar_sound i h.rest (hb.of_cons (by simp)) _ _ name
  | .openParen :: us, h, hb => exact readGroup_sound h.rest hb true _ _
  | .slash :: _, h, _ | .dot :: _, h, _ | .closeParen :: _, h, _ => exact .unexpected h
termination_by (run.length, 0)
decreasing_by all_goals exact Prod.Lex.left _ _ (Nat.lt_succ_self _)

theorem readDot_sound {run trail : List Token} {s : Stretch} (h : s.Holds ts trail run)
    (hb : Balanced run) (t : Trie ι) (v : Nat) : (readDot i ts t v s).Sound ts := by
  rw [readDot_eq h]
  refine .called (Call.sound_of_balanced (by simp) h hb) ?_
  match run, h, hb with
  | .literal text :: us, h, hb =>
    have hus := hb.of_cons (by simp)
    exact readLiteral_sound i h.rest hus _ _ text (readSegment_sound h.rest hus)
  | .symbol name :: us, h, hb =>
    have hus := hb.of_cons (by simp)
    exact readSymbol_sound i h.rest hus _ _ name (readSegment_sound h.rest hus)
  | [], h, _ | .slash :: _, h, _ | .dot :: _, h, _ | .openParen :: _, h, _
  | .closeParen :: _, h, _ | .star _ :: _, h, _ => exact .unexpected h
termination_by (run.length, 0)
decreasing_by all_goals exact Prod.Lex.left _ _ (Nat.lt_succ_self _)

theorem readSegment_sound {run trail : List Token} {s : Stretch} (h : s.Holds ts trail run)
    (hb : Balanced run) (t : Trie ι) (v : Nat) : (readSegment i ts t v s).Sound ts := by
  rw [readSegment_eq h]
  refine .called (Call.sound_of_balanced (by simp) h hb) ?_
  match run, h, hb with
  | [], _, _ => exact .pure _
  | .slash :: us, h, hb => exact readSlash_sound h.rest (hb.of_cons (by simp)) _ _
  | .dot :: us, h, hb => exact readDot_sound h.rest (hb.of_cons (by simp)) _ _
  | .openParen :: us, h, hb => exact readGroup_sound h.rest hb true _ _
  | .closeParen :: _, h, _ | .literal _ :: _, h, _ | .symbol _ :: _, h, _
  | .star _ :: _, h, _ => exact .unexpected h
termination_by (run.length, 0)
decreasing_by all_goals exact Prod.Lex.left _ _ (Nat.lt_succ_self _)

theorem readBody_sound {run trail : List Token} {s : Stretch} (h : s.Holds ts trail run)
    (hb : Balanced run) (t : Trie ι) (v : Nat) : (readBody i ts t v s).Sound ts := by
  rw [readBody_eq h]
  match run, h, hb with
  | .slash :: us, h, hb => exact readSlash_sound h.rest (hb.of_cons (by simp)) _ _
  | .dot :: us, h, hb => exact readDot_sound h.rest (hb.of_cons (by simp)) _ _
  | [], h, _ | .openParen :: _, h, _ | .closeParen :: _, h, _ | .literal _ :: _, h, _
  | .symbol _ :: _, h, _ | .star _ :: _, h, _ => exact .unexpected h
termination_by (run.length, 0)
decreasing_by all_goals exact Prod.Lex.left _ _ (Nat.lt_succ_self _)

theorem readBodies_sound {run trail : List Token} {s : Stretch} (h : s.Holds ts trail run)
    (hb : Balanced run) (t : Trie ι) (v : Nat) : (readBodies i ts t v s).Sound ts := by
  rw [readBodies_eq h]
  match run, h, hb with
  | [], _, _ => exact .pure t
  | _ :: _, h, hb => exact .foldlM (readBody_sound h hb) _ t
termination_by (run.length, 1)
decreasing_by exact Prod.Lex.right _ Nat.zero_lt_one

/-- The stretch of a group is split at its `)`, and both parts are balanced again. -/
theorem readGroup_sound {run trail : List Token} {s : Stretch}
    (h : s.Holds ts (.openParen :: trail) run) (hb : Balanced (.openParen :: run)) (first : Bool)
    (t : Trie ι) (v : Nat) : (readGroup i ts first t v s).Sound ts := by
  rw [readGroup_eq h]
  refine .called (Call.sound_of_group h hb) ?_
  obtain ⟨inner, after, hrun, hi, ha⟩ := hb.exists_group
  have hsplit : closeGroup? 0 run = some (inner, after) := by
    rw [hrun, Pattern.closeGroup?_of_balanced hi]
  obtain ⟨hinner, hafter⟩ := Pattern.closeGroup?_length hsplit
  rw [hsplit]
  rw [hrun] at h
  split
  · exact .ambiguous
  · refine .bind (readBodies_sound h.left hi _ v) fun laid => ?_
    match after, h, ha, hafter with
    | [], _, _, _ => exact .pure _
    | .openParen :: us, h, ha, hafter =>
      have hus : us.length < run.length := Nat.lt_of_succ_lt hafter
      exact readGroup_sound h.right.rest.rest ha false laid v
    | .slash :: _, h, _, _ | .dot :: _, h, _, _ | .closeParen :: _, h, _, _
    | .literal _ :: _, h, _, _ | .symbol _ :: _, h, _, _ | .star _ :: _, h, _, _ =>
      exact .unexpected h.right.rest
termination_by (run.length, 0)
decreasing_by
  · exact Prod.Lex.left _ _ hinner
  · exact Prod.Lex.left _ _ hus

end

end Soundness

/-- **Nothing goes wrong with what has passed the check.**  Every reader is called for a stretch
that it can read, and all ends with a result, at ambiguous groups, or where the tokens do not go on,
with the text of those before.  So it does whatever trie there is; if it is a tree, what comes of
it is what laying the plan comes to. -/
theorem compile_of_check {ts : List Token} (h : Pattern.check ts = .ok ()) (i : ι) (t : Trie ι) :
    (compile i ts t).Sound ts ∧
      (t.WellFormed →
        (compile i ts t).result = (lay i (.ofTokens ts) t root).mapError Halt.refused) := by
  refine ⟨?_, fun ht => compile_comesTo i ts ht⟩
  have hb := Pattern.balanced_of_check h
  match ts, h, hb with
  | .slash :: us, _, hb =>
    exact readSlash_sound i (Stretch.holds_append [.slash] us) (hb.of_cons (by simp)) t root

/-- In `/a(/b)(.:x)` the body of the second group is read, and laid, below two ends. -/
theorem compile_of_check_groups :
    ∃ (ts : List Token) (t : Trie Nat),
      ts = [.slash, .literal "a", .openParen, .slash, .literal "b", .closeParen, .openParen, .dot,
        .symbol "x", .closeParen] ∧
      t = (empty.advance root (.exact .slash)).1 ∧
      Pattern.check ts = .ok () ∧ t.WellFormed ∧ (compile 3 ts t).Sound ts ∧
      ∃ u, (compile 3 ts t).result = .ok u ∧ u.size = 9 := by
  obtain ⟨ts, hts⟩ : ∃ ts : List Token, ts = [.slash, .literal "a", .openParen, .slash,
    .literal "b", .closeParen, .openParen, .dot, .symbol "x", .closeParen] := ⟨_, rfl⟩
  obtain ⟨t, ht⟩ : ∃ t : Trie Nat, t = (empty.advance root (.exact .slash)).1 := ⟨_, rfl⟩
  have hcheck : Pattern.check ts = .ok () := by
    rw [hts]
    rfl
  have hwf : t.WellFormed := ht ▸ wellFormed_advance wellFormed_empty Nat.one_pos _
  have hsize : (lay 3 (.ofTokens ts) t root).map size = .ok 9 := by
    rw [hts, ht]
    cbv
  obtain ⟨hsound, hresult⟩ := compile_of_check hcheck 3 t
  refine ⟨ts, t, hts, ht, hcheck, hwf, hsound, ?_⟩
  rw [hresult hwf]
  cases hlay : lay 3 (.ofTokens ts) t root with
  | error o =>
    rw [hlay] at hsize
    cases hsize
  | ok u =>
    rw [hlay] at hsize
    exact ⟨u, rfl, Except.ok.inj hsize⟩

end Trie
end LinkRouting
