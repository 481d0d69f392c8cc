import LinkRouting.Proofs.Pattern.Grammar
import LinkRouting.Proofs.Pattern.Stretch
import LinkRouting.Proofs.Trie.Extension
import LinkRouting.Proofs.Trie.Laying
import LinkRouting.Trie.Compile

/-! # Reading and laying at once

What a reader does depends on the tokens that its stretch holds as the plan of what follows does
(`readSlash_eq` and its like).  So each reader comes to what laying that plan comes to, and
`Trie.compile` to what laying the plan of the whole pattern comes to (`compile_comesTo`).  A vertex
where groups begin is marked anew for each of them, and an empty body is not read at all, but
neither shows: a vertex at which a route ends is not marked again (`mark_eq_self`).
-/
namespace LinkRouting
namespace Trie
open Pattern (Token Stretch Halt Offence Plan unexpectedAt closeGroup?)

variable {ι α : Type} {i : ι} {ts trail run : List Token} {s : Stretch}

/-! ### What the readers do with what a stretch holds -/

section Equations
variable {t : Trie ι} {v : Nat}

theorem readSlash_eq (h : s.Holds ts trail run) :
    readSlash i ts t v s = .called ⟨.slash, s⟩
      (match run with
      | [] => pure ((t.descend v .slash).1.mark (t.descend v .slash).2 i)
      | .literal text :: _ =>
        readLiteral i ts (t.descend v .slash).1 (t.descend v .slash).2 text s.rest
      | .symbol name :: _ =>
        readSymbol i ts (t.descend v .slash).1 (t.descend v .slash).2 name s.rest
      | .star name :: _ =>
        readStar i ts (t.descend v .slash).1 (t.descend v .slash).2 name s.rest
      | .openParen :: _ =>
        readGroup i ts true (t.descend v .slash).1 (t.descend v .slash).2 s.rest
      | _ :: _ => .halt (unexpectedAt ts s.start)) := by
  have hpeek := h.peek_eq
  rw [readSlash]
  match run with
  | [] | .slash :: _ | .dot :: _ | .openParen :: _ | .closeParen :: _ | .literal _ :: _
  | .symbol _ :: _ | .star _ :: _ => split <;> simp_all

theorem readDot_eq (h : s.Holds ts trail run) :
    readDot i ts t v s = .called ⟨.dot, s⟩
      (match run with
      | .literal text :: _ =>
        readLiteral i ts (t.descend v .dot).1 (t.descend v .dot).2 text s.rest
      | .symbol name :: _ =>
        readSymbol i ts (t.descend v .dot).1 (t.descend v .dot).2 name s.rest
      | _ => .halt (unexpectedAt ts s.start)) := by
  have hpeek := h.peek_eq
  rw [readDot]
  match run with
  | [] | .slash :: _ | .dot :: _ | .openParen :: _ | .closeParen :: _ | .literal _ :: _
  | .symbol _ :: _ | .star _ :: _ => split <;> simp_all

theorem readSegment_eq (h : s.Holds ts trail run) :
    readSegment i ts t v s = .called ⟨.segment, s⟩
      (match run with
      | [] => pure (t.mark v i)
      | .slash :: _ => readSlash i ts t v s.rest
      | .dot :: _ => readDot i ts t v s.rest
      | .openParen :: _ => readGroup i ts true t v s.rest
      | _ :: _ => .halt (unexpectedAt ts s.start)) := by
  have hpeek := h.peek_eq
  rw [readSegment]
  match run with
  | [] | .slash :: _ | .dot :: _ | .openParen :: _ | .closeParen :: _ | .literal _ :: _
  | .symbol _ :: _ | .star _ :: _ => split <;> simp_all

theorem readStar_eq (h : s.Holds ts trail run) (name : String) :
    readStar i ts t v name s = .called ⟨.star, s⟩
      (match run with
      | [] => pure ((t.descendParameter v name).1.mark (t.descendParameter v name).2 i)
      | _ :: _ => .halt (unexpectedAt ts s.start)) := by
  rw [readStar]
  cases run with
  | nil => rw [if_neg fun hlt => h.start_lt_iff.mp hlt rfl]
  | cons t us => rw [if_pos (h.start_lt_iff.mpr (List.cons_ne_nil t us))]

theorem readBody_eq (h : s.Holds ts trail run) :
    readBody i ts t v s =
      match run with
      | .slash :: _ => readSlash i ts t v s.rest
      | .dot :: _ => readDot i ts t v s.rest
      | _ => .halt (unexpectedAt ts s.start) := by
  have hpeek := h.peek_eq
  rw [readBody]
  match run with
  | [] | .slash :: _ | .dot :: _ | .openParen :: _ | .closeParen :: _ | .literal _ :: _
  | .symbol _ :: _ | .star _ :: _ => split <;> simp_all

theorem readBodies_eq (h : s.Holds ts trail run) :
    readBodies i ts t v s =
      match run with
      | [] => pure t
      | _ :: _ => (t.terminalsUnder v).foldlM (fun u w => readBody i ts u w s) t := by
  rw [readBodies, h.peek_eq]
  cases run <;> rfl

theorem readGroup_eq (h : s.Holds ts trail run) (first : Bool) :
    readGroup i ts first t v s = .called ⟨.group, s⟩
      (if first && !(t.vertex v).isFinal then .halt (.refused .ambiguousGroup)
      else match closeGroup? 0 run with
        | none => .halt (.refused .unbalanced)
        | some (inner, after) => do
          let laid ← readBodies i ts (t.mark v i) v ⟨s.start, s.start + inner.length⟩
          match after with
          | [] => pure laid
          | .openParen :: _ =>
            readGroup i ts false laid v (Stretch.rest ⟨s.start + inner.length + 1, s.stop⟩)
          | _ :: _ => .halt (unexpectedAt ts (s.start + inner.length + 1))) := by
  have hclose := h.closingParen_eq 0
  rw [readGroup]
  split
  · rfl
  · cases hsplit : closeGroup? 0 run with
    | none =>
      rw [hsplit] at hclose
      split <;> simp_all
    | some split =>
      obtain ⟨inner, after⟩ := split
      obtain rfl := Pattern.closeGroup?_append hsplit
      rw [hsplit] at hclose
      split
      · simp_all
      · next close heq =>
        obtain rfl := Except.ok.inj (hclose.symm.trans heq)
        simp only [show Stretch.peek ⟨s.start + inner.length + 1, s.stop⟩ ts = after.head? from
          h.right.rest.peek_eq]
        cases after with
        | nil => rfl
        | cons u us => cases u <;> rfl

end Equations

/-! ### What was read is laid -/

/-- Reading comes to what laying comes to. -/
def Reading.ComesTo (x : Reading α) (a : Except Offence α) : Prop :=
  x.result = a.mapError Halt.refused

namespace Reading.ComesTo
variable {x : Reading α} {a : Except Offence α}

theorem called (h : x.ComesTo a) (c : Call) : (Reading.called c x).ComesTo a := h

theorem halt {o : Offence} {e : Halt} (h : e = .refused o) :
    (Reading.halt e : Reading α).ComesTo (.error o) := congrArg Except.error h

theorem bind {f : α → Reading α} {g : α → Except Offence α} (h : x.ComesTo a)
    (hf : ∀ b, a = .ok b → (f b).ComesTo (g b)) : (x >>= f).ComesTo (a >>= g) := by
  obtain ⟨calls, result⟩ := x
  obtain rfl : result = a.mapError Halt.refused := h
  cases a with
  | ok b => exact hf b rfl
  | error o => rfl

end Reading.ComesTo

section Agreement
variable {t : Trie ι} {v : Nat} {name : String}

/-- A vertex at which a route ends is not marked again. -/
theorem mark_eq_self (ht : t.WellFormed) (hv : v < t.size) (hend : (t.vertex v).isTerminal = true)
    (i : ι) : t.mark v i = t := by
  obtain ⟨ls, hls⟩ := ht.exists_follow? hv
  refine (Gains.mark ht hls i).eq_self ht (wellFormed_mark ht hv i) fun b hb => ?_
  obtain rfl := List.mem_singleton.mp hb
  rw [Branch.labels, List.map_nil, List.append_nil, routeAt?_of_follow? hls]
  exact hend

theorem isTerminal_mark (hv : v < t.size) (i : ι) : ((t.mark v i).vertex v).isTerminal = true := by
  rw [Vertex.isTerminal, identifier_mark hv, if_pos rfl, Option.isSome_or]
  exact Bool.or_true _

/-- An empty body leaves every end as it is. -/
theorem foldlM_lay_stop (ht : t.WellFormed) {ws : List Nat}
    (hws : ∀ w ∈ ws, (t.vertex w).isTerminal = true) :
    ws.foldlM (fun t w => lay i .stop t w) t = .ok t := by
  induction ws with
  | nil => rfl
  | cons w ws ih =>
    have hend := hws w List.mem_cons_self
    rw [List.foldlM_cons, lay, mark_eq_self ht (lt_size_of_isTerminal hend) hend]
    exact ih fun x hx => hws x (List.mem_cons_of_mem _ hx)

/-- A body that is read below each end comes to what it comes to laid below each. -/
theorem foldlM_comesTo {f : Trie ι → Nat → Reading (Trie ι)} {body : Plan}
    (hf : ∀ {t : Trie ι} {v : Nat}, t.WellFormed → v < t.size → (f t v).ComesTo (lay i body t v))
    (ht : t.WellFormed) {ws : List Nat} (hws : ∀ w ∈ ws, w < t.size) :
    (ws.foldlM f t).ComesTo (ws.foldlM (fun t w => lay i body t w) t) := by
  induction ws generalizing t with
  | nil => rfl
  | cons w ws ih =>
    rw [List.foldlM_cons, List.foldlM_cons]
    refine (hf ht (hws w List.mem_cons_self)).bind fun u hu => ?_
    obtain ⟨ls, hls⟩ := ht.exists_follow? (hws w List.mem_cons_self)
    obtain ⟨-, hwf, hg⟩ := lay_gains i body ht hls hu
    exact ih hwf fun x hx => Nat.lt_of_lt_of_le (hws x (List.mem_cons_of_mem _ hx))
      (hg.extends ht hwf).size_le

/-- A vertex at which a route ends is still one when bodies were laid below such vertices. -/
theorem isTerminal_of_foldlM_lay {body : Plan} {u : Trie ι} {ws : List Nat} (ht : t.WellFormed)
    (hws : ∀ w ∈ ws, (t.vertex w).isTerminal = true)
    (h : ws.foldlM (fun t w => lay i body t w) t = .ok u)
    (hend : (t.vertex v).isTerminal = true) :
    u.WellFormed ∧ (u.vertex v).isTerminal = true := by
  have hlabels : ∀ w ∈ ws, ∃ ls, t.follow? root ls = some w := fun w hw =>
    ht.exists_follow? (lt_size_of_isTerminal (hws w hw))
  choose! labels hfollow using hlabels
  obtain ⟨-, hwf, hg⟩ := foldlM_lay_gains (lay_gains i body) ws labels ht hfollow h
  obtain ⟨j, hj⟩ := Option.isSome_iff_exists.mp hend
  exact ⟨hwf, Option.isSome_of_eq_some ((hg.extends ht hwf).identifier_eq_some hj)⟩

theorem descendAll_target (ht : t.WellFormed) (hv : v < t.size) (tokens : List Path.Token) :
    (t.descendAll v tokens).1.WellFormed ∧
      (t.descendAll v tokens).2 < (t.descendAll v tokens).1.size := by
  induction tokens generalizing t v with
  | nil => exact ⟨ht, hv⟩
  | cons token tokens ih =>
    exact ih (wellFormed_advance ht hv (.exact token)) (advance_target ht hv (.exact token)).2

theorem lay_ofLiteral (text : String) (rest : Plan) (t : Trie ι) (v : Nat) :
    lay i (.ofLiteral text rest) t v =
      lay i rest (t.descendAll v (Path.scan text)).1 (t.descendAll v (Path.scan text)).2 := by
  rw [Plan.ofLiteral]
  induction Path.scan text generalizing t v with
  | nil => rfl
  | cons token tokens ih => exact ih _ _

/-- The first of several groups is refused where something leads on. -/
theorem lay_groups (gs : Pattern.Groups) (t : Trie ι) (v : Nat) :
    lay i (.groups gs) t v = if true && !(t.vertex v).isFinal then .error .ambiguousGroup
      else layGroups i gs (t.mark v i) v := by
  rw [lay]
  cases (t.vertex v).isFinal <;> rfl

theorem readLiteral_comesTo (ht : t.WellFormed) (hv : v < t.size) (text : String) {rest : Plan}
    (hsegment : ∀ {t : Trie ι} {v : Nat}, t.WellFormed → v < t.size →
      (readSegment i ts t v s).ComesTo (lay i rest t v)) :
    (readLiteral i ts t v text s).ComesTo (lay i (.ofLiteral text rest) t v) := by
  obtain ⟨hwf, hlt⟩ := descendAll_target ht hv (Path.scan text)
  rw [readLiteral, lay_ofLiteral]
  exact .called (hsegment hwf hlt) _

theorem readSymbol_comesTo (ht : t.WellFormed) (hv : v < t.size) (name : String) {rest : Plan}
    (hsegment : ∀ {t : Trie ι} {v : Nat}, t.WellFormed → v < t.size →
      (readSegment i ts t v s).ComesTo (lay i rest t v)) :
    (readSymbol i ts t v name s).ComesTo (lay i (.capture name rest) t v) := by
  rw [readSymbol]
  exact .called (hsegment (wellFormed_advance ht hv (.capture name))
    (advance_target ht hv (.capture name)).2) _

theorem readStar_comesTo (h : s.Holds ts (.star name :: trail) run) :
    (readStar i ts t v name s).ComesTo (lay i (.capture name
      (if run.isEmpty then .stop else .fault (.after (.star name :: trail)))) t v) := by
  rw [readStar_eq h]
  refine .called ?_ _
  match run, h with
  | [], _ => rfl
  | _ :: _, h => exact .halt h.unexpectedAt_eq

variable (i)

mutual

theorem readSlash_comesTo {run trail : List Token} {s : Stretch} (h : s.Holds ts trail run)
    {t : Trie ι} {v : Nat} (ht : t.WellFormed) (hv : v < t.size) :
    (readSlash i ts t v s).ComesTo (lay i (.exact .slash (Pattern.afterSlash trail run)) t v) := by
  have hwf := wellFormed_advance ht hv (.exact .slash)
  have hlt := (advance_target ht hv (.exact .slash)).2
  rw [readSlash_eq h, lay]
  refine .called ?_ _
  match run, h with
  | [], _ =>
    rw [Pattern.afterSlash]
    rfl
  | .literal text :: us, h =>
    rw [Pattern.afterSlash]
    exact readLiteral_comesTo hwf hlt text (readSegment_comesTo h.rest)
  | .symbol name :: us, h =>
    rw [Pattern.afterSlash]
    exact readSymbol_comesTo hwf hlt name (readSegment_comesTo h.rest)
  | .star name :: us, h =>
    rw [Pattern.afterSlash]
    exact readStar_comesTo h.rest
  | .openParen :: us, h =>
    rw [Pattern.afterSlash, lay_groups]
    exact readGroup_comesTo h.rest true hwf hlt
  | .slash :: _, h | .dot :: _, h | .closeParen :: _, h =>
    rw [Pattern.afterSlash]
    · exact .halt h.unexpectedAt_eq
    all_goals simp
termination_by (run.length, 0)
decreasing_by all_goals exact Prod.Lex.left _ _ (Nat.lt_succ_self _)

theorem readDot_comesTo {run trail : List Token} {s : Stretch} (h : s.Holds ts trail run)
    {t : Trie ι} {v : Nat} (ht : t.WellFormed) (hv : v < t.size) :
    (readDot i ts t v s).ComesTo (lay i (.exact .dot (Pattern.afterDot trail run)) t v) := by
  have hwf := wellFormed_advance ht hv (.exact .dot)
  have hlt := (advance_target ht hv (.exact .dot)).2
  rw [readDot_eq h, lay]
  refine .called ?_ _
  match run, h with
  | .literal text :: us, h =>
    rw [Pattern.afterDot]
    exact readLiteral_comesTo hwf hlt text (readSegment_comesTo h.rest)
  | .symbol name :: us, h =>
    rw [Pattern.afterDot]
    exact readSymbol_comesTo hwf hlt name (readSegment_comesTo h.rest)
  | [], h | .slash :: _, h | .dot :: _, h | .openParen :: _, h | .closeParen :: _, h
  | .star _ :: _, h =>
    rw [Pattern.afterDot]
    · exact .halt h.unexpectedAt_eq
    all_goals simp
termination_by (run.length, 0)
decreasing_by all_goals exact Prod.Lex.left _ _ (Nat.lt_succ_self _)

theorem readSegment_comesTo {run trail : List Token} {s : Stretch} (h : s.Holds ts trail run)
    {t : Trie ι} {v : Nat} (ht : t.WellFormed) (hv : v < t.size) :
    (readSegment i ts t v s).ComesTo (lay i (Pattern.afterSegment trail run) t v) := by
  rw [readSegment_eq h]
  refine .called ?_ _
  match run, h with
  | [], _ =>
    rw [Pattern.afterSegment]
    rfl
  | .slash :: us, h =>
    rw [Pattern.afterSegment]
    exact readSlash_comesTo h.rest ht hv
  | .dot :: us, h =>
    rw [Pattern.afterSegment]
    exact readDot_comesTo h.rest ht hv
  | .openParen :: us, h =>
    rw [Pattern.afterSegment, lay_groups]
    exact readGroup_comesTo h.rest true ht hv
  | .closeParen :: _, h | .literal _ :: _, h | .symbol _ :: _, h | .star _ :: _, h =>
    rw [Pattern.afterSegment]
    · exact .halt h.unexpectedAt_eq
    all_goals simp
termination_by (run.length, 0)
decreasing_by all_goals exact Prod.Lex.left _ _ (Nat.lt_succ_self _)

theorem readBody_comesTo {run trail : List Token} {s : Stretch} (h : s.Holds ts trail run)
    (hne : run ≠ []) {t : Trie ι} {v : Nat} (ht : t.WellFormed) (hv : v < t.size) :
    (readBody i ts t v s).ComesTo (lay i (Pattern.groupBody trail run) t v) := by
  rw [readBody_eq h]
  match run, h with
  | [], _ => exact absurd rfl hne
  | .slash :: us, h =>
    rw [Pattern.groupBody]
    exact readSlash_comesTo h.rest ht hv
  | .dot :: us, h =>
    rw [Pattern.groupBody]
    exact readDot_comesTo h.rest ht hv
  | .openParen :: _, h | .closeParen :: _, h | .literal _ :: _, h | .symbol _ :: _, h
  | .star _ :: _, h =>
    rw [Pattern.groupBody]
    · exact .halt h.unexpectedAt_eq
    all_goals simp
termination_by (run.length, 0)
decreasing_by all_goals exact Prod.Lex.left _ _ (Nat.lt_succ_self _)

theorem readBodies_comesTo {run trail : List Token} {s : Stretch} (h : s.Holds ts trail run)
    {t : Trie ι} (ht : t.WellFormed) (v : Nat) :
    (readBodies i ts t v s).ComesTo
      ((t.terminalsUnder v).foldlM (fun t w => lay i (Pattern.groupBody trail run) t w) t) := by
  have hends : ∀ w ∈ t.terminalsUnder v, (t.vertex w).isTerminal = true := fun w hw =>
    (ht.mem_terminalsUnder.mp hw).1
  rw [readBodies_eq h]
  match run, h with
  | [], _ =>
    rw [Pattern.groupBody, foldlM_lay_stop ht hends]
    rfl
  | u :: us, h =>
    exact foldlM_comesTo (readBody_comesTo h (List.cons_ne_nil u us)) ht
      fun w hw => lt_size_of_isTerminal (hends w hw)
termination_by (run.length, 1)
decreasing_by exact Prod.Lex.right _ Nat.zero_lt_one

theorem readGroup_comesTo {run trail : List Token} {s : Stretch} (h : s.Holds ts trail run)
    (first : Bool) {t : Trie ι} {v : Nat} (ht : t.WellFormed) (hv : v < t.size) :
    (readGroup i ts first t v s).ComesTo
      (if first && !(t.vertex v).isFinal then .error .ambiguousGroup
      else layGroups i (Pattern.inGroup trail run) (t.mark v i) v) := by
  rw [readGroup_eq h]
  refine .called ?_ _
  split
  · exact .halt rfl
  · have hwf := wellFormed_mark ht hv i
    cases hsplit : closeGroup? 0 run with
    | none =>
      rw [Pattern.inGroup_of_closeGroup?_eq_none hsplit]
      exact .halt rfl
    | some split =>
      obtain ⟨inner, after⟩ := split
      obtain ⟨hinner, hafter⟩ := Pattern.closeGroup?_length hsplit
      rw [Pattern.inGroup_of_closeGroup?_eq_some hsplit, layGroups]
      rw [Pattern.closeGroup?_append hsplit] at h
      refine (readBodies_comesTo h.left hwf v).bind fun laid hlaid => ?_
      match after, h, hafter with
      | [], _, _ =>
        rw [Pattern.afterGroup]
        rfl
      | .openParen :: us, h, hafter =>
        -- Laying has kept the mark, and so the next group need not set it again.
        obtain ⟨hlwf, hend⟩ := isTerminal_of_foldlM_lay hwf
          (fun w hw => (hwf.mem_terminalsUnder.mp hw).1) hlaid (isTerminal_mark hv i)
        have hlv := lt_size_of_isTerminal hend
        have hus : us.length < run.length := Nat.lt_of_succ_lt hafter
        have hgroup := readGroup_comesTo h.right.rest.rest false hlwf hlv
        rw [mark_eq_self hlwf hlv hend] at hgroup
        rw [Pattern.afterGroup]
        exact hgroup
      | .slash :: _, h, _ | .dot :: _, h, _ | .closeParen :: _, h, _ | .literal _ :: _, h, _
      | .symbol _ :: _, h, _ | .star _ :: _, h, _ =>
        rw [Pattern.afterGroup]
        · exact .halt h.right.rest.unexpectedAt_eq
        all_goals simp
termination_by (run.length, 0)
decreasing_by
  · exact Prod.Lex.left _ _ hinner
  · exact Prod.Lex.left _ _ hus

end

/-- **Reading stretch by stretch comes to what laying the plan comes to.** -/
theorem compile_comesTo (ts : List Token) (ht : t.WellFormed) :
    (compile i ts t).ComesTo (lay i (.ofTokens ts) t root) := by
  match ts with
  | [] => exact .halt rfl
  | .slash :: us => exact readSlash_comesTo i (Stretch.holds_append [.slash] us) ht ht.size_pos
  | .dot :: _ | .openParen :: _ | .closeParen :: _ | .literal _ :: _ | .symbol _ :: _
  | .star _ :: _ => exact .halt rfl

end Agreement

end Trie
end LinkRouting
