import LinkRouting.Proofs.Trie.Lockstep
import LinkRouting.Proofs.Trie.Walk

/-! # Walks over tries that look alike

Two tries that look alike are walked in step (`Concord.walk`).  At each token both walks
take an edge with the same label, or both stop, so that they end at vertices with the
same labels.  What they bind stands in a relation if every capture keeps it so.  The
tokens need not be the same either: it is enough that their literals have the same key.

Which captures keep which relation is left open here (`Concord`).  With the same names
on both sides and the same tokens it is equality, and then the tries are also written as
the same outline (`outline_eq`): nothing tells them apart but their vertex numbers.
-/
namespace LinkRouting

/-- Two tokens are alike if they are the same separator, or literals in a relation. -/
inductive Path.Token.Like (S : String → String → Prop) : Path.Token → Path.Token → Prop
  | slash : Like S .slash .slash
  | dot : Like S .dot .dot
  | literal {x y : String} : S x y → Like S (.literal x) (.literal y)

theorem Path.Token.Like.refl {S : String → String → Prop} (hS : ∀ x, S x x) (token : Path.Token) :
    Like S token token := by
  cases token with
  | slash => exact .slash
  | dot => exact .dot
  | literal text => exact .literal (hS text)

namespace Trie
variable {ι : Type} {t u : Trie ι} {v w : Nat} {b c : Bindings}

/-- Counterparts have counterparts behind the same labels. -/
theorem Alike.rel_child? (h : Alike [] t u) (hvw : Counterparts [] t u v w) (l : Label) :
    Option.Rel (fun x y => t.child? v l = some x ∧ Counterparts [] t u x y) (t.child? v l)
      (u.child? w l) := by
  refine rel_imp (rel_of_isSome_iff (h.child?_isSome hvw l)) ?_
  rintro x y ⟨hx, hy⟩
  exact ⟨hx, hvw.child hx hy⟩

/-- Counterparts have parameter edges to counterparts, or none. -/
theorem Alike.rel_parameter? (h : Alike [] t u) (hvw : Counterparts [] t u v w) :
    Option.Rel (fun e f => t.parameter? v = some e ∧ u.parameter? w = some f ∧
      Counterparts [] t u e.target f.target) (t.parameter? v) (u.parameter? w) := by
  have hsome := h.child?_isSome hvw .parameter
  rw [child?, child?, Option.isSome_map, Option.isSome_map] at hsome
  refine rel_imp (rel_of_isSome_iff hsome) ?_
  rintro e f ⟨he, hf⟩
  have hx : t.child? v .parameter = some e.target := by
    rw [child?, he, Option.map_some]
  have hy : u.child? w .parameter = some f.target := by
    rw [child?, hf, Option.map_some]
  exact ⟨he, hf, hvw.child hx hy⟩

/-- Counterparts are the ends of routes with the same labels, or neither is an end. -/
theorem Alike.rel_identifier (h : Alike [] t u) (hvw : Counterparts [] t u v w) :
    Option.Rel (fun i j => ∃ ls, t.routeAt? ls = some i ∧ u.routeAt? ls = some j)
      (t.vertex v).identifier (u.vertex w).identifier := by
  have hends := Bool.eq_iff_iff.mp (h.isTerminal_eq hvw)
  obtain ⟨ls, hv, hw⟩ := hvw
  refine rel_imp (rel_of_isSome_iff hends) ?_
  rintro i j ⟨hi, hj⟩
  exact ⟨ls, (routeAt?_of_follow? hv).trans hi, (routeAt?_of_follow? hw).trans hj⟩

/-! ### Walking in step -/

section Concord
variable {decode decode' : Bool} {S : String → String → Prop} {R : Bindings → Bindings → Prop}

/-- **What two walks keep to.**  The tries look alike; literals that correspond have the
same key; and bindings that correspond do so after a capture of such literals at
counterparts. -/
structure Concord (t u : Trie ι) (decode decode' : Bool) (S : String → String → Prop)
    (R : Bindings → Bindings → Prop) : Prop where
  alike : Alike [] t u
  key_eq : ∀ {x y}, S x y → literalKey x = literalKey y
  capture : ∀ {v w e f x y b c}, Counterparts [] t u v w → t.parameter? v = some e →
    u.parameter? w = some f → S x y → R b c →
      R (b.set e.name (captureValue decode x)) (c.set f.name (captureValue decode' y))

/-- Where two walks are in step: at counterparts, with bindings that correspond. -/
def InStep (t u : Trie ι) (R : Bindings → Bindings → Prop) (x y : Nat × Bindings) : Prop :=
  Counterparts [] t u x.1 y.1 ∧ R x.2 y.2

theorem toOption_step_of_isSeparator (t : Trie ι) (decode : Bool) (v : Nat) (b : Bindings)
    {token : Path.Token} (htoken : token.isSeparator = true) :
    (t.step decode v b token).toOption = (t.next? v token).map fun w => (w, b) := by
  cases token with
  | slash | dot => dsimp only [step]; split <;> next hnext => rw [hnext]; rfl
  | literal text => cases htoken

theorem toOption_step_literal (t : Trie ι) (decode : Bool) (v : Nat) (b : Bindings)
    (text : String) :
    (t.step decode v b (.literal text)).toOption =
      ((t.next? v (.literal (literalKey text))).map fun w => (w, b)).or
        ((t.parameter? v).map fun e => (e.target, b.set e.name (captureValue decode text))) := by
  rw [step]
  cases t.next? v (.literal (literalKey text)) with
  | some w => rfl
  | none => cases t.parameter? v <;> rfl

/-- **One step of both walks.** -/
theorem Concord.step (h : Concord t u decode decode' S R) {token token' : Path.Token}
    (htoken : token.Like S token') (hvw : Counterparts [] t u v w) (hbc : R b c) :
    Option.Rel (InStep t u R) (t.step decode v b token).toOption
      (u.step decode' w c token').toOption := by
  -- An edge for a token is taken without binding anything.
  have hexact : ∀ token, Option.Rel (InStep t u R) ((t.next? v token).map fun x => (x, b))
      ((u.next? w token).map fun y => (y, c)) := fun token =>
    rel_map (h.alike.rel_child? hvw (.exact token)) fun x y hxy => ⟨hxy.2, hbc⟩
  cases htoken with
  | slash | dot =>
    rw [toOption_step_of_isSeparator _ _ _ _ rfl, toOption_step_of_isSeparator _ _ _ _ rfl]
    exact hexact _
  | literal hxy =>
    rw [toOption_step_literal, toOption_step_literal, h.key_eq hxy]
    refine rel_or (hexact _) (rel_map (h.alike.rel_parameter? hvw) ?_)
    rintro e f ⟨he, hf, htarget⟩
    exact ⟨htarget, h.capture hvw he hf hxy hbc⟩

theorem toOption_walk_cons (t : Trie ι) (decode : Bool) (v : Nat) (b : Bindings)
    (token : Path.Token) (tokens : List Path.Token) :
    (t.walk decode v b (token :: tokens)).toOption =
      (t.step decode v b token).toOption.bind fun next =>
        (t.walk decode next.1 next.2 tokens).toOption := by
  rw [walk]
  cases t.step decode v b token <;> rfl

/-- **Both walks go on in step to the end**, or both stop on the way. -/
theorem Concord.walk (h : Concord t u decode decode' S R) {tokens tokens' : List Path.Token}
    (htokens : List.Forall₂ (Path.Token.Like S) tokens tokens') (hvw : Counterparts [] t u v w)
    (hbc : R b c) :
    Option.Rel (InStep t u R) (t.walk decode v b tokens).toOption
      (u.walk decode' w c tokens').toOption := by
  induction htokens generalizing v w b c with
  | nil => exact .some ⟨hvw, hbc⟩
  | cons htoken _ ih =>
    rw [toOption_walk_cons, toOption_walk_cons]
    exact rel_bind (h.step htoken hvw hbc) fun x y hxy => ih hxy.1 hxy.2

/-- Two matches correspond: they are those of routes with the same labels, with
parameters that correspond. -/
def MatchAlike (t u : Trie ι) (R : Bindings → Bindings → Prop) (m n : Match ι) : Prop :=
  (∃ ls, t.routeAt? ls = some m.identifier ∧ u.routeAt? ls = some n.identifier) ∧
    R m.parameters n.parameters

theorem toOption_matchTokens (t : Trie ι) (decode : Bool) (tokens : List Path.Token) :
    (t.matchTokens decode tokens).toOption =
      if tokens = [] then none
      else (t.walk decode root .empty tokens).toOption.bind fun last =>
        (t.vertex last.1).identifier.map fun i => ⟨i, last.2⟩ := by
  simp only [matchTokens, List.isEmpty_iff]
  split
  · rfl
  · cases t.walk decode root .empty tokens with
    | error miss => rfl
    | ok last =>
      obtain ⟨v, b⟩ := last
      dsimp only [Except.toOption, Option.bind_some]
      cases (t.vertex v).identifier <;> rfl

/-- **Both tries match, or neither does.** -/
theorem Concord.matchTokens (h : Concord t u decode decode' S R) {tokens tokens' : List Path.Token}
    (htokens : List.Forall₂ (Path.Token.Like S) tokens tokens') (hempty : R .empty .empty) :
    Option.Rel (MatchAlike t u R) (t.matchTokens decode tokens).toOption
      (u.matchTokens decode' tokens').toOption := by
  have hnil : tokens = [] ↔ tokens' = [] := by
    rw [← List.length_eq_zero_iff, ← List.length_eq_zero_iff, htokens.length_eq]
  rw [toOption_matchTokens, toOption_matchTokens]
  by_cases htokens' : tokens' = []
  · rw [if_pos (hnil.mpr htokens'), if_pos htokens']
    exact .none
  · rw [if_neg fun heq => htokens' (hnil.mp heq), if_neg htokens']
    refine rel_bind (h.walk htokens ⟨[], rfl, rfl⟩ hempty) ?_
    rintro ⟨x, b⟩ ⟨y, c⟩ ⟨hxy, hbc⟩
    refine rel_map (h.alike.rel_identifier hxy) ?_
    exact fun i j hij => ⟨hij, hbc⟩

end Concord

/-! ### Tries with the same routes and names -/

/-- **Two tries are twins** if they have the same vertices, routes and names by their
labels: nothing but the numbers of the vertices tells them apart. -/
structure Twins (t u : Trie ι) : Prop where
  alike : Alike [] t u
  routeAt?_eq : ∀ ls, t.routeAt? ls = u.routeAt? ls
  nameAt?_eq : ∀ ls, t.nameAt? ls = u.nameAt? ls

namespace Twins
variable (h : Twins t u)
include h

/-- Counterparts have the same name for their parameter edges. -/
theorem parameterName?_eq (hvw : Counterparts [] t u v w) :
    t.parameterName? v = u.parameterName? w := by
  obtain ⟨ls, hv, hw⟩ := hvw
  have hname := h.nameAt?_eq ls
  rw [List.nil_append] at hv hw
  rwa [nameAt?, nameAt?, hv, hw, Option.bind_some, Option.bind_some] at hname

/-- **Walks over twins bind the same.** -/
theorem concord (decode : Bool) : Concord t u decode decode Eq Eq where
  alike := h.alike
  key_eq hxy := by rw [hxy]
  capture hvw he hf hxy hbc := by
    have hname := h.parameterName?_eq hvw
    rw [parameterName?, parameterName?, he, hf] at hname
    rw [Option.some.inj hname, hxy, hbc]

/-- **Twins match the same paths with the same results.** -/
theorem toOption_matchTokens_eq (decode : Bool) (tokens : List Path.Token) :
    (t.matchTokens decode tokens).toOption = (u.matchTokens decode tokens).toOption := by
  have htokens : List.Forall₂ (Path.Token.Like Eq) tokens tokens :=
    List.forall₂_same.mpr fun token _ => .refl (fun _ => rfl) token
  refine eq_of_rel ((h.concord decode).matchTokens htokens rfl) ?_
  rintro ⟨i, b⟩ ⟨j, c⟩ ⟨⟨ls, hi, hj⟩, hbc⟩
  rw [h.routeAt?_eq, hj] at hi
  exact congrArg₂ Match.mk (Option.some.inj hi).symm hbc

end Twins

/-! ### Outlines -/

/-- The text that stands for the edge with a label. -/
def edgeText (t : Trie ι) (v : Nat) : Label → String
  | .exact token => "\"" ++ token.text ++ "\""
  | .parameter => ":" ++ (t.parameterName? v).getD ""

theorem WellFormed.labelledChildren_eq (ht : t.WellFormed) (v : Nat) :
    labelledChildren (t.vertex v) = (t.vertex v).labels.filterMap fun l =>
      (t.child? v l).map fun w => (t.edgeText v l, w) := by
  rw [labelledChildren, Vertex.labels, List.filterMap_append, List.filterMap_map]
  congr 1
  · rw [← List.filterMap_eq_map]
    refine List.filterMap_congr fun e he => ?_
    have hlookup : t.child? v (.exact e.1) = some e.2 := (ht.sorted v).mem_iff_lookup.mp he
    rw [Function.comp_apply, Function.comp_apply, hlookup]
    rfl
  · cases hp : (t.vertex v).parameter with
    | none => rfl
    | some e => simp [child?, parameter?, hp, edgeText, parameterName?]

namespace Twins
variable (h : Twins t u)
include h

/-- Counterparts have the same edges in the same order, with the same texts. -/
theorem forall₂_labelledChildren (hvw : Counterparts [] t u v w) :
    List.Forall₂
      (fun x y => x.1 = y.1 ∧ (∃ l, t.child? v l = some x.2) ∧ Counterparts [] t u x.2 y.2)
      (labelledChildren (t.vertex v)) (labelledChildren (u.vertex w)) := by
  rw [h.alike.left.labelledChildren_eq, h.alike.right.labelledChildren_eq,
    h.alike.left.labels_eq h.alike.right (h.alike.child?_isSome hvw)]
  refine List.rel_filterMap (R := Eq) ?_ (List.forall₂_refl _)
  rintro l _ rfl
  have htext : t.edgeText v l = u.edgeText w l := by
    cases l with
    | exact token => rfl
    | parameter => rw [edgeText, edgeText, h.parameterName?_eq hvw]
  exact rel_map (h.alike.rel_child? hvw l) fun x y hxy => ⟨htext, ⟨l, hxy.1⟩, hxy.2⟩

/-- A line ends the same at counterparts. -/
theorem lineEnd_eq (write : ι → String) (hvw : Counterparts [] t u v w) :
    t.lineEnd write v = u.lineEnd write w := by
  obtain ⟨ls, hv, hw⟩ := hvw
  have hroute := h.routeAt?_eq ls
  rw [List.nil_append] at hv hw
  rw [routeAt?_of_follow? hv, routeAt?_of_follow? hw] at hroute
  rw [lineEnd, lineEnd, hroute]

/-- The lines below counterparts are the same. -/
theorem outlineFrom_eq (write : ι → String) (level : Nat) (hvw : Counterparts [] t u v w) :
    t.outlineFrom write level v = u.outlineFrom write level w := by
  induction v using h.alike.left.children_induction generalizing level w with
  | step v ih =>
    rw [h.alike.left.outlineFrom_eq, h.alike.right.outlineFrom_eq]
    refine congrArg String.join ?_
    rw [← List.forall₂_eq_eq_eq]
    refine List.rel_map ?_ (h.forall₂_labelledChildren hvw)
    rintro x y ⟨htext, ⟨l, hl⟩, hxy⟩
    dsimp only
    rw [htext, h.lineEnd_eq write hxy, ih l x.2 hl (level + 1) hxy]

/-- **Twins have the same outline.** -/
theorem outline_eq (write : ι → String) : t.outline write = u.outline write := by
  have hroot : Counterparts [] t u root root := ⟨[], rfl, rfl⟩
  rw [outline, outline, h.lineEnd_eq write hroot, h.outlineFrom_eq write 1 hroot]

end Twins

end Trie

namespace RouteTable
variable {ι : Type} {r r' : RouteTable ι}

/-- **Two tables match two paths with results that correspond**, or neither does. -/
theorem rel_matchPath {S : String → String → Prop} {R : Bindings → Bindings → Prop}
    (h : Trie.Concord r.trie r'.trie r.decodeParameters r'.decodeParameters S R)
    {path path' : String}
    (htokens : List.Forall₂ (Path.Token.Like S) (Path.scan path) (Path.scan path'))
    (hempty : R .empty .empty) :
    Option.Rel (Trie.MatchAlike r.trie r'.trie R) (r.matchPath path).toOption
      (r'.matchPath path').toOption :=
  h.matchTokens htokens hempty

end RouteTable
end LinkRouting
