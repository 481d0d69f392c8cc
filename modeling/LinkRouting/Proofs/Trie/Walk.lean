import LinkRouting.Proofs.Path.Scan
import LinkRouting.Proofs.Trie.Edges
import LinkRouting.RouteTable

/-! # The walk over a path

The walk has two readings.  By vertices, it follows the edge with the label that a
vertex takes a token under (`labelAt`, `toOption_step`).  By bindings, it ends where
steps lead that fit the tokens (`Fits`), and it has bound what the captures among
them bind, in order (`walk_eq_ok`).
-/
namespace LinkRouting

namespace Bindings

/-- Of the pairs that bind a name, the last gives its value. -/
theorem get?_foldl_set (pairs : List (String × String)) (b : Bindings) (n : String) :
    (pairs.foldl (fun b p => b.set p.1 p.2) b).get? n =
      (pairs.reverse.lookup n).or (b.get? n) := by
  induction pairs generalizing b with
  | nil => rfl
  | cons p pairs ih =>
    rw [List.foldl_cons, ih, get?_set, List.reverse_cons, List.lookup_append, Option.or_assoc,
      lookup_cons_eq]
    split <;> simp

/-- So it is in the bindings of the pairs alone. -/
theorem get?_ofList (pairs : List (String × String)) (n : String) :
    (ofList pairs).get? n = pairs.reverse.lookup n := by
  rw [ofList, get?_foldl_set, get?_empty, Option.or_none]

end Bindings

/-- **Steps fit tokens**: a separator is itself, a literal has the text of the
token's key, and a capture binds the token's value. -/
inductive Fits (decode : Bool) : List Step → List Path.Token → List (String × String) → Prop
  | nil : Fits decode [] [] []
  | separator {token : Path.Token} {steps : List Step} {tokens : List Path.Token}
      {bs : List (String × String)} : token.isSeparator = true →
      Fits decode steps tokens bs → Fits decode (.exact token :: steps) (token :: tokens) bs
  | literal {text : String} {steps : List Step} {tokens : List Path.Token}
      {bs : List (String × String)} : Fits decode steps tokens bs →
      Fits decode (.exact (.literal (Trie.literalKey text)) :: steps) (.literal text :: tokens) bs
  | capture {name text : String} {steps : List Step} {tokens : List Path.Token}
      {bs : List (String × String)} : Fits decode steps tokens bs →
      Fits decode (.capture name :: steps) (.literal text :: tokens)
        ((name, Trie.captureValue decode text) :: bs)

namespace Fits
variable {decode : Bool} {steps : List Step} {tokens : List Path.Token}
  {bs : List (String × String)}

theorem length_eq (h : Fits decode steps tokens bs) : steps.length = tokens.length := by
  induction h with
  | nil => rfl
  | separator _ _ ih | literal _ ih | capture _ ih => exact congrArg Nat.succ ih

/-- The names that are bound are those of the captures. -/
theorem names_eq (h : Fits decode steps tokens bs) :
    bs.map Prod.fst = steps.filterMap Step.name? := by
  induction h with
  | nil => rfl
  | separator _ _ ih | literal _ ih => exact ih
  | capture _ ih => exact congrArg _ ih

end Fits

namespace Trie
variable {ι : Type} {t : Trie ι}

/-- The label under which a vertex takes a token. -/
def labelAt (t : Trie ι) (v : Nat) : Path.Token → Label
  | .literal text =>
    let own := Label.exact (.literal (literalKey text))
    if (t.child? v own).isSome then own else .parameter
  | separator => .exact separator

/-- A step of the walk is one along the edge with that label. -/
theorem toOption_step (decode : Bool) (v : Nat) (b : Bindings) (token : Path.Token) :
    (t.step decode v b token).toOption.map Prod.fst = t.child? v (t.labelAt v token) := by
  cases token with
  | slash | dot =>
    dsimp only [step, labelAt, child?]
    split <;> next hnext => rw [hnext]; rfl
  | literal text =>
    rw [step, labelAt]
    cases hnext : t.next? v (.literal (literalKey text)) with
    | some w =>
      rw [if_pos (by rw [child?, hnext]; rfl), child?, hnext]
      rfl
    | none =>
      rw [if_neg (by rw [child?, hnext]; exact Bool.false_ne_true), child?]
      cases t.parameter? v <;> rfl

theorem step_separator {decode : Bool} {v w : Nat} {token : Path.Token}
    (htoken : token.isSeparator = true) (hnext : t.next? v token = some w) (b : Bindings) :
    t.step decode v b token = .ok (w, b) := by
  cases token with
  | slash | dot => dsimp only [step]; rw [hnext]
  | literal text => cases htoken

/-- A step of the walk is a step that leads to its end, and fits the token. -/
theorem step_eq_ok {decode : Bool} {v w : Nat} {b c : Bindings} {token : Path.Token}
    (h : t.step decode v b token = .ok (w, c)) :
    (t.next? v token = some w ∧ token.isSeparator = true ∧ c = b) ∨
      ∃ text, token = .literal text ∧
        ((t.next? v (.literal (literalKey text)) = some w ∧ c = b) ∨
          ∃ e, t.parameter? v = some e ∧ w = e.target ∧
            c = b.set e.name (captureValue decode text)) := by
  cases token with
  | slash | dot =>
    dsimp only [step] at h
    split at h
    · next hnext => cases h; exact .inl ⟨hnext, rfl, rfl⟩
    · cases h
  | literal text =>
    refine .inr ⟨text, rfl, ?_⟩
    rw [step] at h
    split at h
    · next hnext => cases h; exact .inl ⟨hnext, rfl⟩
    · split at h
      · next e he => cases h; exact .inr ⟨e, he, rfl, rfl⟩
      · cases h

/-- **The walk ends where steps lead that fit the tokens**, and has bound what they
bind. -/
theorem walk_eq_ok {decode : Bool} {tokens : List Path.Token} {v x : Nat} {b c : Bindings}
    (h : t.walk decode v b tokens = .ok (x, c)) :
    ∃ steps bs, t.Leads v steps x ∧ Fits decode steps tokens bs ∧
      c = bs.foldl (fun b p => b.set p.1 p.2) b := by
  induction tokens generalizing v b with
  | nil =>
    cases h
    exact ⟨[], [], .nil _, .nil, rfl⟩
  | cons token tokens ih =>
    rw [walk] at h
    split at h
    · next w d hstep =>
      obtain ⟨steps, bs, hleads, hfits, hc⟩ := ih h
      rcases step_eq_ok hstep with
        ⟨hnext, hsep, rfl⟩ | ⟨text, rfl, ⟨hnext, rfl⟩ | ⟨e, he, rfl, rfl⟩⟩
      · exact ⟨_, _, .exact hnext hleads, .separator hsep hfits, hc⟩
      · exact ⟨_, _, .exact hnext hleads, .literal hfits, hc⟩
      · exact ⟨_, _, .capture he hleads, .capture hfits, hc⟩
    · cases h

end Trie

namespace RouteTable
variable {ι : Type} {r : RouteTable ι} {i : ι}

theorem toOption_matchPath_eq_some_iff {path : String} {m : Match ι} :
    (r.matchPath path).toOption = some m ↔ r.matchPath path = .ok m := by
  cases r.matchPath path <;> simp [Except.toOption]

/-- A path is matched if it is not empty and the walk over it ends at an end. -/
theorem matchPath_eq_ok_iff {path : String} {b : Bindings} :
    r.matchPath path = .ok ⟨i, b⟩ ↔
      path ≠ "" ∧ ∃ v,
        r.trie.walk r.decodeParameters Trie.root .empty (Path.scan path) = .ok (v, b) ∧
          (r.trie.vertex v).identifier = some i := by
  simp only [matchPath, Trie.matchTokens, List.isEmpty_iff, Path.scan_eq_nil_iff]
  by_cases hpath : path = ""
  · simp [hpath]
  · rw [if_neg hpath]
    cases hwalk : r.trie.walk r.decodeParameters Trie.root .empty (Path.scan path) with
    | error miss => simp
    | ok next =>
      obtain ⟨v, c⟩ := next
      cases hid : (r.trie.vertex v).identifier with
      | none => simp [hid]
      | some j => simp [hpath, hid, and_comm]

end RouteTable
end LinkRouting
