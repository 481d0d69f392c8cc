import LinkRouting.Proofs.Trie.Edges
import LinkRouting.RouteTable.History

/-! # Decoding never decides the route

The walk over a path reads no value that it has bound, and looks for a literal's edge by the decoded
text whether captures are decoded or not.  So the walk that decodes is the walk that does not, with
what it has bound decoded in the end (`Trie.walk_decode`).  A name that is bound twice makes no
difference, as its first value is decoded and replaced, or replaced and not decoded.
-/
namespace LinkRouting

namespace Bindings

/-- The same names with other values. -/
def mapValues (f : String → String) (b : Bindings) : Bindings :=
  ⟨b.entries.map fun e => (e.1, f e.2)⟩

variable (f : String → String) (b : Bindings)

@[simp]
theorem mapValues_empty : empty.mapValues f = empty := rfl

@[simp]
theorem names_mapValues : (b.mapValues f).names = b.names := by
  simp [names, mapValues]

theorem get?_mapValues (name : String) : (b.mapValues f).get? name = (b.get? name).map f := by
  obtain ⟨es⟩ := b
  rw [get?, get?, mapValues]
  induction es with
  | nil => rfl
  | cons e es ih =>
    rw [List.map_cons, lookup_cons_eq, lookup_cons_eq, ih]
    split <;> rfl

/-- A value is changed before its name is bound, or after. -/
theorem mapValues_set (name value : String) :
    (b.set name value).mapValues f = (b.mapValues f).set name (f value) := by
  obtain ⟨es⟩ := b
  rw [set, set, mapValues, mapValues]
  congr 1
  induction es with
  | nil => rfl
  | cons e es ih =>
    rw [setEntry, List.map_cons, setEntry]
    split
    · rfl
    · rw [List.map_cons, ih]

end Bindings

/-- The decoded text, or none where the decoded bytes are not UTF-8. -/
def Percent.decodeOrEmpty (text : String) : String :=
  (decode? text).getD ""

namespace Trie
open Percent (decodeOrEmpty)

variable {ι : Type} (t : Trie ι)

theorem captureValue_true (text : String) :
    captureValue true text = decodeOrEmpty (captureValue false text) := rfl

/-- **One step that decodes** is a step that does not, whose bindings are decoded. -/
theorem step_decode (v : Nat) (b : Bindings) (token : Path.Token) :
    t.step true v (b.mapValues decodeOrEmpty) token =
      (t.step false v b token).map fun next => (next.1, next.2.mapValues decodeOrEmpty) := by
  cases token with
  | slash | dot =>
    dsimp only [step]
    split <;> rfl
  | literal text =>
    rw [step, step]
    cases t.next? v (.literal (literalKey text)) with
    | some w => rfl
    | none =>
      cases t.parameter? v with
      | none => rfl
      | some e =>
        dsimp only [Except.map]
        rw [captureValue_true, Bindings.mapValues_set]

/-- **The walk that decodes** is the walk that does not, whose bindings are decoded. -/
theorem walk_decode (tokens : List Path.Token) (v : Nat) (b : Bindings) :
    t.walk true v (b.mapValues decodeOrEmpty) tokens =
      (t.walk false v b tokens).map fun last => (last.1, last.2.mapValues decodeOrEmpty) := by
  induction tokens generalizing v b with
  | nil => rfl
  | cons token tokens ih =>
    rw [walk, walk, step_decode]
    cases t.step false v b token with
    | error miss => rfl
    | ok next => exact ih next.1 next.2

theorem matchTokens_decode (tokens : List Path.Token) :
    t.matchTokens true tokens =
      (t.matchTokens false tokens).map fun m =>
        ⟨m.identifier, m.parameters.mapValues decodeOrEmpty⟩ := by
  have hwalk := t.walk_decode tokens root .empty
  rw [Bindings.mapValues_empty] at hwalk
  rw [matchTokens, matchTokens, hwalk]
  split
  · rfl
  · cases t.walk false root .empty tokens with
    | error miss => rfl
    | ok last =>
      dsimp only [Except.map]
      cases (t.vertex last.1).identifier <;> rfl

end Trie

namespace RouteTable

/-- **Decoding never decides the route.**  Whether captures are decoded or not, a path is missed for
the same reason or takes the same route, and binds the same names; and what a name is bound to is
decoded from what it is bound to without decoding, to nothing if that is not UTF-8. -/
theorem matchPath_withDecoding {ι : Type} (r : RouteTable ι) (path : String) :
    (∃ miss, (r.withDecoding true).matchPath path = .error miss ∧
      (r.withDecoding false).matchPath path = .error miss) ∨
    ∃ i decoded raw, (r.withDecoding true).matchPath path = .ok ⟨i, decoded⟩ ∧
      (r.withDecoding false).matchPath path = .ok ⟨i, raw⟩ ∧
      decoded.names = raw.names ∧
      ∀ name, decoded.get? name =
        (raw.get? name).map fun text => (Percent.decode? text).getD "" := by
  have h : (r.withDecoding true).matchPath path =
      ((r.withDecoding false).matchPath path).map fun m =>
        ⟨m.identifier, m.parameters.mapValues Percent.decodeOrEmpty⟩ :=
    r.trie.matchTokens_decode (Path.scan path)
  rw [h]
  cases (r.withDecoding false).matchPath path with
  | error miss => exact .inl ⟨miss, rfl, rfl⟩
  | ok m =>
    exact .inr ⟨m.identifier, _, m.parameters, rfl, rfl, Bindings.names_mapValues _ _,
      Bindings.get?_mapValues _ _⟩

/-- An escape that is not UTF-8 is a literal of its own, and nothing once it is decoded. -/
example : ∃ r : RouteTable Nat, r = RouteTable.empty.registerEach [("/:a", 3)] ∧
    ((r.withDecoding true).matchPath "/%FF").toOption = some ⟨3, ⟨[("a", "")]⟩⟩ ∧
    ((r.withDecoding false).matchPath "/%FF").toOption = some ⟨3, ⟨[("a", "%FF")]⟩⟩ :=
  ⟨_, rfl, by cbv, by cbv⟩

end RouteTable
end LinkRouting
