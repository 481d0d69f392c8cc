import LinkRouting.Bindings
import LinkRouting.Text.Percent
import LinkRouting.Trie.Basic

/-!
# Matching a path

A path is matched token by token from the root, without going back.  A separator takes its own edge.
A literal takes the exact edge of its percent-decoded text if there is one, and otherwise the
parameter edge, which binds the literal to the edge's name.  The path is matched if a route ends
where its tokens end; the path of no tokens is never matched.

What is bound is the literal as it was written or, with decoding on, its percent-decoded text, which
is empty where the decoded bytes are not UTF-8.  Decoding never decides which edges are taken.

A path that is not matched is a `Miss`, which says where the walk stopped.
-/

namespace LinkRouting

/-- Why a path is not matched. -/
inductive Miss where
  /-- The path has no tokens. -/
  | emptyPath
  /-- No edge takes a separator. -/
  | noSeparatorEdge
  /-- No edge takes a literal. -/
  | noLiteralEdge (text : String)
  /-- No route ends where the path does. -/
  | noRouteEnds
  deriving DecidableEq, Repr

/-- A matched path: the route that ends there, and the parameters bound on the way. -/
structure Match (ι : Type) where
  identifier : ι
  parameters : Bindings
  deriving DecidableEq, Repr

namespace Trie
variable {ι : Type}

/-- The text by which a literal looks for its exact edge. -/
def literalKey (text : String) : String :=
  (Percent.decode? text).getD text

/-- The value that a literal is bound to. -/
def captureValue (decode : Bool) (text : String) : String :=
  if decode then (Percent.decode? text).getD "" else text

/-- One step of the walk: the vertex after a token, and the bindings with what the token binds. -/
def step (t : Trie ι) (decode : Bool) (v : Nat) (b : Bindings) :
    Path.Token → Except Miss (Nat × Bindings)
  | .literal text =>
    match t.next? v (.literal (literalKey text)) with
    | some w => .ok (w, b)
    | none =>
      match t.parameter? v with
      | some e => .ok (e.target, b.set e.name (captureValue decode text))
      | none => .error (.noLiteralEdge text)
  | separator =>
    match t.next? v separator with
    | some w => .ok (w, b)
    | none => .error .noSeparatorEdge

/-- The walk over all the tokens of a path. -/
def walk (t : Trie ι) (decode : Bool) (v : Nat) (b : Bindings) :
    List Path.Token → Except Miss (Nat × Bindings)
  | [] => .ok (v, b)
  | token :: tokens =>
    match t.step decode v b token with
    | .ok (w, c) => t.walk decode w c tokens
    | .error miss => .error miss

/-- Matches the tokens of a path. -/
def matchTokens (t : Trie ι) (decode : Bool) (tokens : List Path.Token) :
    Except Miss (Match ι) :=
  if tokens.isEmpty then .error .emptyPath
  else
    match t.walk decode root .empty tokens with
    | .error miss => .error miss
    | .ok (v, b) =>
      match (t.vertex v).identifier with
      | some i => .ok ⟨i, b⟩
      | none => .error .noRouteEnds

end Trie
end LinkRouting
