import LinkRouting.Text.Quoted
import LinkRouting.Trie.Basic

/-!
# The trie as a record

A trie is written out in full as a record, vertex by vertex in the order in which they were made,
each with its edges and its identifier.  Texts stand in quotes.
-/

namespace LinkRouting
namespace Trie
variable {ι : Type}

/-- A record: its name, and its fields in order between braces. -/
def recordText (name : String) (fields : List (String × String)) : String :=
  name ++ " \x7b " ++ String.intercalate ", " (fields.map fun (n, v) => n ++ ": " ++ v) ++ " \x7d"

/-- A value that may be missing. -/
def optionText : Option String → String
  | none => "None"
  | some value => "Some(" ++ value ++ ")"

/-- The number of a vertex. -/
def numberText (v : Nat) : String :=
  "VertexId(" ++ toString v ++ ")"

/-- The token of an exact edge. -/
def tokenText : Path.Token → String
  | .slash => "Slash"
  | .dot => "Dot"
  | .literal text => "Literal(" ++ Text.quote text ++ ")"

/-- A vertex with its edges and its identifier. -/
def vertexText (write : ι → String) (x : Vertex ι) : String :=
  let exact := x.exact.map fun (token, v) => tokenText token ++ ": " ++ numberText v
  let parameter := x.parameter.map fun e =>
    recordText "ParameterEdge" [("name", Text.quote e.name), ("target", numberText e.target)]
  recordText "Vertex" [
    ("exact_edges", "\x7b" ++ String.intercalate ", " exact ++ "\x7d"),
    ("parameter_edge", optionText parameter),
    ("pattern_identifier", optionText (x.identifier.map write))]

/-- The whole trie. -/
def record (t : Trie ι) (write : ι → String) : String :=
  let vertices := t.vertices.toList.map (vertexText write)
  recordText "RoutingGraph" [("vertices", "[" ++ String.intercalate ", " vertices ++ "]")]

/-- Whether no vertex has more than one exact edge. -/
def isChainOfExact (t : Trie ι) : Bool :=
  t.vertices.all fun x => x.exact.length ≤ 1

end Trie
end LinkRouting
