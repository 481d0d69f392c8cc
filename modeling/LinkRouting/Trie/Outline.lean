import LinkRouting.Trie.Basic

/-!
# The trie as an outline

A trie is shown as an indented outline, one edge a line, each edge above what lies below it.  Exact
edges stand in quotes, in their order, and the parameter edge follows with `:` before its name.
Where a route ends, `=>` and its identifier are added to the line.  The first line stands for the
root.
-/

namespace LinkRouting
namespace Trie
variable {ι : Type}

/-- The end of a line: the identifier of the route that ends at a vertex. -/
def lineEnd (t : Trie ι) (write : ι → String) (v : Nat) : String :=
  match (t.vertex v).identifier with
  | some i => " => " ++ write i ++ "\n"
  | none => "\n"

/-- The edges of a vertex, in order, with the text that stands for each. -/
def labelledChildren (x : Vertex ι) : List (String × Nat) :=
  x.exact.map (fun e => ("\"" ++ e.1.text ++ "\"", e.2)) ++
    (x.parameter.map fun e => (":" ++ e.name, e.target)).toList

/-- The lines below a vertex, indented by two blanks a level. -/
def outlineFrom (t : Trie ι) (write : ι → String) (level v : Nat) : String :=
  String.join <| (labelledChildren (t.vertex v)).map fun (label, w) =>
    String.ofList (List.replicate (2 * level) ' ') ++ label ++ t.lineEnd write w ++
      (if _later : v < w ∧ w < t.size then t.outlineFrom write (level + 1) w else "")
termination_by t.size - v
decreasing_by omega

/-- The outline of the whole trie. -/
def outline (t : Trie ι) (write : ι → String) : String :=
  "<root>" ++ t.lineEnd write root ++ t.outlineFrom write 1 root

end Trie
end LinkRouting
