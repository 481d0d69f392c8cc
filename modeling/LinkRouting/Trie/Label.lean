import LinkRouting.Path.Label
import LinkRouting.Trie.Basic

/-!
# Routes as labels

Seen by its labels, a trie is a set of routes.  `follow?` goes from a vertex along edges with given
labels, whose numbers and parameter names do not matter for it, and `routeAt?` gives the identifier
of the route with given labels.  `Leads` is the same with the names.
-/

namespace LinkRouting
namespace Trie
variable {ι : Type}

/-- The vertex at the end of the edge with a label. -/
def child? (t : Trie ι) (v : Nat) : Label → Option Nat
  | .exact token => t.next? v token
  | .parameter => (t.parameter? v).map ParameterEdge.target

/-- From one vertex steps lead along edges, of which each parameter edge has the name of its step. -/
inductive Leads (t : Trie ι) : Nat → List Step → Nat → Prop
  | nil (v : Nat) : Leads t v [] v
  | exact {v w x : Nat} {token : Path.Token} {steps : List Step} :
      t.next? v token = some w → Leads t w steps x → Leads t v (.exact token :: steps) x
  | capture {v x : Nat} {e : ParameterEdge} {steps : List Step} :
      t.parameter? v = some e → Leads t e.target steps x → Leads t v (.capture e.name :: steps) x

/-- The vertex at the end of the edges with given labels. -/
def follow? (t : Trie ι) (v : Nat) : List Label → Option Nat
  | [] => some v
  | l :: ls => (t.child? v l).bind fun w => t.follow? w ls

/-- Whether a vertex has these labels on the way from the root. -/
def HasVertex (t : Trie ι) (ls : List Label) : Prop :=
  (t.follow? root ls).isSome

/-- The identifier of the route with given labels. -/
def routeAt? (t : Trie ι) (ls : List Label) : Option ι :=
  (t.follow? root ls).bind fun v => (t.vertex v).identifier

@[simp]
theorem follow?_nil (t : Trie ι) (v : Nat) : t.follow? v [] = some v := rfl

theorem follow?_append (t : Trie ι) (v : Nat) (ls ms : List Label) :
    t.follow? v (ls ++ ms) = (t.follow? v ls).bind fun w => t.follow? w ms := by
  induction ls generalizing v with
  | nil => rfl
  | cons l ls ih =>
    simp only [List.cons_append, follow?]
    cases t.child? v l with
    | none => rfl
    | some w => simp [ih]

end Trie
end LinkRouting
