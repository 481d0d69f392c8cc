import LinkRouting.Trie.Basic
import LinkRouting.Pattern.Plan

/-!
# Laying a pattern

`Trie.lay` carries out a plan below a vertex.  Edges are followed where they are there and made
where they are missing; at an end the vertex is marked.  Where groups begin, the vertex is marked,
and each group's body is laid in turn below **every** end that is then at or under the vertex, so
that the groups of `/a(/b)(/c)` may be taken or left independently.  The ends are collected before
the body is laid anywhere.

Groups begin only at a vertex from which nothing leads on yet.  Otherwise the ends of other routes
would be among those that the bodies are laid under, and the pattern is refused as ambiguous.
-/

namespace LinkRouting
namespace Trie

open Pattern (Plan Groups Offence)

variable {ι : Type}

mutual

/-- Lays a plan below a vertex, ends marked with the identifier. -/
def lay (identifier : ι) : Plan → Trie ι → Nat → Except Offence (Trie ι)
  | .stop, t, v => .ok (t.mark v identifier)
  | .exact token rest, t, v => lay identifier rest (t.descend v token).1 (t.descend v token).2
  | .capture name rest, t, v =>
    lay identifier rest (t.descendParameter v name).1 (t.descendParameter v name).2
  | .groups gs, t, v =>
    if (t.vertex v).isFinal then layGroups identifier gs (t.mark v identifier) v
    else .error .ambiguousGroup
  | .fault offence, _, _ => .error offence

/-- Lays groups side by side, each under all the ends that there are before it. -/
def layGroups (identifier : ι) : Groups → Trie ι → Nat → Except Offence (Trie ι)
  | .done, t, _ => .ok t
  | .group body rest, t, v => do
    let t ← (t.terminalsUnder v).foldlM (fun t w => lay identifier body t w) t
    layGroups identifier rest t v
  | .fault offence, _, _ => .error offence

end

end Trie
end LinkRouting
