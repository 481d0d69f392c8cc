import LinkRouting.Pattern.Offence

/-!
# Checking the shape of a pattern

`check` looks at a list of tokens once, from left to right, before anything is laid.  A pattern has
at least one token and starts with `/`; a glob follows `/`; a symbol follows `/` or `.`; a `)`
closes a group that is open; and no group is open at the end.  The leftmost token that breaks a rule
is the one reported, with the text before it.
-/

namespace LinkRouting
namespace Pattern

/-- Checks the tokens that are left, after those of the trail and inside `depth` open groups. -/
def checkFrom (trail : List Token) (depth : Nat) : List Token → Except Offence Unit
  | [] => if depth = 0 then .ok () else .error .unbalanced
  | t :: ts =>
    match t with
    | .star name =>
      if trail.head? = some .slash then checkFrom (t :: trail) depth ts
      else .error (.misplacedStar name (trailText trail))
    | .symbol name =>
      if trail.head? = some .slash ∨ trail.head? = some .dot then checkFrom (t :: trail) depth ts
      else .error (.misplacedSymbol name (trailText trail))
    | .openParen => checkFrom (t :: trail) (depth + 1) ts
    | .closeParen =>
      match depth with
      | 0 => .error (.after trail)
      | depth + 1 => checkFrom (t :: trail) depth ts
    | _ => checkFrom (t :: trail) depth ts

/-- Checks a whole pattern. -/
def check : List Token → Except Offence Unit
  | [] => .error .empty
  | .slash :: ts => checkFrom [.slash] 0 ts
  | _ :: _ => .error .missingLeadingSlash

end Pattern
end LinkRouting
