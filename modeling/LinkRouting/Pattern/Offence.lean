import LinkRouting.Pattern.Token

/-!
# Why a pattern is refused

An `Offence` is the reason for which a routing pattern is not accepted.  Those that point at a token
carry the text of everything before it, so that a reader can find the place.  `Offence.message` is
the sentence shown to a user; names and texts stand in it as they are.
-/

namespace LinkRouting
namespace Pattern

/-- The reasons for which a pattern is refused. -/
inductive Offence where
  /-- There is no token at all. -/
  | empty
  /-- The first token is not `/`. -/
  | missingLeadingSlash
  /-- A glob stands elsewhere than after `/`. -/
  | misplacedStar (name after : String)
  /-- A symbol stands elsewhere than after `/` or `.`. -/
  | misplacedSymbol (name after : String)
  /-- A group is never closed. -/
  | unbalanced
  /-- A token, or the end, stands where the pattern cannot go on. -/
  | unexpected (after : String)
  /-- A group starts at a vertex from which routes already lead on. -/
  | ambiguousGroup
  deriving DecidableEq, Repr

namespace Offence

/-- What follows a trail of tokens, latest first, is not expected there. -/
def after (trail : List Token) : Offence :=
  .unexpected (trailText trail)

/-- The sentence that tells a user what is wrong. -/
def message : Offence → String
  | empty => "routing pattern is empty"
  | missingLeadingSlash => "routing pattern must start with '/'"
  | misplacedStar name after =>
    "globbing '*" ++ name ++ "' must follow '/' (after \"" ++ after ++ "\")"
  | misplacedSymbol name after =>
    "symbol ':" ++ name ++ "' must follow '/' or '.' (after \"" ++ after ++ "\")"
  | unbalanced => "unbalanced parenthesis in routing pattern"
  | unexpected after => "unexpected token after \"" ++ after ++ "\""
  | ambiguousGroup => "optional group is ambiguous with an already registered route"

end Offence
end Pattern
end LinkRouting
