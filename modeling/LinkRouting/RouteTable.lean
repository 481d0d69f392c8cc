import LinkRouting.Event
import LinkRouting.Pattern.Check
import LinkRouting.Trie.Lay
import LinkRouting.Trie.Match

/-!
# The route table

A `RouteTable` is a routing trie with the choice whether captured text is percent-decoded.  Patterns
are registered in it under identifiers, and paths are matched against it.

Registering a pattern either yields a new table or is refused, and then the table at hand is still
the one from before: nothing of a refused pattern is kept, even where laying it came far.  A
`Refusal` says whether the pattern's shape was wrong or laying it met an offence.
-/

namespace LinkRouting

/-- Why a pattern was not registered, by the stage that refused it. -/
inductive Refusal where
  /-- The shape of the pattern is wrong. -/
  | malformed (offence : Pattern.Offence)
  /-- The pattern cannot be laid in the trie. -/
  | unlaid (offence : Pattern.Offence)
  deriving DecidableEq, Repr

/-- What is wrong with the pattern. -/
def Refusal.offence : Refusal → Pattern.Offence
  | malformed offence => offence
  | unlaid offence => offence

/-- Routes, and the choice whether captures are decoded. -/
structure RouteTable (ι : Type) where
  trie : Trie ι := .empty
  decodeParameters : Bool := true
  deriving DecidableEq, Repr

namespace RouteTable
variable {ι : Type}

/-- The table of no routes. -/
def empty : RouteTable ι := {}

/-- The same routes, with captures decoded or not. -/
def withDecoding (r : RouteTable ι) (decode : Bool) : RouteTable ι :=
  { r with decodeParameters := decode }

/-- The table with a pattern's routes added under an identifier. -/
def register (r : RouteTable ι) (pattern : String) (identifier : ι) :
    Except Refusal (RouteTable ι) :=
  let tokens := Pattern.scan pattern
  match Pattern.check tokens with
  | .error offence => .error (.malformed offence)
  | .ok () =>
    match Trie.lay identifier (Pattern.Plan.ofTokens tokens) r.trie Trie.root with
    | .error offence => .error (.unlaid offence)
    | .ok trie => .ok { r with trie }

/-- What registering a pattern reports. -/
def registerEvents (pattern : String) : Except Refusal (RouteTable ι) → List Event
  | .ok r => [.patternRegistered pattern r.trie.size]
  | .error (.malformed offence) => [.patternRefused pattern offence]
  | .error (.unlaid offence) => [.patternNotLaid pattern offence]

/-- The route that a path takes. -/
def matchPath (r : RouteTable ι) (path : String) : Except Miss (Match ι) :=
  r.trie.matchTokens r.decodeParameters (Path.scan path)

/-- What a walk over the trie reports. -/
def walkEvents : Except Miss (Match ι) → List Event
  | .error .noSeparatorEdge => [.separatorNotTaken]
  | .error (.noLiteralEdge text) => [.literalNotTaken text]
  | _ => []

/-- What matching a path reports. -/
def matchEvents (path : String) (result : Except Miss (Match ι)) : List Event :=
  walkEvents result ++
    match result with
    | .ok _ => []
    | .error _ => [.pathNotMatched path]

end RouteTable
end LinkRouting
