import LinkRouting.Path.Label
import LinkRouting.Pattern.Token

/-!
# The routes of a pattern

Every group of a pattern may be taken or left, a group inside another only where the outer one is
taken.  Each way to do so leaves a pattern without groups (`choices`), and with it one route.

A route is a list of steps (`steps`).  A separator is one step, and so is a symbol or a glob, which
binds its name; a literal has the steps of a path of its text.  Without the names, the steps are the
route's labels (`Step.label`).
-/

namespace LinkRouting
namespace Pattern

/-- Lists of tokens in which every group is closed. -/
inductive Balanced : List Token → Prop
  | nil : Balanced []
  | cons {t : Token} {ts : List Token} :
      t ≠ .openParen → t ≠ .closeParen → Balanced ts → Balanced (t :: ts)
  | group {inner after : List Token} :
      Balanced inner → Balanced after → Balanced (.openParen :: inner ++ .closeParen :: after)

/-- The ways to go on when some ways lead to the innermost open group or, where none is open, to
this place; `before` holds the ways that lead to each open group, the innermost first. -/
def choicesFrom (before : List (List (List Token))) (ways : List (List Token)) :
    List Token → List (List Token)
  | [] => ways
  | .openParen :: ts => choicesFrom (ways :: before) [[]] ts
  | .closeParen :: ts =>
    match before with
    | [] => choicesFrom [] ways ts
    | outer :: before =>
      choicesFrom before (outer.flatMap fun way => way :: ways.map (way ++ ·)) ts
  | t :: ts => choicesFrom before (ways.map (· ++ [t])) ts

/-- The tokens that are left of a pattern when each group is taken or left, in every way. -/
def choices (ts : List Token) : List (List Token) :=
  choicesFrom [] [[]] ts

/-- The steps of a token; a parenthesis has none. -/
def Token.steps : Token → List Step
  | .slash => [.exact .slash]
  | .dot => [.exact .dot]
  | .literal text => (Path.scan text).map .exact
  | .symbol name => [.capture name]
  | .star name => [.capture name]
  | .openParen | .closeParen => []

/-- The steps of a list of tokens. -/
def steps (ts : List Token) : List Step :=
  ts.flatMap Token.steps

/-- The labels of all the routes of a pattern. -/
def routes (ts : List Token) : List (List Label) :=
  (choices ts).map fun way => (steps way).map Step.label

end Pattern
end LinkRouting
