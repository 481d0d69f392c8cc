import LinkRouting.Pattern.Offence

/-!
# Events

Each operation on routes may report what happened in it.  An `Event` is one such report; it has a
level, a fixed message and named fields.  Operations do not keep a log: what is to be logged is a
function of an operation's input and its outcome.
-/

namespace LinkRouting

/-- How much an event matters. -/
inductive Level where
  | warn
  | debug
  | trace
  deriving DecidableEq, Repr

/-- The value of a field of an event. -/
inductive FieldValue where
  | text (value : String)
  | count (value : Nat)
  deriving DecidableEq, Repr

/-- What operations on routes report. -/
inductive Event where
  /-- The check refused a pattern. -/
  | patternRefused (pattern : String) (offence : Pattern.Offence)
  /-- Laying a pattern came upon a fault. -/
  | patternNotLaid (pattern : String) (offence : Pattern.Offence)
  /-- A pattern was laid in a trie that now has so many vertices. -/
  | patternRegistered (pattern : String) (vertices : Nat)
  /-- No route matches a path. -/
  | pathNotMatched (path : String)
  /-- The walk stopped at a separator. -/
  | separatorNotTaken
  /-- The walk stopped at a literal. -/
  | literalNotTaken (text : String)
  /-- A pattern's handler was replaced by another. -/
  | handlerReplaced (pattern : String)
  /-- A text is no URL. -/
  | urlNotParsed (url : String)
  /-- No route matches a URL. -/
  | urlNotMatched (url : String)
  /-- The route that matches a URL has no handler. -/
  | handlerMissing (url pattern : String)
  deriving DecidableEq, Repr

namespace Event

/-- How much each event matters. -/
def level : Event → Level
  | patternRefused .. | patternNotLaid .. => .warn
  | separatorNotTaken | literalNotTaken _ => .trace
  | _ => .debug

/-- The message of each event. -/
def message : Event → String
  | patternRefused .. => "rejected routing pattern"
  | patternNotLaid .. => "failed to compile routing pattern"
  | patternRegistered .. => "registered routing pattern"
  | pathNotMatched _ => "no route matched"
  | separatorNotTaken => "no transition for separator"
  | literalNotTaken _ => "no transition for literal"
  | handlerReplaced _ => "replacing handler"
  | urlNotParsed _ => "unparseable url"
  | urlNotMatched _ => "no route matched url"
  | handlerMissing .. => "no handler bound"

/-- The named fields of each event. -/
def fields : Event → List (String × FieldValue)
  | patternRefused pattern offence | patternNotLaid pattern offence =>
    [("pattern", .text pattern), ("error", .text offence.message)]
  | patternRegistered pattern vertices =>
    [("pattern", .text pattern), ("vertices", .count vertices)]
  | pathNotMatched path => [("path", .text path)]
  | separatorNotTaken => []
  | literalNotTaken text => [("literal", .text text)]
  | handlerReplaced pattern => [("pattern", .text pattern)]
  | urlNotParsed url | urlNotMatched url => [("url", .text url)]
  | handlerMissing url pattern => [("url", .text url), ("pattern", .text pattern)]

end Event
end LinkRouting
