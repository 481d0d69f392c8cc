import LinkRouting.Path.Token

/-!
# Steps and labels

A route is a list of steps.  A `Step` takes one token and no other, or any literal, which it binds to
a name.  A `Label` is a step without its name: two patterns that have a list of labels in common have
a route in common, under whatever names.
-/

namespace LinkRouting

/-- What is taken at one place of a route. -/
inductive Label where
  /-- This token and no other. -/
  | exact (token : Path.Token)
  /-- Any literal. -/
  | parameter
  deriving DecidableEq, Repr

/-- One step of a route. -/
inductive Step where
  /-- This token and no other. -/
  | exact (token : Path.Token)
  /-- Any literal, which is bound to a name. -/
  | capture (name : String)
  deriving DecidableEq, Repr

/-- What a step takes. -/
def Step.label : Step → Label
  | exact token => .exact token
  | capture _ => .parameter

end LinkRouting
