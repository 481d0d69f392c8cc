import LinkRouting.Path.Token

/-!
# Tokens that a path can have

Only some lists of tokens are the tokens of a path.  A literal of a path is not empty and holds no
separator, and two literals never stand side by side, since they would have been one.
-/

namespace LinkRouting
namespace Path

/-- Whether the text of a literal is one that a path can have. -/
def IsLiteralText (text : String) : Prop :=
  text.toList ≠ [] ∧ '/' ∉ text.toList ∧ '.' ∉ text.toList

instance (text : String) : Decidable (IsLiteralText text) :=
  inferInstanceAs (Decidable (_ ∧ _ ∧ _))

/-- Lists of tokens that some path is cut into. -/
inductive Canonical : List Token → Prop
  | nil : Canonical []
  | slash {ts : List Token} : Canonical ts → Canonical (.slash :: ts)
  | dot {ts : List Token} : Canonical ts → Canonical (.dot :: ts)
  | last {text : String} : IsLiteralText text → Canonical [.literal text]
  | beforeSlash {text : String} {ts : List Token} :
      IsLiteralText text → Canonical (.slash :: ts) → Canonical (.literal text :: .slash :: ts)
  | beforeDot {text : String} {ts : List Token} :
      IsLiteralText text → Canonical (.dot :: ts) → Canonical (.literal text :: .dot :: ts)

end Path
end LinkRouting
