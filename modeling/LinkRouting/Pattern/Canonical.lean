import LinkRouting.Pattern.Token

/-!
# Tokens that a pattern can have

Only some lists of tokens are the tokens of a pattern.  A literal, a symbol or a glob reaches to the
next `/`, `(`, `)` or `*`, so none of these stands in its text, and one of them stands after it
unless it is the last token.  A literal is not empty, and its first character is none with which
another token starts.
-/

namespace LinkRouting
namespace Pattern

/-- Whether a text can be the rest of a fragment after its first character. -/
def IsName (cs : List Char) : Prop :=
  ∀ c ∈ cs, c ≠ '/' ∧ c ≠ '(' ∧ c ≠ ')' ∧ c ≠ '*'

/-- Whether a text can be a literal: it starts as no other token does. -/
def IsLiteralText : List Char → Prop
  | [] => False
  | c :: cs => c ≠ '.' ∧ c ≠ ':' ∧ IsName (c :: cs)

/-- Whether a token's text can stand in a pattern. -/
def Token.IsWritten : Token → Prop
  | .literal text => IsLiteralText text.toList
  | .symbol name => IsName name.toList
  | .star name => IsName name.toList
  | _ => True

/-- Whether a token is a fragment, which goes on until another token ends it. -/
def Token.isFragment : Token → Bool
  | .literal _ | .symbol _ | .star _ => true
  | _ => false

/-- Whether a token ends the fragment before it. -/
def Token.endsFragment : Token → Bool
  | .slash | .openParen | .closeParen | .star _ => true
  | _ => false

/-- Lists of tokens that some pattern is cut into. -/
inductive Canonical : List Token → Prop
  | nil : Canonical []
  | last {t : Token} : t.IsWritten → Canonical [t]
  | cons {t u : Token} {ts : List Token} : t.IsWritten →
      (t.isFragment = true → u.endsFragment = true) → Canonical (u :: ts) →
      Canonical (t :: u :: ts)

end Pattern
end LinkRouting
