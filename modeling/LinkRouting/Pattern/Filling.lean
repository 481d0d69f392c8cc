import LinkRouting.Path.Label
import LinkRouting.Pattern.Token

/-!
# Texts for placeholders

A symbol or a glob is a **placeholder**.  When a text is chosen for each placeholder of a list of
tokens, it stands there instead, as a literal (`fill`).  What is filled has a text, and so it may be
cut into the tokens of a path.  `Taken` says what these tokens are when every label takes one of
them: its own token if it is exact, and else a literal that is the next of the texts.
-/

namespace LinkRouting
namespace Pattern

/-- Whether a token stands for a text that is not given. -/
def Token.isPlaceholder : Token → Bool
  | .symbol _ | .star _ => true
  | _ => false

/-- A list of tokens with the next of the texts in place of each placeholder. -/
def fill : List Token → List String → List Token
  | [], _ => []
  | t :: ts, texts =>
    match t.isPlaceholder, texts with
    | true, text :: texts => .literal text :: fill ts texts
    | _, _ => t :: fill ts texts

end Pattern

/-- Each label takes one token: an exact one its own, a parameter the next of the texts. -/
inductive Taken : List Label → List String → List Path.Token → Prop
  | nil : Taken [] [] []
  | exact {ls : List Label} {texts : List String} {tokens : List Path.Token}
      (token : Path.Token) : Taken ls texts tokens →
      Taken (.exact token :: ls) texts (token :: tokens)
  | parameter {ls : List Label} {texts : List String} {tokens : List Path.Token}
      (text : String) : Taken ls texts tokens →
      Taken (.parameter :: ls) (text :: texts) (.literal text :: tokens)

end LinkRouting
