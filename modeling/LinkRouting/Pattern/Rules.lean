import LinkRouting.Pattern.Offence

/-!
# The rules for the shape of a pattern

A pattern is not empty and starts with `/`.  A glob comes right after `/`, and a symbol right after
`/` or `.`.  No `)` comes where no group is open, and in the end no group is open (`KeepsRules`).

Between the first token and the end there are three rules, and each is broken by a token, a glob, a
symbol or a `)`, because of the tokens before it (`Token.Offends`).  Of several such tokens the first
is the one that is told (`FirstOffender`), with the text before it (`Token.offence`), and that no
group may be left open is told last (`Verdict`).
-/

namespace LinkRouting
namespace Pattern

/-- Whether a token breaks a rule behind the tokens before it. -/
def Token.Offends (before : List Token) : Token → Prop
  | .star _ => before.getLast? ≠ some .slash
  | .symbol _ => before.getLast? ≠ some .slash ∧ before.getLast? ≠ some .dot
  | .closeParen => before.count .openParen ≤ before.count .closeParen
  | _ => False

/-- What is told about a token that breaks a rule. -/
def Token.offence (before : List Token) : Token → Offence
  | .star name => .misplacedStar name (render before)
  | .symbol name => .misplacedSymbol name (render before)
  | _ => .unexpected (render before)

/-- No token breaks a rule. -/
def Orderly (ts : List Token) : Prop :=
  ∀ before t, before ++ [t] <+: ts → ¬ t.Offends before

/-- A token that breaks a rule, behind tokens of which none does. -/
structure FirstOffender (ts before : List Token) (t : Token) : Prop where
  isPrefix : before ++ [t] <+: ts
  orderly : Orderly before
  offends : t.Offends before

/-- All rules for the shape of a pattern. -/
structure KeepsRules (ts : List Token) : Prop where
  head_slash : ts.head? = some .slash
  star : ∀ before name, before ++ [.star name] <+: ts → before.getLast? = some .slash
  symbol : ∀ before name, before ++ [.symbol name] <+: ts →
    before.getLast? = some .slash ∨ before.getLast? = some .dot
  noneClosed : ∀ before, before <+: ts → before.count .closeParen ≤ before.count .openParen
  noneOpen : ts.count .closeParen = ts.count .openParen

/-- What is said about the shape of a pattern. -/
inductive Verdict (ts : List Token) : Except Offence Unit → Prop
  | ok : KeepsRules ts → Verdict ts (.ok ())
  | empty : ts = [] → Verdict ts (.error .empty)
  | missingLeadingSlash : ts ≠ [] → ts.head? ≠ some .slash →
      Verdict ts (.error .missingLeadingSlash)
  | offender {before : List Token} {t : Token} : ts.head? = some .slash →
      FirstOffender ts before t → Verdict ts (.error (t.offence before))
  | unbalanced : ts.head? = some .slash → Orderly ts →
      ts.count .closeParen ≠ ts.count .openParen → Verdict ts (.error .unbalanced)

end Pattern
end LinkRouting
