import LinkRouting.Pattern.Token

/-!
# The grammar of patterns

A pattern is `/` and a tail.  A tail is empty, or a literal or a symbol with a rest, or a glob, or
groups.  A rest is empty, or `/` with a tail, or `.` with a literal or a symbol and its rest, or
groups.  Groups are one or more, each a body in parentheses, and nothing comes after them.  A body
is empty, or `/` with a tail, or `.` with a literal or a symbol and its rest.
-/

namespace LinkRouting
namespace Pattern
namespace Grammar

mutual

/-- What may follow a `/`. -/
inductive Tail : List Token → Prop
  | nil : Tail []
  | literal {text : String} {ts : List Token} : Rest ts → Tail (.literal text :: ts)
  | symbol {name : String} {ts : List Token} : Rest ts → Tail (.symbol name :: ts)
  | star {name : String} : Tail [.star name]
  | groups {ts : List Token} : Groups ts → Tail ts

/-- What may follow a literal or a symbol. -/
inductive Rest : List Token → Prop
  | nil : Rest []
  | slash {ts : List Token} : Tail ts → Rest (.slash :: ts)
  | dot {ts : List Token} : DotTail ts → Rest (.dot :: ts)
  | groups {ts : List Token} : Groups ts → Rest ts

/-- What may follow a `.`. -/
inductive DotTail : List Token → Prop
  | literal {text : String} {ts : List Token} : Rest ts → DotTail (.literal text :: ts)
  | symbol {name : String} {ts : List Token} : Rest ts → DotTail (.symbol name :: ts)

/-- One or more groups. -/
inductive Groups : List Token → Prop
  | last {body : List Token} : Body body → Groups (.openParen :: body ++ [.closeParen])
  | cons {body ts : List Token} : Body body → Groups ts →
      Groups (.openParen :: body ++ .closeParen :: ts)

/-- What may stand in a group. -/
inductive Body : List Token → Prop
  | nil : Body []
  | slash {ts : List Token} : Tail ts → Body (.slash :: ts)
  | dot {ts : List Token} : DotTail ts → Body (.dot :: ts)

end

end Grammar

/-- The lists of tokens that are patterns. -/
inductive Grammatical : List Token → Prop
  | slash {ts : List Token} : Grammar.Tail ts → Grammatical (.slash :: ts)

end Pattern
end LinkRouting
