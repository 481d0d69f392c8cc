import LinkRouting.Path.Token
import LinkRouting.Pattern.Offence

/-!
# What a pattern asks to be laid

A `Plan` is the tree that a pattern's tokens describe: edges to follow or to make, captures,
optional groups side by side, and ends.  It does not depend on what routes there are already.  A
token where the pattern cannot go on becomes a `fault` at its place in the tree, so that a plan says
both what to lay and where laying stops; which of several faults is met, and whether a group is
refused before any of them, is decided by the order in which a trie lays the plan.

The grammar behind it, with `Literal`, `Symbol` and `Star` for the fragments:

* after `/`: nothing, or a literal or symbol and what follows a segment, or a glob, or groups;
* after `.`: a literal or symbol and what follows a segment;
* after a segment: nothing, or `/` or `.` and what follows them, or groups;
* in a group: nothing, or `/` or `.` and what follows them; after a group: nothing, or another.

A literal that holds dots is laid as the tokens that a path of that text has (`Plan.ofLiteral`).
-/

namespace LinkRouting
namespace Pattern

mutual

/-- What is to be laid below a vertex. -/
inductive Plan where
  /-- A route ends here. -/
  | stop
  /-- An edge that only its own token takes. -/
  | exact (token : Path.Token) (rest : Plan)
  /-- An edge that takes any literal and binds it to a name. -/
  | capture (name : String) (rest : Plan)
  /-- A route ends here, and optional groups lead on. -/
  | groups (groups : Groups)
  /-- The pattern cannot go on here. -/
  | fault (offence : Offence)

/-- Optional groups side by side. -/
inductive Groups where
  /-- There are no more groups. -/
  | done
  /-- A group, laid below every end so far, and the groups after it. -/
  | group (body : Plan) (rest : Groups)
  /-- The pattern cannot go on after the groups before. -/
  | fault (offence : Offence)

end

/-- The tokens up to the `)` that closes an open group, and those after it; `depth` counts the
groups opened inside it. -/
def closeGroup? (depth : Nat) : List Token → Option (List Token × List Token)
  | [] => none
  | .closeParen :: ts =>
    match depth with
    | 0 => some ([], ts)
    | depth + 1 => (closeGroup? depth ts).map fun (inner, after) => (.closeParen :: inner, after)
  | .openParen :: ts =>
    (closeGroup? (depth + 1) ts).map fun (inner, after) => (.openParen :: inner, after)
  | t :: ts => (closeGroup? depth ts).map fun (inner, after) => (t :: inner, after)

/-- The body of a group, its `)` and what follows are the tokens that were there. -/
theorem closeGroup?_append {depth : Nat} {ts inner after : List Token}
    (h : closeGroup? depth ts = some (inner, after)) : ts = inner ++ .closeParen :: after := by
  induction ts generalizing depth inner with
  | nil => simp [closeGroup?] at h
  | cons t ts ih =>
    unfold closeGroup? at h
    split at h
    · simp at h
    · next heq =>
      obtain ⟨rfl, rfl⟩ := heq
      split at h
      · simp at h; simp [h]
      · obtain ⟨⟨i, a⟩, hi, he⟩ := Option.map_eq_some_iff.1 h
        simp at he; obtain ⟨rfl, rfl⟩ := he
        simp [ih hi]
    · next heq =>
      obtain ⟨rfl, rfl⟩ := heq
      obtain ⟨⟨i, a⟩, hi, he⟩ := Option.map_eq_some_iff.1 h
      simp at he; obtain ⟨rfl, rfl⟩ := he
      simp [ih hi]
    · next heq =>
      obtain ⟨rfl, rfl⟩ := heq
      obtain ⟨⟨i, a⟩, hi, he⟩ := Option.map_eq_some_iff.1 h
      simp at he; obtain ⟨rfl, rfl⟩ := he
      simp [ih hi]

theorem closeGroup?_length {depth : Nat} {ts inner after : List Token}
    (h : closeGroup? depth ts = some (inner, after)) :
    inner.length < ts.length ∧ after.length < ts.length := by
  have := congrArg List.length (closeGroup?_append h)
  simp at this
  omega

/-- A literal is laid token by token, as a path of its text is read. -/
def Plan.ofLiteral (text : String) (rest : Plan) : Plan :=
  (Path.scan text).foldr Plan.exact rest

mutual

/-- The plan of what follows a `/`.  The trail holds the tokens before, latest first. -/
def afterSlash (trail : List Token) : List Token → Plan
  | [] => .stop
  | .literal text :: ts => .ofLiteral text (afterSegment (.literal text :: trail) ts)
  | .symbol name :: ts => .capture name (afterSegment (.symbol name :: trail) ts)
  | .star name :: ts =>
    .capture name (if ts.isEmpty then .stop else .fault (.after (.star name :: trail)))
  | .openParen :: ts => .groups (inGroup (.openParen :: trail) ts)
  | _ :: _ => .fault (.after trail)
termination_by ts => ts.length

/-- The plan of what follows a `.`, which has to be a literal or a symbol. -/
def afterDot (trail : List Token) : List Token → Plan
  | .literal text :: ts => .ofLiteral text (afterSegment (.literal text :: trail) ts)
  | .symbol name :: ts => .capture name (afterSegment (.symbol name :: trail) ts)
  | _ => .fault (.after trail)
termination_by ts => ts.length

/-- The plan of what follows a literal or a symbol. -/
def afterSegment (trail : List Token) : List Token → Plan
  | [] => .stop
  | .slash :: ts => .exact .slash (afterSlash (.slash :: trail) ts)
  | .dot :: ts => .exact .dot (afterDot (.dot :: trail) ts)
  | .openParen :: ts => .groups (inGroup (.openParen :: trail) ts)
  | _ :: _ => .fault (.after trail)
termination_by ts => ts.length

/-- The groups that follow a `(`: the one it opens, and those after its `)`. -/
def inGroup (trail : List Token) (ts : List Token) : Groups :=
  match _split : closeGroup? 0 ts with
  | none => .fault .unbalanced
  | some (inner, after) =>
    .group (groupBody trail inner) (afterGroup (.closeParen :: (inner.reverse ++ trail)) after)
termination_by ts.length
decreasing_by
  · exact (closeGroup?_length _split).1
  · exact (closeGroup?_length _split).2

/-- The plan of a group's body, which is empty or starts with a separator. -/
def groupBody (trail : List Token) : List Token → Plan
  | [] => .stop
  | .slash :: ts => .exact .slash (afterSlash (.slash :: trail) ts)
  | .dot :: ts => .exact .dot (afterDot (.dot :: trail) ts)
  | _ :: _ => .fault (.after trail)
termination_by ts => ts.length

/-- The groups that follow a `)`. -/
def afterGroup (trail : List Token) : List Token → Groups
  | [] => .done
  | .openParen :: ts => inGroup (.openParen :: trail) ts
  | _ :: _ => .fault (.after trail)
termination_by ts => ts.length

end

/-- The plan of a whole pattern, laid from the root. -/
def Plan.ofTokens : List Token → Plan
  | [] => .fault .empty
  | .slash :: ts => .exact .slash (afterSlash [.slash] ts)
  | _ :: _ => .fault .missingLeadingSlash

end Pattern
end LinkRouting
