import LinkRouting.Pattern.Choice
import LinkRouting.Pattern.Stretch
import LinkRouting.Trie.Lay

/-!
# Laying a pattern while it is read

`Plan.ofTokens` reads a pattern, and `Trie.lay` lays what was read.  Both can be done in one go
(`Trie.compile`): each reader is given the stretch of tokens that it has to read, and the vertex
below which it lays them.  The body of a group is then read anew for each end below which it is laid.

Nothing keeps a stretch from reaching beyond the list of tokens, or from beginning in one group and
ending in another.  A `Reading` is therefore the result together with a record of all calls of
readers that were made for it, and `Call.Sound` says of a call that its stretch can be read.
-/

namespace LinkRouting
namespace Trie

open Pattern (Token Balanced Stretch Halt unexpectedAt closingParen)

/-- The readers of a pattern, by what they read first. -/
inductive Reader where
  | slash
  | dot
  | literal
  | symbol
  | star
  /-- What follows a literal or a symbol. -/
  | segment
  /-- A group, behind its `(`. -/
  | group
  deriving DecidableEq, Repr

/-- The `(` that was read right before, if it is closed in what is to be read. -/
def Reader.opening : Reader → List Token
  | .group => [.openParen]
  | _ => []

/-- A call of a reader for a stretch. -/
structure Call where
  reader : Reader
  run : Stretch
  deriving DecidableEq, Repr

/-- A call for a stretch that lies in the list of tokens and in which every group is closed.  The
`)` that it finds for a group is the one that pairs with the `(`. -/
structure Call.Sound (ts : List Token) (c : Call) : Prop where
  start_le : c.run.start ≤ c.run.stop
  stop_le : c.run.stop ≤ ts.length
  opened : c.reader.opening <:+ ts.take c.run.start
  balanced : Balanced (c.reader.opening ++ c.run.tokens ts)
  ne_closeParen : c.reader ≠ .group → c.run.peek ts ≠ some .closeParen
  closes : c.reader = .group → ∃ close, closingParen ts 0 c.run = .ok close ∧
    ts[close]? = some .closeParen ∧ Balanced (Stretch.tokens ⟨c.run.start, close⟩ ts)

/-- What reading comes to, with the calls that were made for it. -/
structure Reading (α : Type) where
  calls : List Call
  result : Except Halt α

/-- Reading has made sound calls only, and has ended with a result, at groups that are ambiguous,
or where the tokens do not go on. -/
structure Reading.Sound {α : Type} (ts : List Token) (x : Reading α) : Prop where
  calls : ∀ c ∈ x.calls, c.Sound ts
  result : (∃ a, x.result = .ok a) ∨ x.result = .error (.refused .ambiguousGroup) ∨
    ∃ before, before <+: ts ∧ x.result = .error (.refused (.unexpected (Pattern.render before)))

namespace Reading
variable {α : Type}

instance : Monad Reading where
  pure a := ⟨[], .ok a⟩
  bind x f :=
    match x.result with
    | .ok a => ⟨x.calls ++ (f a).calls, (f a).result⟩
    | .error h => ⟨x.calls, .error h⟩

/-- Reading ends here. -/
def halt (h : Halt) : Reading α :=
  ⟨[], .error h⟩

/-- What a reader that is called comes to. -/
def called (call : Call) (reading : Reading α) : Reading α :=
  ⟨call :: reading.calls, reading.result⟩

end Reading

section Readers
variable {ι : Type} (i : ι) (ts : List Token)

/-- Reads a glob, behind which the stretch has to end. -/
def readStar (t : Trie ι) (v : Nat) (name : String) (run : Stretch) : Reading (Trie ι) :=
  .called ⟨.star, run⟩ <|
    if run.start < run.stop then .halt (unexpectedAt ts run.start)
    else pure ((t.descendParameter v name).1.mark (t.descendParameter v name).2 i)

/-- The vertex at the end of the exact edges for path tokens, which are made if they are missing. -/
def descendAll (t : Trie ι) (v : Nat) (tokens : List Path.Token) : Trie ι × Nat :=
  tokens.foldl (fun at_ token => at_.1.descend at_.2 token) (t, v)

mutual

/-- Reads what follows a `/`, and lays the `/` with it. -/
def readSlash (t : Trie ι) (v : Nat) (run : Stretch) : Reading (Trie ι) :=
  .called ⟨.slash, run⟩ <|
    match _peek : run.peek ts with
    | none => pure ((t.descend v .slash).1.mark (t.descend v .slash).2 i)
    | some (.literal text) =>
      readLiteral (t.descend v .slash).1 (t.descend v .slash).2 text run.rest
    | some (.symbol name) =>
      readSymbol (t.descend v .slash).1 (t.descend v .slash).2 name run.rest
    | some (.star name) => readStar i ts (t.descend v .slash).1 (t.descend v .slash).2 name run.rest
    | some .openParen => readGroup true (t.descend v .slash).1 (t.descend v .slash).2 run.rest
    | some _ => .halt (unexpectedAt ts run.start)
termination_by (run.size, 0)
decreasing_by all_goals exact Prod.Lex.left _ _ (Stretch.size_rest_lt_of_peek _peek)

/-- Reads what follows a `.`, and lays the `.` with it. -/
def readDot (t : Trie ι) (v : Nat) (run : Stretch) : Reading (Trie ι) :=
  .called ⟨.dot, run⟩ <|
    match _peek : run.peek ts with
    | some (.literal text) => readLiteral (t.descend v .dot).1 (t.descend v .dot).2 text run.rest
    | some (.symbol name) => readSymbol (t.descend v .dot).1 (t.descend v .dot).2 name run.rest
    | _ => .halt (unexpectedAt ts run.start)
termination_by (run.size, 0)
decreasing_by all_goals exact Prod.Lex.left _ _ (Stretch.size_rest_lt_of_peek _peek)

/-- Lays a literal, and reads what follows it. -/
def readLiteral (t : Trie ι) (v : Nat) (text : String) (run : Stretch) : Reading (Trie ι) :=
  .called ⟨.literal, run⟩ <|
    readSegment (t.descendAll v (Path.scan text)).1 (t.descendAll v (Path.scan text)).2 run
termination_by (run.size, 1)
decreasing_by exact Prod.Lex.right _ Nat.zero_lt_one

/-- Lays a symbol, and reads what follows it. -/
def readSymbol (t : Trie ι) (v : Nat) (name : String) (run : Stretch) : Reading (Trie ι) :=
  .called ⟨.symbol, run⟩ <|
    readSegment (t.descendParameter v name).1 (t.descendParameter v name).2 run
termination_by (run.size, 1)
decreasing_by exact Prod.Lex.right _ Nat.zero_lt_one

/-- Reads what follows a literal or a symbol. -/
def readSegment (t : Trie ι) (v : Nat) (run : Stretch) : Reading (Trie ι) :=
  .called ⟨.segment, run⟩ <|
    match _peek : run.peek ts with
    | none => pure (t.mark v i)
    | some .slash => readSlash t v run.rest
    | some .dot => readDot t v run.rest
    | some .openParen => readGroup true t v run.rest
    | some _ => .halt (unexpectedAt ts run.start)
termination_by (run.size, 0)
decreasing_by all_goals exact Prod.Lex.left _ _ (Stretch.size_rest_lt_of_peek _peek)

/-- Reads the body of a group below one of the ends. -/
def readBody (t : Trie ι) (v : Nat) (run : Stretch) : Reading (Trie ι) :=
  match _peek : run.peek ts with
  | some .slash => readSlash t v run.rest
  | some .dot => readDot t v run.rest
  | _ => .halt (unexpectedAt ts run.start)
termination_by (run.size, 0)
decreasing_by all_goals exact Prod.Lex.left _ _ (Stretch.size_rest_lt_of_peek _peek)

/-- Reads the body of a group below all ends, unless it is empty. -/
def readBodies (t : Trie ι) (v : Nat) (run : Stretch) : Reading (Trie ι) :=
  match run.peek ts with
  | none => pure t
  | some _ => (t.terminalsUnder v).foldlM (fun u w => readBody u w run) t
termination_by (run.size, 1)
decreasing_by exact Prod.Lex.right _ Nat.zero_lt_one

/-- Reads a group behind its `(`, and the groups that follow it.  The first of them is refused where
something leads on. -/
def readGroup (first : Bool) (t : Trie ι) (v : Nat) (run : Stretch) : Reading (Trie ι) :=
  .called ⟨.group, run⟩ <|
    if first && !(t.vertex v).isFinal then .halt (.refused .ambiguousGroup)
    else
      match _close : closingParen ts 0 run with
      | .error h => .halt h
      | .ok close => do
        let laid ← readBodies (t.mark v i) v ⟨run.start, close⟩
        match Stretch.peek ⟨close + 1, run.stop⟩ ts with
        | none => pure laid
        | some .openParen => readGroup false laid v (Stretch.rest ⟨close + 1, run.stop⟩)
        | some _ => .halt (unexpectedAt ts (close + 1))
termination_by (run.size, 0)
decreasing_by
  all_goals
    obtain ⟨hle, hlt⟩ := Pattern.closingParen_bounds _close
    refine Prod.Lex.left _ _ ?_
    simp only [Stretch.size, Stretch.rest]
    omega

end

/-- Reads a whole pattern and lays it from the root. -/
def compile (t : Trie ι) : Reading (Trie ι) :=
  match ts.head? with
  | none => .halt (.refused .empty)
  | some .slash => readSlash i ts t root ⟨1, ts.length⟩
  | some _ => .halt (.refused .missingLeadingSlash)

end Readers

end Trie
end LinkRouting
