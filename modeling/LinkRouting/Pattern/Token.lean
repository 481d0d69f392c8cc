/-!
# Pattern tokens

A routing pattern is cut into separators (`/`, `.`), parentheses and **fragments**.  A fragment is
one character that is none of those four, with everything up to the next `/`, `(`, `)` or `*`; its
first character says what it is: `:` starts the name of a symbol, `*` the name of a glob, anything
else a literal.  A `.` or a `:` inside a fragment does not end it, so `sprockets.js` is one literal
and `:a.b` one symbol.

As for paths, a `Scanner` holds the text still to be cut, and a token's text with what remains after
it is the text that was there before (`Scanner.next?_text`).
-/

namespace LinkRouting
namespace Pattern

/-- One piece of a routing pattern. -/
inductive Token where
  | slash
  | dot
  | openParen
  | closeParen
  | literal (text : String)
  | symbol (name : String)
  | star (name : String)
  deriving DecidableEq, Repr

namespace Token

/-- The text a token stands for. -/
def text : Token → String
  | slash => "/"
  | dot => "."
  | openParen => "("
  | closeParen => ")"
  | literal text => text
  | symbol name => ":" ++ name
  | star name => "*" ++ name

end Token

/-- Whether a character ends a fragment. -/
def isBoundary (c : Char) : Bool :=
  c == '/' || c == '(' || c == ')' || c == '*'

/-- The token of a fragment, by its first character and the rest of it. -/
def fragment (first : Char) (rest : List Char) : Token :=
  if first = ':' then .symbol (String.ofList rest)
  else if first = '*' then .star (String.ofList rest)
  else .literal (String.ofList (first :: rest))

theorem fragment_text (first : Char) (rest : List Char) :
    (fragment first rest).text.toList = first :: rest := by
  unfold fragment
  split
  · simp_all [Token.text]
  · split <;> simp_all [Token.text]

/-- Text that is being cut into pattern tokens: what is still to be read. -/
structure Scanner where
  rest : List Char
  deriving DecidableEq, Repr

namespace Scanner

/-- A scanner at the start of a text. -/
def ofText (text : String) : Scanner :=
  ⟨text.toList⟩

/-- Whether the whole text has been read. -/
def isDone (s : Scanner) : Bool :=
  s.rest.isEmpty

/-- The next token and the scanner after it; nothing at the end of the text. -/
def next? (s : Scanner) : Option (Token × Scanner) :=
  match s.rest with
  | [] => none
  | c :: r =>
    if c = '/' then some (.slash, ⟨r⟩)
    else if c = '.' then some (.dot, ⟨r⟩)
    else if c = '(' then some (.openParen, ⟨r⟩)
    else if c = ')' then some (.closeParen, ⟨r⟩)
    else some (fragment c (r.takeWhile (!isBoundary ·)), ⟨r.dropWhile (!isBoundary ·)⟩)

/-- A token and what remains after it make up the text before it. -/
theorem next?_text {s s' : Scanner} {t : Token} (h : s.next? = some (t, s')) :
    s.rest = t.text.toList ++ s'.rest := by
  obtain ⟨rest⟩ := s
  cases rest with
  | nil => simp [next?] at h
  | cons c r =>
    simp only [next?] at h
    repeat' split at h
    all_goals (simp only [Option.some.injEq, Prod.mk.injEq] at h; obtain ⟨rfl, rfl⟩ := h)
    case isFalse => rw [fragment_text]; simp
    all_goals simp_all [Token.text]

/-- Taking a token shortens what remains. -/
theorem next?_length {s s' : Scanner} {t : Token} (h : s.next? = some (t, s')) :
    s'.rest.length < s.rest.length := by
  obtain ⟨rest⟩ := s
  cases rest with
  | nil => simp [next?] at h
  | cons c r =>
    simp only [next?] at h
    repeat' split at h
    all_goals (simp only [Option.some.injEq, Prod.mk.injEq] at h; obtain ⟨rfl, rfl⟩ := h)
    case isFalse => exact Nat.lt_succ_of_le (List.dropWhile_sublist _).length_le
    all_goals exact Nat.lt_succ_self _

/-- All the tokens that are left. -/
def tokens (s : Scanner) : List Token :=
  match _next : s.next? with
  | none => []
  | some (t, s') => t :: s'.tokens
termination_by s.rest.length
decreasing_by exact next?_length _next

end Scanner

/-- The tokens of a pattern text. -/
def scan (text : String) : List Token :=
  (Scanner.ofText text).tokens

/-- The text that a list of tokens stands for. -/
def render (tokens : List Token) : String :=
  String.join (tokens.map Token.text)

/-- The text of the tokens read so far, which are kept latest first. -/
def trailText (trail : List Token) : String :=
  render trail.reverse

end Pattern
end LinkRouting
