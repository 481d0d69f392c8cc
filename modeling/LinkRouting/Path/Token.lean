/-!
# Path tokens

A path is cut at its separators.  Every `/` and every `.` is a token of its own, and each maximal
run of other characters between them is one **literal**.  The same three kinds of value label the
exact edges of the routing trie, so that a path is matched by following its own tokens.

A `Scanner` holds the text that is still to be cut.  `Scanner.next?` takes one token off it,
`Scanner.isDone` says that nothing is left, and `Scanner.tokens` takes them all.  Nothing is lost on
the way: the texts of the tokens, joined, are the text that was scanned (`Scanner.next?_text`).

Tokens are ordered `/` first, then `.`, then the literals by their text (`Token.precedes`).
-/

namespace LinkRouting
namespace Path

/-- One piece of a path; the same values label the exact edges of the trie. -/
inductive Token where
  | slash
  | dot
  | literal (text : String)
  deriving DecidableEq, Repr

namespace Token

/-- The text a token stands for. -/
def text : Token → String
  | slash => "/"
  | dot => "."
  | literal text => text

/-- The order of edges at a vertex: `/`, then `.`, then literals by code points. -/
def precedes : Token → Token → Bool
  | slash, slash => false
  | slash, _ => true
  | dot, literal _ => true
  | dot, _ => false
  | literal s, literal t => decide (s < t)
  | literal _, _ => false

/-- The tokens in the order of `precedes`, repetitions kept. -/
def sort (tokens : List Token) : List Token :=
  tokens.mergeSort fun a b => !b.precedes a

end Token

/-- Whether a character ends a literal. -/
def isSeparator (c : Char) : Bool :=
  c == '/' || c == '.'

/-- Text that is being cut into path tokens: what is still to be read. -/
structure Scanner where
  rest : List Char
  deriving DecidableEq, Repr

namespace Scanner

/-- A scanner at the start of a text. -/
def ofText (text : String) : Scanner :=
  ⟨text.toList⟩

/-- Whether the whole text has been read. -/
def isDone (s : Scanner) : Bool :=
  s.rest.isEmpty

/-- The next token and the scanner after it; nothing at the end of the text. -/
def next? (s : Scanner) : Option (Token × Scanner) :=
  match s.rest with
  | [] => none
  | c :: r =>
    if c = '/' then some (.slash, ⟨r⟩)
    else if c = '.' then some (.dot, ⟨r⟩)
    else some (.literal (String.ofList (c :: r.takeWhile (!isSeparator ·))),
      ⟨r.dropWhile (!isSeparator ·)⟩)

/-- A token and what remains after it make up the text before it. -/
theorem next?_text {s s' : Scanner} {t : Token} (h : s.next? = some (t, s')) :
    s.rest = t.text.toList ++ s'.rest := by
  obtain ⟨rest⟩ := s
  cases rest with
  | nil => simp [next?] at h
  | cons c r =>
    simp only [next?] at h
    split at h
    · next hc => simp at h; obtain ⟨rfl, rfl⟩ := h; simp [Token.text, hc]
    · split at h
      · next hc => simp at h; obtain ⟨rfl, rfl⟩ := h; simp [Token.text, hc]
      · simp at h; obtain ⟨rfl, rfl⟩ := h; simp [Token.text]

/-- Taking a token shortens what remains. -/
theorem next?_length {s s' : Scanner} {t : Token} (h : s.next? = some (t, s')) :
    s'.rest.length < s.rest.length := by
  obtain ⟨rest⟩ := s
  cases rest with
  | nil => simp [next?] at h
  | cons c r =>
    simp only [next?] at h
    split at h
    · simp at h; obtain ⟨rfl, rfl⟩ := h; simp
    · split at h
      · simp at h; obtain ⟨rfl, rfl⟩ := h; simp
      · simp at h; obtain ⟨rfl, rfl⟩ := h
        simpa using Nat.lt_succ_of_le (List.dropWhile_sublist _).length_le

/-- All the tokens that are left. -/
def tokens (s : Scanner) : List Token :=
  match _next : s.next? with
  | none => []
  | some (t, s') => t :: s'.tokens
termination_by s.rest.length
decreasing_by exact next?_length _next

end Scanner

/-- The tokens of a path text. -/
def scan (text : String) : List Token :=
  (Scanner.ofText text).tokens

/-- The text that a list of tokens stands for. -/
def render (tokens : List Token) : String :=
  String.join (tokens.map Token.text)

end Path
end LinkRouting
