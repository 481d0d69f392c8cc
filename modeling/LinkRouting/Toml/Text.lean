/-!
# Blanks, strings and keys in TOML

Each reader takes the characters that are left and returns what it read with the characters after
it, or nothing where the text is not TOML.

A blank is a space or a tab; a line ends with a line feed, alone or after a carriage return.
Between quotes no control character but the tab may stand.  Text between quotation marks has
escapes, text between apostrophes has none; both may run over several lines between tripled marks,
where a line break right after the opening is dropped, and one or two marks may stand inside or
right before the closing.  A key is bare, of ASCII letters, digits, `_` and `-`, or quoted on one
line.
-/

namespace LinkRouting
namespace Toml

/-- Whether a character is a blank within a line. -/
def isBlank (c : Char) : Bool :=
  c == ' ' || c == '\t'

/-- The text after the blanks at its start. -/
def skipBlanks (cs : List Char) : List Char :=
  cs.dropWhile isBlank

/-- The text after a line break. -/
def newline? : List Char → Option (List Char)
  | '\n' :: r => some r
  | '\r' :: '\n' :: r => some r
  | _ => none

/-- Whether a character may stand in a comment: all but the control characters other than tab. -/
def isPlain (c : Char) : Bool :=
  c == '\t' || (0x20 ≤ c.toNat && c.toNat ≠ 0x7F)

/-- The text after a comment, if one starts here. -/
def skipComment : List Char → List Char
  | '#' :: r => r.dropWhile isPlain
  | cs => cs

/-- The text after the end of a line, with the blanks and the comment before it. -/
def lineEnd? (cs : List Char) : Option (List Char) :=
  match skipComment (skipBlanks cs) with
  | [] => some []
  | r => newline? r

theorem newline?_length {cs r : List Char} (h : newline? cs = some r) : r.length < cs.length := by
  unfold newline? at h
  split at h
  · rw [Option.some.inj h]; exact Nat.lt_succ_self _
  · rw [Option.some.inj h]; exact Nat.lt_succ_of_lt (Nat.lt_succ_self _)
  · exact absurd h (by simp)

/-- The text after blanks and line breaks. -/
def skipLines : List Char → List Char
  | '\r' :: '\n' :: r => skipLines r
  | c :: r => if isBlank c || c == '\n' then skipLines r else c :: r
  | [] => []

theorem skipLines_length (cs : List Char) : (skipLines cs).length ≤ cs.length := by
  fun_induction skipLines cs <;> simp_all <;> omega

/-- The text after blanks, line breaks and whole-line comments, as between the items of an array. -/
def skipFiller (cs : List Char) : Option (List Char) :=
  match _lines : skipLines cs with
  | '#' :: r =>
    match _end : newline? (r.dropWhile isPlain) with
    | some r' => skipFiller r'
    | none => none
  | r => some r
termination_by cs.length
decreasing_by
  have h1 := newline?_length _end
  have h2 := skipLines_length cs
  have h3 := (List.dropWhile_sublist isPlain (l := r)).length_le
  simp_all
  omega

/-- The value of a hexadecimal digit. -/
def hexDigit? (c : Char) : Option Nat :=
  let n := c.toNat
  if 0x30 ≤ n ∧ n ≤ 0x39 then some (n - 0x30)
  else if 0x41 ≤ n ∧ n ≤ 0x46 then some (n - 0x41 + 10)
  else if 0x61 ≤ n ∧ n ≤ 0x66 then some (n - 0x61 + 10)
  else none

/-- The character whose number the digits write; surrogates have none. -/
def charOfHex? (digits : List Char) : Option Char := do
  let ds ← digits.mapM hexDigit?
  let n := ds.foldl (fun n d => n * 16 + d) 0
  if h : n.isValidChar then some (Char.ofNatAux n h) else none

/-- What a one-letter escape stands for. -/
def escape? : Char → Option Char
  | 'b' => some '\x08'
  | 't' => some '\t'
  | 'n' => some '\n'
  | 'f' => some '\x0c'
  | 'r' => some '\r'
  | '"' => some '"'
  | '\\' => some '\\'
  | _ => none

/-- How many digits follow the letter of an escape by number. -/
def escapeDigits? : Char → Option Nat
  | 'u' => some 4
  | 'U' => some 8
  | _ => none

/-- The character an escape stands for, and the text after it; the backslash was read. -/
def readEscape : List Char → Option (Char × List Char)
  | [] => none
  | c :: r =>
    match escape? c, escapeDigits? c with
    | some e, _ => some (e, r)
    | none, some n =>
      if (r.take n).length = n then (charOfHex? (r.take n)).map fun e => (e, r.drop n) else none
    | none, none => none

theorem readEscape_length {cs r : List Char} {e : Char} (h : readEscape cs = some (e, r)) :
    r.length < cs.length := by
  unfold readEscape at h
  split at h
  · simp at h
  · next c r' =>
    split at h
    · simp at h; simp [h]
    · next n _ =>
      split at h
      · obtain ⟨_, _, hr⟩ := Option.map_eq_some_iff.1 h
        rw [← (Prod.mk.inj hr).2, List.length_drop, List.length_cons]
        omega
      · simp at h
    · simp at h

/-- The rest of a text between quotation marks; `read` holds what was read, latest first. -/
def basicString (read : List Char) : List Char → Option (String × List Char)
  | [] => none
  | '"' :: r => some (String.ofList read.reverse, r)
  | '\\' :: r =>
    match _escape : readEscape r with
    | some (e, r') => basicString (e :: read) r'
    | none => none
  | c :: r => if isPlain c then basicString (c :: read) r else none
termination_by cs => cs.length
decreasing_by
  · have := readEscape_length _escape
    simp only [List.length_cons]
    omega
  · exact Nat.lt_succ_self _

/-- The rest of a text between apostrophes. -/
def literalString (read : List Char) : List Char → Option (String × List Char)
  | [] => none
  | '\'' :: r => some (String.ofList read.reverse, r)
  | c :: r => if isPlain c then literalString (c :: read) r else none

/-- The text after an escaped line break, with the blanks and lines after it; the backslash was
read. -/
def lineContinuation? (cs : List Char) : Option (List Char) :=
  (newline? (skipBlanks cs)).map skipLines

theorem lineContinuation?_length {cs r : List Char} (h : lineContinuation? cs = some r) :
    r.length < cs.length := by
  obtain ⟨r', hr, rfl⟩ := Option.map_eq_some_iff.1 h
  have h1 := newline?_length hr
  have h2 := skipLines_length r'
  have h3 := (List.dropWhile_sublist isBlank (l := cs)).length_le
  simp only [skipBlanks] at h1
  omega

/-- The rest of a text between tripled quotation marks. -/
def basicLines (read : List Char) : List Char → Option (String × List Char)
  | [] => none
  | '"' :: '"' :: '"' :: '"' :: '"' :: r => some (String.ofList ('"' :: '"' :: read).reverse, r)
  | '"' :: '"' :: '"' :: '"' :: r => some (String.ofList ('"' :: read).reverse, r)
  | '"' :: '"' :: '"' :: r => some (String.ofList read.reverse, r)
  | '\\' :: r =>
    match _continuation : lineContinuation? r with
    | some r' => basicLines read r'
    | none =>
      match _escape : readEscape r with
      | some (e, r') => basicLines (e :: read) r'
      | none => none
  | '\r' :: '\n' :: r => basicLines ('\n' :: read) r
  | c :: r => if isPlain c || c == '\n' then basicLines (c :: read) r else none
termination_by cs => cs.length
decreasing_by
  · have := lineContinuation?_length _continuation
    simp only [List.length_cons]
    omega
  · have := readEscape_length _escape
    simp only [List.length_cons]
    omega
  · simp only [List.length_cons]
    omega
  · simp

/-- The rest of a text between tripled apostrophes. -/
def literalLines (read : List Char) : List Char → Option (String × List Char)
  | [] => none
  | '\'' :: '\'' :: '\'' :: '\'' :: '\'' :: r =>
    some (String.ofList ('\'' :: '\'' :: read).reverse, r)
  | '\'' :: '\'' :: '\'' :: '\'' :: r => some (String.ofList ('\'' :: read).reverse, r)
  | '\'' :: '\'' :: '\'' :: r => some (String.ofList read.reverse, r)
  | '\r' :: '\n' :: r => literalLines ('\n' :: read) r
  | c :: r => if isPlain c || c == '\n' then literalLines (c :: read) r else none

/-- The text without a line break at its start. -/
def dropNewline (cs : List Char) : List Char :=
  (newline? cs).getD cs

/-- A string of any of the four kinds. -/
def readString : List Char → Option (String × List Char)
  | '"' :: '"' :: '"' :: r => basicLines [] (dropNewline r)
  | '"' :: r => basicString [] r
  | '\'' :: '\'' :: '\'' :: r => literalLines [] (dropNewline r)
  | '\'' :: r => literalString [] r
  | _ => none

/-- Whether a character may stand in a bare key. -/
def isBareKeyChar (c : Char) : Bool :=
  c.isAlphanum || c == '_' || c == '-'

/-- One part of a key. -/
def readKeyPart (cs : List Char) : Option (String × List Char) :=
  match cs with
  | '"' :: r => basicString [] r
  | '\'' :: r => literalString [] r
  | _ =>
    let name := cs.takeWhile isBareKeyChar
    if name.isEmpty then none else some (String.ofList name, cs.dropWhile isBareKeyChar)

/-- A key of at most so many parts, which dots separate, with the blanks around it. -/
def readKey : Nat → List Char → Option (List String × List Char)
  | 0, _ => none
  | parts + 1, cs =>
    match readKeyPart (skipBlanks cs) with
    | none => none
    | some (name, r) =>
      match skipBlanks r with
      | '.' :: r' => (readKey parts r').map fun (names, r'') => (name :: names, r'')
      | r' => some ([name], r')

end Toml
end LinkRouting
