import LinkRouting.Toml.Number
import LinkRouting.Toml.Table
import LinkRouting.Toml.Text

/-!
# TOML documents

A document is a sequence of lines: blank lines and comments, keys with their values, and headers
that say in which table the keys after them are set.  Arrays may run over several lines and end with
a comma, tables between braces may not.  Arrays and tables may stand in one another up to a depth of
`maxDepth`, and a dotted key has at most `maxDepth` parts.

`Document.read?` is the table that a text writes, or nothing where the text is not TOML.
-/

namespace LinkRouting
namespace Toml

/-- How deep values may be nested, and how many parts a key may have. -/
def maxDepth : Nat := 79

/-- The items of an array up to its `]`; the `[` or a comma was read.  There are at most as many
items as characters.  -/
def readItems (item : List Char → Option (Value × List Char)) :
    Nat → List Char → Option (List Value × List Char)
  | 0, _ => none
  | fuel + 1, cs => do
    let cs ← skipFiller cs
    match cs with
    | ']' :: r => return ([], r)
    | _ =>
      let (v, r) ← item cs
      let r ← skipFiller r
      match r with
      | ']' :: r => return ([v], r)
      | ',' :: r =>
        let (vs, r) ← readItems item fuel r
        return (v :: vs, r)
      | _ => none

/-- A key, its `=` and its value. -/
def readPair (item : List Char → Option (Value × List Char)) (cs : List Char) :
    Option ((List String × Value) × List Char) := do
  let (key, r) ← readKey maxDepth cs
  match r with
  | '=' :: r =>
    let (v, r) ← item (skipBlanks r)
    return ((key, v), r)
  | _ => none

/-- The entries of a table between braces up to its `}`; the opening brace or a comma was read. -/
def readPairs (item : List Char → Option (Value × List Char)) :
    Nat → Entries → List Char → Option (Entries × List Char)
  | 0, _, _ => none
  | fuel + 1, entries, cs => do
    let ((key, v), r) ← readPair item cs
    let entries ← Node.assign key v .header entries
    match skipBlanks r with
    | '\x7d' :: r => return (entries, r)
    | ',' :: r => readPairs item fuel entries r
    | _ => none

/-- A value in which arrays and tables are nested at most so deep. -/
def readValue : Nat → List Char → Option (Value × List Char)
  | depth, cs =>
    match cs with
    | '"' :: _ => (readString cs).map fun (s, r) => (.string s, r)
    | '\'' :: _ => (readString cs).map fun (s, r) => (.string s, r)
    | '[' :: r =>
      match depth with
      | 0 => none
      | depth + 1 =>
        (readItems (readValue depth) (r.length + 1) r).map fun (vs, r) => (.array vs, r)
    | '\x7b' :: r =>
      match depth with
      | 0 => none
      | depth + 1 =>
        match skipBlanks r with
        | '\x7d' :: r => some (.table [], r)
        | r => (readPairs (readValue depth) (r.length + 1) [] r).map fun (entries, r) =>
          (.table (Node.entriesToValues entries), r)
    | _ => readWord cs

/-- A document as far as it was read: its entries, and the header that is in force. -/
structure Document where
  entries : Entries := []
  header : List String := []

namespace Document

/-- Sets a key in the table of the header in force. -/
def assign (d : Document) (key : List String) (value : Value) : Option Document :=
  (Node.alter false (Node.assign key value) d.header .header d.entries).map fun entries =>
    { d with entries }

/-- Reads a line, and changes the document as it says. -/
def readLine (d : Document) (cs : List Char) : Option (Document × List Char) :=
  match skipBlanks cs with
  | '\n' :: r => some (d, r)
  | '\r' :: r => (newline? ('\r' :: r)).map fun r => (d, r)
  | '#' :: r => (lineEnd? ('#' :: r)).map fun r => (d, r)
  | '[' :: '[' :: r => do
    let (key, r) ← readKey maxDepth r
    match r with
    | ']' :: ']' :: r =>
      let r ← lineEnd? r
      let entries ← Node.openItem key d.entries
      return (⟨entries, key⟩, r)
    | _ => none
  | '[' :: r => do
    let (key, r) ← readKey maxDepth r
    match r with
    | ']' :: r =>
      let r ← lineEnd? r
      let entries ← Node.openTable key d.entries
      return (⟨entries, key⟩, r)
    | _ => none
  | r => do
    let ((key, v), r) ← readPair (readValue maxDepth) r
    let r ← lineEnd? r
    let d ← d.assign key v
    return (d, r)

/-- Reads line after line; there are at most as many lines as characters. -/
def readLines : Nat → Document → List Char → Option Document
  | 0, _, _ => none
  | fuel + 1, d, cs =>
    match skipBlanks cs with
    | [] => some d
    | r => (d.readLine r).bind fun (d, r) => readLines fuel d r

/-- The text without a byte order mark at its start. -/
def dropByteOrderMark : List Char → List Char
  | '\uFEFF' :: r => r
  | cs => cs

/-- The table that a text writes. -/
def read? (text : String) : Option (List (String × Value)) :=
  let cs := dropByteOrderMark text.toList
  (readLines (cs.length + 1) {} cs).map fun d => Node.entriesToValues d.entries

end Document
end Toml
end LinkRouting
