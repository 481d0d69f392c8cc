import LinkRouting.Text.Cut
import LinkRouting.Text.Numeral

/-!
# Tables of characters

What a standard says about each of the characters is kept as a table of numbers.  A table is written
in lines, where blanks stand between the rows and colons between the numbers of a row, which are
hexadecimal.  A row starts with the code point that it is about (`at?`) or with the first and the
last one of a range (`inRange?`), and what follows is what it says.
-/

namespace LinkRouting
namespace Text

/-- Rows of numbers. -/
abbrev Table := List (List Nat)

namespace Table

/-- Reads a row; a number that cannot be read is left out. -/
def readRow (cs : List Char) : List Nat :=
  (cutAt (· == ':') cs).filterMap (number? 16)

/-- Reads a table from its lines. -/
def ofLines (lines : List String) : Table :=
  lines.flatMap fun line => (cutAt (· == ' ') line.toList).map readRow

/-- What the first row about a code point says. -/
def at? (table : Table) (n : Nat) : Option (List Nat) :=
  table.findSome? fun row =>
    match row with
    | key :: said => if key = n then some said else none
    | [] => none

/-- What the first row whose range holds a code point says. -/
def inRange? (table : Table) (n : Nat) : Option (List Nat) :=
  table.findSome? fun row =>
    match row with
    | first :: last :: said => if first ≤ n ∧ n ≤ last then some said else none
    | _ => none

end Table
end Text
end LinkRouting
