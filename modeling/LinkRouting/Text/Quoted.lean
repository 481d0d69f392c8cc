import LinkRouting.Text.Printable

/-!
# Quoted text

Text is shown between double quotes with everything that could be misread written as an escape: the
quote and the backslash, line breaks, tab and NUL by a letter, and every other character that has no
picture of its own or combines with its neighbour by its number, as `\u{301}`.  Apostrophes stay.
-/

namespace LinkRouting
namespace Text

/-- The digits of a number in lower-case hexadecimal, without leading zeros. -/
def hexNumber (n : Nat) : List Char :=
  Nat.toDigits 16 n

/-- A character by its number, as `\u{301}`. -/
def numberEscape (c : Char) : List Char :=
  ['\\', 'u', '\x7b'] ++ hexNumber c.toNat ++ ['\x7d']

/-- A character as it stands between quotes. -/
def quoteChar (c : Char) : List Char :=
  match c with
  | '"' => ['\\', '"']
  | '\\' => ['\\', '\\']
  | '\n' => ['\\', 'n']
  | '\r' => ['\\', 'r']
  | '\t' => ['\\', 't']
  | '\x00' => ['\\', '0']
  | c => if isPrintable c && !isExtending c then [c] else numberEscape c

/-- A text between quotes. -/
def quote (text : String) : String :=
  String.ofList ('"' :: text.toList.flatMap quoteChar ++ ['"'])

end Text
end LinkRouting
