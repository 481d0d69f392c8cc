import LinkRouting.Toml.Value

/-!
# Numbers, booleans and points in time in TOML

A value that is neither quoted nor bracketed is one word, and the whole word decides what it is.
Whole numbers are decimal, with an optional sign and no needless zero in front, or hexadecimal,
octal or binary after `0x`, `0o` or `0b`; they have to fit in 64 bits.  A number with a fraction or
an exponent must not round to infinity, unless it is negative.  Between two digits there may be one
`_`.

A date is `1979-05-27`, a time `07:32:00` or `07:32:00.5`, and both together are joined by `T` or a
blank and may have an offset; the calendar is checked, and a second may be a leap second.
-/

namespace LinkRouting
namespace Toml

/-- The digits of a run that may have single `_` between digits, if the whole word is such a run. -/
def digitRun? (isDigit : Char → Bool) : List Char → Option (List Char)
  | [] => none
  | [c] => if isDigit c then some [c] else none
  | c :: '_' :: r => if isDigit c then (digitRun? isDigit r).map (c :: ·) else none
  | c :: r => if isDigit c then (digitRun? isDigit r).map (c :: ·) else none

/-- The value of a digit in bases up to sixteen. -/
def digitValue (c : Char) : Nat :=
  let n := c.toNat
  if n ≤ 0x39 then n - 0x30 else if n ≤ 0x46 then n - 0x41 + 10 else n - 0x61 + 10

/-- The number that digits write in a base. -/
def ofDigits (base : Nat) (digits : List Char) : Nat :=
  digits.foldl (fun n c => n * base + digitValue c) 0

/-- Whether a character is a hexadecimal digit. -/
def isHexDigit (c : Char) : Bool :=
  c.isDigit || ('a' ≤ c && c ≤ 'f') || ('A' ≤ c && c ≤ 'F')

/-- The digits of a decimal number without a needless zero in front. -/
def decimal? (cs : List Char) : Option (List Char) :=
  match cs with
  | ['0'] => some ['0']
  | '0' :: _ => none
  | _ => digitRun? Char.isDigit cs

/-- Whether the number has a sign that makes it negative, and the text after the sign. -/
def splitSign : List Char → Bool × List Char
  | '-' :: r => (true, r)
  | '+' :: r => (false, r)
  | cs => (false, cs)

/-- A whole number that fits in 64 bits. -/
def fit64? (n : Int) : Option Int :=
  if -0x8000000000000000 ≤ n ∧ n < 0x8000000000000000 then some n else none

/-- The whole number that a word writes. -/
def integer? : List Char → Option Int
  | '0' :: 'x' :: r => (digitRun? isHexDigit r).bind fun ds => fit64? (ofDigits 16 ds)
  | '0' :: 'o' :: r =>
    (digitRun? (fun c => '0' ≤ c && c ≤ '7') r).bind fun ds => fit64? (ofDigits 8 ds)
  | '0' :: 'b' :: r =>
    (digitRun? (fun c => c == '0' || c == '1') r).bind fun ds => fit64? (ofDigits 2 ds)
  | cs =>
    let (negative, r) := splitSign cs
    (decimal? r).bind fun ds =>
      fit64? (if negative then -(ofDigits 10 ds : Int) else ofDigits 10 ds)

/-- The exponent of a number, after its `e`. -/
def exponent? (cs : List Char) : Option Int :=
  let (negative, r) := splitSign cs
  (digitRun? Char.isDigit r).map fun ds =>
    if negative then -(ofDigits 10 ds : Int) else ofDigits 10 ds

/-- Whether `digits · 10^exponent` is too large for a double, that is, rounds to infinity.  Half a
unit beyond the largest double it does, and powers of ten far from there need no computing.  -/
def roundsToInfinity (digits : List Char) (exponent : Int) : Bool :=
  let significant := digits.dropWhile (· == '0')
  let magnitude := (significant.length : Int) + exponent
  if significant.isEmpty || magnitude < 300 then false
  else if magnitude > 320 then true
  else
    let bound := Nat.pow 2 1024 - Nat.pow 2 970
    if exponent ≥ 0 then ofDigits 10 digits * Nat.pow 10 exponent.toNat ≥ bound
    else ofDigits 10 digits ≥ bound * Nat.pow 10 (-exponent).toNat

/-- Whether a word writes a number with a fraction or an exponent, or `inf` or `nan`. -/
def isFloat (cs : List Char) : Bool :=
  let (negative, r) := splitSign cs
  if r == ['i', 'n', 'f'] || r == ['n', 'a', 'n'] then true
  else
    let isMark := fun c => c == 'e' || c == 'E'
    let mantissa := r.takeWhile (!isMark ·)
    let exponent := r.dropWhile (!isMark ·)
    let whole := mantissa.takeWhile (· != '.')
    let fraction := mantissa.dropWhile (· != '.')
    if exponent.isEmpty && fraction.isEmpty then false
    else
      match decimal? whole,
          (if fraction.isEmpty then some [] else digitRun? Char.isDigit (fraction.drop 1)),
          (if exponent.isEmpty then some 0 else exponent? (exponent.drop 1)) with
      | some w, some f, some e => negative || !roundsToInfinity (w ++ f) (e - f.length)
      | _, _, _ => false

/-- A number of exactly so many digits. -/
def fixedDigits? (n : Nat) (cs : List Char) : Option Nat :=
  if cs.length = n && cs.all Char.isDigit then some (ofDigits 10 cs) else none

/-- The number of days in a month. -/
def daysInMonth (year month : Nat) : Nat :=
  if month = 2 then
    if year % 4 = 0 ∧ (year % 100 ≠ 0 ∨ year % 400 = 0) then 29 else 28
  else if month = 4 ∨ month = 6 ∨ month = 9 ∨ month = 11 then 30
  else 31

/-- Whether a word is a date of the calendar. -/
def isDate (cs : List Char) : Bool :=
  match cs with
  | [y1, y2, y3, y4, '-', m1, m2, '-', d1, d2] =>
    match fixedDigits? 4 [y1, y2, y3, y4], fixedDigits? 2 [m1, m2], fixedDigits? 2 [d1, d2] with
    | some year, some month, some day =>
      1 ≤ month && month ≤ 12 && 1 ≤ day && day ≤ daysInMonth year month
    | _, _, _ => false
  | _ => false

/-- The text after the hour and the minute at its start. -/
def afterMinute? : List Char → Option (List Char)
  | h1 :: h2 :: ':' :: m1 :: m2 :: r =>
    match fixedDigits? 2 [h1, h2], fixedDigits? 2 [m1, m2] with
    | some hour, some minute => if hour ≤ 23 ∧ minute ≤ 59 then some r else none
    | _, _ => none
  | _ => none

/-- The text after the time of day at its start. -/
def afterTime? (cs : List Char) : Option (List Char) :=
  match afterMinute? cs with
  | some (':' :: s1 :: s2 :: r) =>
    match fixedDigits? 2 [s1, s2] with
    | some second =>
      if second ≤ 60 then
        match r with
        | '.' :: f =>
          if (f.takeWhile Char.isDigit).isEmpty then none else some (f.dropWhile Char.isDigit)
        | _ => some r
      else none
    | none => none
  | _ => none

/-- Whether a text is the offset of a time, or none. -/
def isOffset : List Char → Bool
  | [] => true
  | ['Z'] => true
  | ['z'] => true
  | '+' :: r => afterMinute? r == some []
  | '-' :: r => afterMinute? r == some []
  | _ => false

/-- Whether a word is a date, a time, or both with or without an offset. -/
def isDatetime (cs : List Char) : Bool :=
  isDate cs || afterTime? cs == some [] ||
    match cs.drop 10 with
    | mark :: time =>
      isDate (cs.take 10) && (mark == 'T' || mark == 't' || mark == ' ') &&
        ((afterTime? time).map isOffset).getD false
    | [] => false

/-- The value that a whole word writes. -/
def word? (cs : List Char) : Option Value :=
  if cs == ['t', 'r', 'u', 'e'] then some (.boolean true)
  else if cs == ['f', 'a', 'l', 's', 'e'] then some (.boolean false)
  else if isDatetime cs then some (.datetime (String.ofList cs))
  else if isFloat cs then some (.float (String.ofList cs))
  else (integer? cs).map .integer

/-- Whether a character may stand in a word. -/
def isWordChar (c : Char) : Bool :=
  c.isAlphanum || c == '_' || c == '+' || c == '-' || c == '.' || c == ':'

/-- Reads a word and its value.  A blank between a date and a digit belongs to the word. -/
def readWord (cs : List Char) : Option (Value × List Char) :=
  let word := cs.takeWhile isWordChar
  let rest := cs.dropWhile isWordChar
  match rest with
  | ' ' :: d :: r =>
    if isDate word && d.isDigit then
      let time := (d :: r).takeWhile isWordChar
      (word? (word ++ ' ' :: time)).map fun v => (v, (d :: r).dropWhile isWordChar)
    else (word? word).map fun v => (v, rest)
  | _ => (word? word).map fun v => (v, rest)

end Toml
end LinkRouting
