import LinkRouting.Text.Numeral

/-!
# Punycode

Punycode writes any text in ASCII.  The ASCII characters of the text come first, in order, with a
`-` after them if there are any, and then for each further character a number that says which one it
is and where it stands.  The characters are taken in the order of their code points.  From one to
the next the pairs of a code point and a place in the text so far are counted through, and the
number is how many pairs are passed over.

A number is written in letters and digits that stand for 0 to 35, the lowest place first.  Each
place has a threshold, and a digit below it is the last one.  The thresholds follow from a bias,
which is fitted to the number just written (`nextBias`).
-/

namespace LinkRouting
namespace Punycode

/-- The digit that stands for a value. -/
def digitOf (n : Nat) : Char :=
  if n < 26 then Char.ofNat (0x61 + n) else Char.ofNat (0x30 + (n - 26))

/-- The value of a digit. -/
def digitValue? (c : Char) : Option Nat :=
  if c.isDigit then some (c.toNat - 0x30 + 26)
  else if c.isAlpha then some (c.toLower.toNat - 0x61)
  else none

/-- The threshold of the place of a number, counted 36, 72, 108 and so on. -/
def threshold (bias place : Nat) : Nat :=
  min 26 (max 1 (place - bias))

theorem threshold_bounds (bias place : Nat) :
    1 ≤ threshold bias place ∧ threshold bias place ≤ 26 := by
  unfold threshold; omega

/-- The share of the bias that a number's size gives. -/
def biasOf (n : Nat) : Nat :=
  if 455 < n then 36 + biasOf (n / 35) else 36 * n / (n + 38)
termination_by n
decreasing_by omega

/-- The bias after a number, when so many characters stand in the text. -/
def nextBias (isFirst : Bool) (n count : Nat) : Nat :=
  let scaled := if isFirst then n / 700 else n / 2
  biasOf (scaled + scaled / count)

/-- The digits of a number from a place on. -/
def writeNumber (bias place n : Nat) : List Char :=
  let t := threshold bias place
  if n < t then [digitOf n]
  else digitOf (t + (n - t) % (36 - t)) :: writeNumber bias (place + 36) ((n - t) / (36 - t))
termination_by n
decreasing_by
  have := threshold_bounds bias place
  exact Nat.lt_of_le_of_lt (Nat.div_le_self _ _) (by omega)

/-- Reads a number from a place on, and gives the text after it. -/
def readNumber (bias : Nat) : (place weight sum : Nat) → List Char → Option (Nat × List Char)
  | _, _, _, [] => none
  | place, weight, sum, c :: cs =>
    match digitValue? c with
    | none => none
    | some d =>
      let t := threshold bias place
      if d < t then some (sum + d * weight, cs)
      else readNumber bias (place + 36) (weight * (36 - t)) (sum + d * weight) cs

theorem readNumber_length {bias place weight sum : Nat} {cs rest : List Char} {n : Nat}
    (h : readNumber bias place weight sum cs = some (n, rest)) : rest.length < cs.length := by
  induction cs generalizing place weight sum with
  | nil => simp [readNumber] at h
  | cons c cs ih =>
    unfold readNumber at h
    split at h
    · simp at h
    · dsimp only at h
      split at h
      · simp only [Option.some.injEq, Prod.mk.injEq] at h
        simp [h.2]
      · have := ih h
        simp only [List.length_cons]
        omega

/-- How far the writing of a text has come. -/
structure Progress where
  passed : Nat
  count : Nat
  bias : Nat
  isFirst : Bool
  written : List Char

/-- Looks at one character of the text while those of one code point are written. -/
def Progress.look (code : Nat) (p : Progress) (c : Char) : Progress :=
  if c.toNat < code then { p with passed := p.passed + 1 }
  else if c.toNat = code then
    { passed := 0
      count := p.count + 1
      bias := nextBias p.isFirst p.passed (p.count + 1)
      isFirst := false
      written := p.written ++ writeNumber p.bias 36 p.passed }
  else p

/-- Writes the characters of the code points, which ascend from `next` on. -/
def writeCodes (cs : List Char) (next : Nat) (p : Progress) : List Nat → List Char
  | [] => p.written
  | code :: codes =>
    let before := { p with passed := p.passed + (code - next) * (p.count + 1) }
    let after := cs.foldl (Progress.look code) before
    writeCodes cs (code + 1) { after with passed := after.passed + 1 } codes

/-- Whether a character is ASCII. -/
def isBasic (c : Char) : Bool :=
  c.toNat < 0x80

/-- The Punycode of a text. -/
def encode (cs : List Char) : List Char :=
  let basic := cs.filter isBasic
  let codes := ((cs.filter (!isBasic ·)).map Char.toNat).mergeSort.eraseDups
  let start := if basic.isEmpty then [] else basic ++ ['-']
  writeCodes cs 0x80 ⟨0, basic.length, 72, true, start⟩ codes

/-- Reads the numbers of a Punycode text, after which `place` is the pair of `code` and 0. -/
def readCodes (done : List Char) (code position bias : Nat) (isFirst : Bool) (cs : List Char) :
    Option (List Char) :=
  if cs.isEmpty then some done
  else
    match h : readNumber bias 36 1 0 cs with
    | none => none
    | some (n, rest) =>
      let count := done.length + 1
      let passed := position + n
      let code := code + passed / count
      if code.isValidChar then
        let position := passed % count
        readCodes (done.take position ++ Char.ofNat code :: done.drop position) code (position + 1)
          (nextBias isFirst n count) false rest
      else none
termination_by cs.length
decreasing_by exact readNumber_length h

/-- The text of a Punycode. -/
def decode? (cs : List Char) : Option (List Char) :=
  let reversed := cs.reverse
  let basic := ((reversed.dropWhile (· != '-')).drop 1).reverse
  let numbers := if cs.contains '-' then (reversed.takeWhile (· != '-')).reverse else cs
  if basic.all isBasic then readCodes basic 0x80 0 72 true numbers else none

end Punycode
end LinkRouting
