import LinkRouting.Text.Percent

/-!
# Numbers written in digits

A text of digits writes a number in a base of at most sixteen, the highest place first; letters of
either case are the digits past nine.  The empty text writes zero.
-/

namespace LinkRouting
namespace Text

/-- The value of a digit in bases up to sixteen. -/
def digit? (base : Nat) (c : Char) : Option Nat :=
  (Percent.hexValue? c.val.toUInt8).bind fun n => if c.toNat < 0x80 ∧ n < base then some n else none

/-- The number that digits write in a base. -/
def number? (base : Nat) (cs : List Char) : Option Nat :=
  (cs.mapM (digit? base)).map fun ds => ds.foldl (fun n d => n * base + d) 0

end Text
end LinkRouting
