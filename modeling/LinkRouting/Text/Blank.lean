import LinkRouting.Text.Printable

/-!
# Blank text

The white space of Unicode (the property `White_Space`), and the texts that hold nothing else.
-/

namespace LinkRouting
namespace Text

/-- The code points of white space. -/
def blankRanges : Array (Nat × Nat) :=
  #[(0x9, 0xD), (0x20, 0x20), (0x85, 0x85), (0xA0, 0xA0), (0x1680, 0x1680), (0x2000, 0x200A),
    (0x2028, 0x2029), (0x202F, 0x202F), (0x205F, 0x205F), (0x3000, 0x3000)]

/-- Whether a character is white space. -/
def isBlank (c : Char) : Bool :=
  inRanges blankRanges c.toNat

/-- Whether a text is empty but for white space. -/
def isBlankText (text : String) : Bool :=
  text.toList.all isBlank

end Text
end LinkRouting
