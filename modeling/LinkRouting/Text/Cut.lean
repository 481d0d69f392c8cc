/-!
# Cutting text

`cutAt` cuts a text at every separator.  There is one piece more than there are separators, so that
the pieces, with the separators between them again, are the text, and a text without a separator is
one piece.
-/

namespace LinkRouting
namespace Text

/-- The pieces of a text between its separators. -/
def cutAt (isSeparator : Char → Bool) : List Char → List (List Char)
  | [] => [[]]
  | c :: cs =>
    if isSeparator c then [] :: cutAt isSeparator cs
    else
      match cutAt isSeparator cs with
      | [] => [[c]]
      | piece :: pieces => (c :: piece) :: pieces

theorem cutAt_ne_nil (isSeparator : Char → Bool) (cs : List Char) : cutAt isSeparator cs ≠ [] := by
  cases cs with
  | nil => simp [cutAt]
  | cons c cs =>
    unfold cutAt
    split
    · simp
    · split <;> simp

end Text
end LinkRouting
