/-!
# Sets of code points

Character classes are kept as inclusive ranges of code points. A class is asked one question
only: whether a character belongs to it.
-/
namespace Switchboard.Text

/-- A set of characters, given by inclusive ranges of code points. -/
structure CodePoints where
  /-- First and last code point of each range. -/
  ranges : List (Nat × Nat)

/-- Whether a character lies in one of the ranges. -/
def CodePoints.includes (set : CodePoints) (character : Char) : Bool :=
  set.ranges.any fun range => range.1 ≤ character.toNat && character.toNat ≤ range.2

end Switchboard.Text
