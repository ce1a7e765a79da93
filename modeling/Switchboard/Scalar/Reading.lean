import Switchboard.Number.Numeral
import Switchboard.Scalar

/-!
# Reading scalars

The text that a switch or a slot captures becomes a value of the type of its field, or is
refused. Text is taken as it stands, a character is the only one of its text, truth values are
read in any case, and a whole number must lie in the range of its type.
-/
namespace Switchboard

/-- The truth value that a word names. -/
def readTruth (text : String) : Option Bool :=
  let word := String.ofList (text.toList.map Char.toLower)
  if word = "true" then some true
  else if word = "false" then some false
  else none

namespace ScalarType

/-- The value that a text stands for in a type. -/
def read (type : ScalarType) (text : String) : Option Scalar :=
  match type with
  | bool => (readTruth text).map .bool
  | integer width => do
    let value ← Number.readInteger text.toList
    let bound : Int := Number.twoTo (width - 1)
    if -bound ≤ value ∧ value < bound then some (.integer value) else none
  | unsigned width => do
    let value ← Number.readUnsigned text.toList
    if value < Number.twoTo width then some (.unsigned value) else none
  | float format => (Number.readBinary format text.toList).map (.float format)
  | char => match text.toList with
    | [character] => some (.char character)
    | _ => none
  | .text => some (.text text)

end ScalarType

end Switchboard
