import Switchboard.Text.Blank
import Switchboard.Text.LowerCase

/-!
# Fixed templates

A fixed command is described by words, as in `add user [[Name]] [[Age]]`. A line of the command
has one token for each word: keywords are compared without regard to letter case, and a slot
takes its token as it stands.
-/
namespace Switchboard

/-- A word of a fixed template. -/
inductive FixedWord where
  | literal (text : String)
  | slot (name : String)
  deriving DecidableEq, Repr

/-- The word that a text writes: a slot between double brackets, or else a keyword. -/
def FixedWord.ofText (text : String) : FixedWord :=
  match text.toList with
  | '[' :: '[' :: rest => match rest.reverse with
    | ']' :: ']' :: name => .slot (String.ofList name.reverse)
    | _ => .literal text
  | _ => .literal text

/-- The description of a fixed command, as it was written. -/
structure FixedTemplate where
  /-- The text of the template. -/
  written : String
  deriving DecidableEq, Repr

namespace FixedTemplate

/-- The text without the blanks around it. -/
def source (template : FixedTemplate) : String := Text.trim template.written

/-- The words of the template. -/
def words (template : FixedTemplate) : List FixedWord :=
  (Text.words template.written).map FixedWord.ofText

/-- The names of the slots, in order. -/
def slots (template : FixedTemplate) : List String :=
  template.words.filterMap fun word => match word with
    | .literal _ => none
    | .slot name => some name

/-- The keywords before the first slot. -/
def leadingLiterals : List FixedWord → List String
  | .literal text :: rest => text :: leadingLiterals rest
  | _ => []

/-- The keywords by which the command is told from others. -/
def keyword (template : FixedTemplate) : String :=
  " ".intercalate (leadingLiterals template.words)

/-- What the slots take when the tokens match the words one by one. -/
def matchWords : List FixedWord → List String → Option (List (String × String))
  | [], [] => some []
  | .literal text :: words, token :: tokens =>
    if Text.lowerCase text = Text.lowerCase token then matchWords words tokens else none
  | .slot name :: words, token :: tokens =>
    (matchWords words tokens).map ((name, token) :: ·)
  | _, _ => none

/-- What the slots of the template take of a line's tokens, if they match. -/
def capture (template : FixedTemplate) (tokens : List String) : Option (List (String × String)) :=
  matchWords template.words tokens

end FixedTemplate

end Switchboard
