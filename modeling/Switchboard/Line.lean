import Switchboard.Text.Blank

/-!
# Lines

A line is cut into tokens at blanks. A quote of either kind opens a span that runs to the next
quote of its kind, or to the end of the line; blanks in a span do not cut, the quotes themselves
are dropped, and a span joins the characters next to it. A token can be empty, if it is quoted.
-/
namespace Switchboard.Line

/-- Whether a character opens and closes spans. -/
def isQuote (character : Char) : Bool := character = '"' || character = '\x27'

/-- Where in a line a character stands. -/
inductive Place where
  | between
  | inToken
  | inSpan (quote : Char)
  deriving DecidableEq, Repr

/-- The rest of the token under way, which is empty between tokens, and the tokens after it. -/
def scan : Place → List Char → List Char × List (List Char)
  | _, [] => ([], [])
  | .between, character :: rest =>
    if isQuote character then
      let (token, later) := scan (.inSpan character) rest
      ([], token :: later)
    else if Text.isBlank character then scan .between rest
    else
      let (token, later) := scan .inToken rest
      ([], (character :: token) :: later)
  | .inToken, character :: rest =>
    if isQuote character then scan (.inSpan character) rest
    else if Text.isBlank character then ([], (scan .between rest).2)
    else
      let (token, later) := scan .inToken rest
      (character :: token, later)
  | .inSpan quote, character :: rest =>
    if character = quote then scan .inToken rest
    else
      let (token, later) := scan (.inSpan quote) rest
      (character :: token, later)

/-- The tokens of a character list. -/
def tokenLists (characters : List Char) : List (List Char) := (scan .between characters).2

/-- The tokens of a line. -/
def tokens (line : String) : List String := (tokenLists line.toList).map String.ofList

end Switchboard.Line
