import Switchboard.Text.CodePoints

/-!
# Blanks and words

Templates and lines are cut at blanks. A blank is any character with the white space property,
the line breaks and the wide spaces among them; a word is a longest run of other characters.
-/
namespace Switchboard.Text

/-- Characters that separate words. -/
def blankCharacters : CodePoints := ⟨[
  (0x9, 0xd), (0x20, 0x20), (0x85, 0x85), (0xa0, 0xa0), (0x1680, 0x1680), (0x2000, 0x200a),
  (0x2028, 0x2029), (0x202f, 0x202f), (0x205f, 0x205f), (0x3000, 0x3000)]⟩

/-- Whether a character separates words. -/
def isBlank (character : Char) : Bool := blankCharacters.includes character

/-- The run of other characters before the first blank, and the words after that blank. -/
def headAndWords : List Char → List Char × List (List Char)
  | [] => ([], [])
  | character :: rest =>
    let (head, later) := headAndWords rest
    if isBlank character then ([], if head.isEmpty then later else head :: later)
    else (character :: head, later)

/-- The words of a character list, in order. -/
def wordLists (characters : List Char) : List (List Char) :=
  let (head, later) := headAndWords characters
  if head.isEmpty then later else head :: later

/-- The words of a text, in order. -/
def words (text : String) : List String := (wordLists text.toList).map String.ofList

/-- The characters without the blanks at their end. -/
def dropEndBlanks (characters : List Char) : List Char :=
  (characters.reverse.dropWhile isBlank).reverse

/-- A text without the blanks at its end. -/
def trimEnd (text : String) : String := String.ofList (dropEndBlanks text.toList)

/-- A text without the blanks at either end. -/
def trim (text : String) : String :=
  String.ofList (dropEndBlanks (text.toList.dropWhile isBlank))

end Switchboard.Text
