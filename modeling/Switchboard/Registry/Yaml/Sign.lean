/-!
# Signs

A YAML text as characters at their places. Where a token stands tells what it means: columns make
the nesting, and a key and its colon stand on one line, not far from each other.
-/
namespace Switchboard.Yaml

/-- Whether a text may hold a character. -/
def isAllowed (character : Char) : Bool :=
  let code := character.toNat
  code = 0x9 || code = 0xa || code = 0xd || (0x20 ≤ code && code ≤ 0x7e) || code = 0x85 ||
    (0xa0 ≤ code && code ≤ 0xfffd) || 0x10000 ≤ code

/-- Whether a character ends a line. -/
def isBreak (character : Char) : Bool :=
  character = '\n' || character = '\u2028' || character = '\u2029'

/-- Whether a character is a space or a tab. -/
def isBlank (character : Char) : Bool := character = ' ' || character = '\t'

/-- Whether a character is the byte order mark. -/
def isOrderMark (character : Char) : Bool := character = '\ufeff'

/-- Whether a character separates words. -/
def isGap (character : Char) : Bool := isBlank character || isBreak character

/-- A character at its place. -/
structure Sign where
  /-- The character. -/
  character : Char
  /-- How many lines are before it. -/
  line : Nat
  /-- How many characters of its line are before it. -/
  column : Nat
  /-- How many bytes of its line are before it. -/
  offset : Nat
  deriving DecidableEq, Repr

/-- A text with one character for each line break; only the separators of lines and of
paragraphs keep theirs. -/
def unifyBreaks : List Char → List Char
  | [] => []
  | '\r' :: '\n' :: rest => '\n' :: unifyBreaks rest
  | character :: rest =>
    (if character = '\r' ∨ character = '\u0085' then '\n' else character) :: unifyBreaks rest

/-- The characters of a text at their places, the first one at the given place. -/
def placed (line column offset : Nat) : List Char → List Sign
  | [] => []
  | character :: rest => ⟨character, line, column, offset⟩ ::
    if isBreak character then placed (line + 1) 0 0 rest
    else placed line (column + 1) (offset + character.utf8Size) rest

/-- The signs of a text, unless it holds a character that it may not hold. -/
def signs? (characters : List Char) : Option (List Sign) :=
  if characters.all isAllowed then some (placed 0 0 0 (unifyBreaks characters)) else none

/-- Whether a word ends here: at a gap or at the end of the text. -/
def wordEnds (signs : List Sign) : Bool := signs.head?.all fun sign => isGap sign.character

/-- Whether the next character is among the given ones. -/
def nextIsAmong (characters : List Char) (signs : List Sign) : Bool :=
  signs.head?.any fun sign => characters.contains sign.character

/-- The character of which three in a row begin or end a document here: at the beginning of a line
and up to the end of a word. -/
def marker? : List Sign → Option Char
  | first :: second :: third :: rest =>
    if first.column = 0 && (first.character = '-' || first.character = '.') &&
      second.character = first.character && third.character = first.character && wordEnds rest
    then some first.character else none
  | _ => none

end Switchboard.Yaml
