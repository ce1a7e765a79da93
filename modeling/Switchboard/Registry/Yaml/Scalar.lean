import Switchboard.Number.Based
import Switchboard.Registry.Yaml.Sign

/-!
# Texts in YAML

The ways in which a text is written: as words without quotes, in single or in double quotes, or
as a block of lines. Each reader starts after the mark that announces the text and returns what
comes after it. Within words and quotes lines are folded: one line break is a space, and of more
the first is dropped.
-/
namespace Switchboard.Yaml

/-! ## Gaps -/

/-- What separates two words, its last character first. -/
inductive Gap where
  /-- Blanks within a line. -/
  | inLine (blanks : List Char)
  /-- The first line break, unless it is escaped, and those after it. -/
  | broken (first : Option Char) (more : List Char)
  deriving DecidableEq, Repr

namespace Gap

/-- No gap. -/
def empty : Gap := .inLine []

/-- A gap with one more character. Blanks around line breaks do not count. -/
def add (character : Char) : Gap → Gap
  | inLine blanks =>
    if isBreak character then .broken (some character) [] else .inLine (character :: blanks)
  | broken first more =>
    if isBreak character then .broken first (character :: more) else .broken first more

/-- Whether there is a line break in a gap. -/
def isBroken : Gap → Bool
  | inLine _ => false
  | broken _ _ => true

/-- What a gap stands for. -/
def folded : Gap → List Char
  | inLine blanks => blanks.reverse
  | broken (some '\n') [] => [' ']
  | broken (some '\n') more => more.reverse
  | broken first more => first.toList ++ more.reverse

end Gap

/-! ## Words without quotes -/

/-- Words without quotes, whether a line break is after them, and what comes after. They end
before a comment, before a colon that ends a word, before a mark of a document, and at a line
that is indented by less than the given columns; within brackets they also end before a bracket or
a comma. -/
def readWords (inFlow : Bool) (indentation : Nat) (gap : Gap) :
    List Sign → Option (List Char × Bool × List Sign)
  | [] => some ([], gap.isBroken, [])
  | sign :: rest =>
    let character := sign.character
    if isGap character then
      if gap.isBroken && character = '\t' && decide (sign.column < indentation) then none
      else readWords inFlow indentation (gap.add character) rest
    else if gap ≠ .empty && (character = '#' || (marker? (sign :: rest)).isSome ||
        (!inFlow && decide (sign.column < indentation))) then
      some ([], gap.isBroken, sign :: rest)
    else if inFlow && character = ':' && nextIsAmong [',', '?', '[', ']', '\x7b', '\x7d'] rest then
      none
    else if (character = ':' && wordEnds rest) ||
        (inFlow && [',', '[', ']', '\x7b', '\x7d'].contains character) then
      some ([], gap.isBroken, sign :: rest)
    else (readWords inFlow indentation .empty rest).map fun (read, after) =>
      (gap.folded ++ character :: read, after)

/-! ## Quotes -/

/-- A text in single quotes. A quote within it is written twice; `quoted` tells that the first of
the two is read. -/
def readSingle (gap : Gap) (quoted : Bool) : List Sign → Option (List Char × List Sign)
  | [] => none
  | sign :: rest =>
    let character := sign.character
    if quoted then
      (readSingle .empty false rest).map fun (read, after) => (character :: read, after)
    else if isGap character then readSingle (gap.add character) false rest
    else if (marker? (sign :: rest)).isSome then none
    else if character = '\'' then
      if nextIsAmong ['\''] rest then
        (readSingle .empty true rest).map fun (read, after) => (gap.folded ++ read, after)
      else some (gap.folded, rest)
    else (readSingle .empty false rest).map fun (read, after) =>
      (gap.folded ++ character :: read, after)

/-- The character whose number is written with the given count of hexadecimal digits. -/
def coded? (count : Nat) (signs : List Sign) : Option Char := do
  let digits ← (signs.take count).mapM fun sign => Number.hexValue? sign.character
  let code := digits.foldl (fun code digit => 16 * code + digit) 0
  if digits.length = count ∧ code.isValidChar then some (Char.ofNat code) else none

/-- The characters that have a letter of their own. -/
def namedCharacters : List (Char × Char) :=
  [('0', '\x00'), ('a', '\x07'), ('b', '\x08'), ('t', '\t'), ('\t', '\t'), ('n', '\n'),
    ('v', '\x0b'), ('f', '\x0c'), ('r', '\r'), ('e', '\x1b'), (' ', ' '), ('"', '"'), ('/', '/'),
    ('\\', '\\'), ('N', '\u0085'), ('_', '\u00a0'), ('L', '\u2028'), ('P', '\u2029')]

/-- What the characters after a backslash stand for, and how many they are. -/
def escaped? : List Sign → Option (Char × Nat)
  | [] => none
  | letter :: rest =>
    if letter.character = 'x' then (coded? 2 rest).map (·, 3)
    else if letter.character = 'u' then (coded? 4 rest).map (·, 5)
    else if letter.character = 'U' then (coded? 8 rest).map (·, 9)
    else (namedCharacters.lookup letter.character).map (·, 1)

/-- A text in double quotes; `taken` characters belong to the escape before them. A line break
after a backslash joins two lines. -/
def readDouble (gap : Gap) (taken : Nat) : List Sign → Option (List Char × List Sign)
  | [] => none
  | sign :: rest =>
    let character := sign.character
    if 0 < taken then readDouble gap (taken - 1) rest
    else if isGap character then readDouble (gap.add character) 0 rest
    else if (marker? (sign :: rest)).isSome then none
    else if character = '"' then some (gap.folded, rest)
    else if character ≠ '\\' then
      (readDouble .empty 0 rest).map fun (read, after) => (gap.folded ++ character :: read, after)
    else if rest.head?.any fun next => isBreak next.character then
      (readDouble (.broken none []) 1 rest).map fun (read, after) => (gap.folded ++ read, after)
    else match escaped? rest with
      | none => none
      | some (meant, width) =>
        (readDouble .empty width rest).map fun (read, after) => (gap.folded ++ meant :: read, after)

/-! ## Blocks -/

/-- What becomes of the line breaks at the end of a block. -/
inductive Ending where
  /-- All are dropped. -/
  | stripped
  /-- The first is kept. -/
  | clipped
  /-- All are kept. -/
  | kept
  deriving DecidableEq, Repr

/-- How a block is to be read. -/
structure BlockStyle where
  /-- Whether lines are folded. -/
  folded : Bool
  /-- What becomes of the line breaks at the end. -/
  ending : Ending
  /-- The columns by which its lines are indented. -/
  indentation : Nat
  deriving DecidableEq, Repr

/-- The ending that a plus or a minus sign asks for, and what comes after. -/
def ending? : List Sign → Option (Ending × List Sign)
  | [] => none
  | sign :: rest =>
    if sign.character = '+' then some (.kept, rest)
    else if sign.character = '-' then some (.stripped, rest)
    else none

/-- The indentation that a digit asks for, and what comes after. -/
def indentation? : List Sign → Option (Nat × List Sign)
  | [] => none
  | sign :: rest =>
    if '1' ≤ sign.character ∧ sign.character ≤ '9' then some (sign.character.toNat - 48, rest)
    else none

/-- The marks at the beginning of a block, in either order, and what comes after. -/
def blockMarks (signs : List Sign) : Ending × Option Nat × List Sign :=
  match ending? signs with
  | some (ending, rest) => match indentation? rest with
    | some (indentation, rest) => (ending, some indentation, rest)
    | none => (ending, none, rest)
  | none => match indentation? signs with
    | some (indentation, rest) => match ending? rest with
      | some (ending, rest) => (ending, some indentation, rest)
      | none => (.clipped, some indentation, rest)
    | none => (.clipped, none, signs)

/-- The signs after the end of a line on which nothing but a comment is left. -/
def afterHeader (signs : List Sign) : Option (List Sign) :=
  let rest := signs.dropWhile fun sign => isBlank sign.character
  let rest := if nextIsAmong ['#'] rest then rest.dropWhile fun sign => !isBreak sign.character
    else rest
  match rest with
  | [] => some []
  | sign :: rest => if isBreak sign.character then some rest else none

/-- The line breaks of empty lines before a line of a block, the widest indentation among them,
and what comes after. Spaces are indentation as far as it goes, which is anywhere while it is not
known. -/
def emptyLines (indentation : Option Nat) : List Sign → Option (Nat × List Char × List Sign)
  | [] => some (0, [], [])
  | sign :: rest =>
    let indents := indentation.all fun indentation => decide (sign.column < indentation)
    if indents && sign.character = ' ' then
      (emptyLines indentation rest).map fun (widest, found) =>
        (max widest (sign.column + 1), found)
    else if indents && sign.character = '\t' then none
    else if isBreak sign.character then
      (emptyLines indentation rest).map fun (widest, breaks, after) =>
        (widest, sign.character :: breaks, after)
    else some (0, [], sign :: rest)

/-- The lines of a block. `leading` is the break of the line before, `breaks` are those of the
empty lines after it, and `wasBlank` tells that the line before begins with a blank. -/
def blockLines (style : BlockStyle) :
    Nat → Option Char → List Char → Bool → List Sign → Option (List Char × List Sign)
  | 0, _, _, _, _ => none
  | fuel + 1, leading, breaks, wasBlank, signs =>
    if signs.head?.any fun sign => sign.column == style.indentation then do
      let blank := signs.head?.any fun sign => isBlank sign.character
      let joint :=
        if style.folded && leading == some '\n' && !wasBlank && !blank then
          if breaks.isEmpty then [' '] else breaks
        else leading.toList ++ breaks
      let line := signs.takeWhile fun sign => !isBreak sign.character
      let rest := signs.drop line.length
      let (_, later, next) ← emptyLines (some style.indentation) (rest.drop 1)
      let (read, after) ← blockLines style fuel (rest.head?.map Sign.character) later blank next
      some (joint ++ line.map Sign.character ++ read, after)
    else
      let kept := match style.ending with
        | .stripped => []
        | .clipped => leading.toList
        | .kept => leading.toList ++ breaks
      some (kept, signs)

/-- A block. It is indented by more than what it lies in: by as much as it says, else by as much as
its first line that is not empty, or an empty line before that, if that one is indented by more. -/
def readBlock (folded : Bool) (outer : Nat) (signs : List Sign) :
    Option (List Char × List Sign) := do
  let (ending, more, rest) := blockMarks signs
  let rest ← afterHeader rest
  let known := more.map (outer + ·)
  let (widest, breaks, rest) ← emptyLines known rest
  let style : BlockStyle := ⟨folded, ending, known.getD (max widest (outer + 1))⟩
  blockLines style (rest.length + 1) none breaks false rest

end Switchboard.Yaml
