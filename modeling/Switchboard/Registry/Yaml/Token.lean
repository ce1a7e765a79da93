import Switchboard.Registry.Document
import Switchboard.Registry.Yaml.Property

/-!
# Tokens

A YAML text as tokens. Blocks, which are lists and tables that are written by indentation, have
tokens at their beginning and at their end like those in brackets. That something is a key is
known only when its colon is read; the tokens that say so are put in before it then.
-/
namespace Switchboard.Yaml

/-- A token. -/
inductive Token where
  /-- The mark before a document. -/
  | beginDocument
  /-- The mark after a document. -/
  | endDocument
  /-- The beginning of a list whose items are indented. -/
  | beginBlockList
  /-- The beginning of a table whose keys are indented. -/
  | beginBlockTable
  /-- The end of a block. -/
  | endBlock
  /-- The bracket before a list. -/
  | openList
  /-- The bracket after a list. -/
  | closeList
  /-- The brace before a table. -/
  | openTable
  /-- The brace after a table. -/
  | closeTable
  /-- What separates items and entries in brackets. -/
  | comma
  /-- The dash before an item. -/
  | item
  /-- A key comes. -/
  | key
  /-- The value of a key comes. -/
  | value
  /-- What the next document says of tags or of the language. -/
  | directive (directive : Directive)
  /-- The name of what comes. -/
  | anchor (name : String)
  /-- The tag of what comes. -/
  | tag (written : WrittenTag)
  /-- What has a name. -/
  | reference (name : String)
  /-- A scalar. -/
  | scalar (manner : Manner) (value : String)
  deriving DecidableEq, Repr

/-- A token that is a key if a colon comes after it. -/
structure Candidate where
  /-- How many tokens are before it. -/
  token : Nat
  /-- Where it begins. -/
  place : Sign
  /-- Whether it can be nothing but a key. -/
  required : Bool

/-- How many bytes can stand between the beginning of a key and its colon. -/
def greatestKeyWidth : Nat := 1024

/-- Whether it is too late for the colon of a key: a key is on one line, and it is short. -/
def Candidate.isPast (candidate : Candidate) (sign : Sign) : Bool :=
  candidate.place.line < sign.line ||
    candidate.place.offset + greatestKeyWidth < sign.offset

/-- The beginning of a text in tokens. -/
structure Outline where
  /-- The tokens, each at the end of those that are put in before it. -/
  tokens : Array (List Token)
  /-- The columns of the blocks that are open, the innermost first. -/
  blocks : List Nat
  /-- Whether a key may begin here. -/
  keyAllowed : Bool
  /-- The token that may be a key here. -/
  candidate : Option Candidate
  /-- The tokens that may be keys around each open bracket, the innermost first. -/
  outer : List (Option Candidate)

namespace Outline

/-- The outline of no text. -/
def empty : Outline := ⟨#[], [], true, none, []⟩

/-- Whether a bracket is open. Indentation counts for nothing then. -/
def inFlow (outline : Outline) : Bool := !outline.outer.isEmpty

/-- An outline with one more token; then a key may begin or not. -/
def push (outline : Outline) (token : Token) (keyAllowed : Bool) : Outline :=
  { outline with tokens := outline.tokens.push [token], keyAllowed }

/-! ## Blocks -/

/-- Whether a column lies within the innermost block. -/
def isIndented (outline : Outline) (column : Nat) : Bool :=
  outline.blocks.head?.all fun block => block < column

/-- Begin a block at a column, unless one that begins there is open. -/
def enter (outline : Outline) (column : Nat) (beginning : Token) : Outline :=
  if !outline.inFlow && outline.isIndented column then
    { outline with
      tokens := outline.tokens.push [beginning]
      blocks := column :: outline.blocks }
  else outline

/-- End the innermost blocks while they satisfy a condition. -/
def leave (outline : Outline) (ends : Nat → Bool) : Outline :=
  if outline.inFlow then outline
  else
    let ended := outline.blocks.takeWhile ends
    { outline with
      tokens := outline.tokens ++ (ended.map fun _ => [Token.endBlock])
      blocks := outline.blocks.drop ended.length }

/-! ## Keys -/

/-- Give up the token that may be a key, unless it can be nothing else. -/
def dropCandidate (outline : Outline) : Option Outline :=
  if outline.candidate.any Candidate.required then none
  else some { outline with candidate := none }

/-- Note that the next token may be a key, if one may begin here. At the column of the innermost
block it can be nothing else. -/
def noteCandidate (outline : Outline) (sign : Sign) : Option Outline :=
  if outline.keyAllowed then do
    let outline ← outline.dropCandidate
    let required := !outline.inFlow && outline.blocks.head? == some sign.column
    some { outline with candidate := some ⟨outline.tokens.size, sign, required⟩ }
  else some outline

/-! ## Taking one token -/

/-- End all blocks before something that stands outside of documents. -/
def endBlocks (outline : Outline) : Option Outline := (outline.leave fun _ => true).dropCandidate

/-- Take the mark before or after a document. -/
def takeMarker (outline : Outline) (mark : Char) : Option Outline :=
  outline.endBlocks.map fun outline =>
    outline.push (if mark = '-' then .beginDocument else .endDocument) false

/-- Take a directive. -/
def takeDirective (outline : Outline) (rest : List Sign) : Option (Outline × List Sign) := do
  let outline ← outline.endBlocks
  let (directive, after) ← readDirective rest
  some (outline.push (.directive directive) false, after)

/-- Take a bracket or a brace that opens. -/
def takeOpening (outline : Outline) (sign : Sign) (token : Token) : Option Outline := do
  let outline ← outline.noteCandidate sign
  some ({ outline with
    candidate := none
    outer := outline.candidate :: outline.outer }.push token true)

/-- Take a bracket or a brace that closes. -/
def takeClosing (outline : Outline) (token : Token) : Option Outline := do
  let outline ← outline.dropCandidate
  some ({ outline with
    candidate := outline.outer.head?.join
    outer := outline.outer.drop 1 }.push token false)

/-- Take a comma. -/
def takeComma (outline : Outline) : Option Outline :=
  outline.dropCandidate.map fun outline => outline.push .comma true

/-- Take a dash or a question mark, which begin an item and a key of a block. -/
def takeEntry (outline : Outline) (sign : Sign) (token beginning : Token) : Option Outline := do
  if !outline.inFlow && !outline.keyAllowed then none
  let outline ← (outline.enter sign.column beginning).dropCandidate
  some (outline.push token (token = .item || !outline.inFlow))

/-- Make a token a key. It begins a table if it lies within the innermost block. -/
@[inline] def makeKey (outline : Outline) (candidate : Candidate) : Outline :=
  let column := candidate.place.column
  let begins := !outline.inFlow && outline.isIndented column
  let before := if begins then [.beginBlockTable, .key] else [.key]
  { outline with
    tokens := outline.tokens.modify candidate.token (before ++ ·)
    blocks := if begins then column :: outline.blocks else outline.blocks
    candidate := none }

/-- Take a colon. If a token before it may be a key, it is one, unless it is too late for the
colon. -/
def takeColon (outline : Outline) (sign : Sign) : Option Outline :=
  match outline.candidate.filter fun candidate => candidate.required || !candidate.isPast sign with
  | some candidate =>
    if candidate.isPast sign then none else some ((outline.makeKey candidate).push .value false)
  | none =>
    if !outline.inFlow && !outline.keyAllowed then none
    else some ((outline.enter sign.column .beginBlockTable).push .value !outline.inFlow)

/-- Take a name. -/
def takeName (outline : Outline) (sign : Sign) (rest : List Sign) (token : String → Token) :
    Option (Outline × List Sign) := do
  let name := rest.takeWhile fun sign => isNameCharacter sign.character
  let after := rest.drop name.length
  if name.isEmpty then none
  if !wordEnds after && !nextIsAmong ['?', ':', ',', ']', '\x7d', '%', '@', '\x60'] after then
    none
  let outline ← outline.noteCandidate sign
  some (outline.push (token (String.ofList (name.map Sign.character))) false, after)

/-- Take a tag. -/
def takeTag (outline : Outline) (sign : Sign) (rest : List Sign) :
    Option (Outline × List Sign) := do
  let outline ← outline.noteCandidate sign
  let (written, after) ← readTag outline.inFlow rest
  some (outline.push (.tag written) false, after)

/-- Take a text in quotes. -/
def takeQuoted (outline : Outline) (sign : Sign)
    (read : Option (List Char × List Sign)) : Option (Outline × List Sign) := do
  let outline ← outline.noteCandidate sign
  let (text, after) ← read
  some (outline.push (.scalar .quoted (String.ofList text)) false, after)

/-- Take a text in a block. -/
def takeBlock (outline : Outline) (folded : Bool) (rest : List Sign) :
    Option (Outline × List Sign) := do
  let outline ← outline.dropCandidate
  let (text, after) ← readBlock folded (outline.blocks.headD 0) rest
  let manner := if folded then .quoted else .literal
  some (outline.push (.scalar manner (String.ofList text)) true, after)

/-- Take words without quotes. A key may begin after them if a line break comes in between. -/
def takeWords (outline : Outline) (sign : Sign) (rest : List Sign) :
    Option (Outline × List Sign) := do
  let outline ← outline.noteCandidate sign
  let indentation := outline.blocks.head?.elim 0 (· + 1)
  let (words, broken, after) ← readWords outline.inFlow indentation .empty (sign :: rest)
  some (outline.push (.scalar .plain (String.ofList words)) broken, after)

/-- The characters that have a meaning of their own at the beginning of a token. -/
def indicators : List Char :=
  ['-', '?', ':', ',', '[', ']', '\x7b', '\x7d', '#', '&', '*', '!', '|', '>', '\'', '"', '%',
    '@', '\x60']

/-- Whether words without quotes begin with a sign. -/
def wordsBegin (outline : Outline) (sign : Sign) (rest : List Sign) : Bool :=
  let character := sign.character
  !(isGap character || indicators.contains character) || (character = '-' && !wordEnds rest) ||
    (!outline.inFlow && (character = '?' || character = ':') && !wordEnds rest)

/-- Take the token that begins with a sign. -/
def take (outline : Outline) (sign : Sign) (rest : List Sign) : Option (Outline × List Sign) :=
  let character := sign.character
  let stands := outline.inFlow || wordEnds rest
  if sign.column = 0 ∧ character = '%' then outline.takeDirective rest
  else if let some mark := marker? (sign :: rest) then
    (outline.takeMarker mark).map (·, rest.drop 2)
  else if character = '[' then (outline.takeOpening sign .openList).map (·, rest)
  else if character = '\x7b' then (outline.takeOpening sign .openTable).map (·, rest)
  else if character = ']' then (outline.takeClosing .closeList).map (·, rest)
  else if character = '\x7d' then (outline.takeClosing .closeTable).map (·, rest)
  else if character = ',' then outline.takeComma.map (·, rest)
  else if character = '-' ∧ wordEnds rest then
    (outline.takeEntry sign .item .beginBlockList).map (·, rest)
  else if character = '?' ∧ stands then
    (outline.takeEntry sign .key .beginBlockTable).map (·, rest)
  else if character = ':' ∧ stands then (outline.takeColon sign).map (·, rest)
  else if character = '*' then outline.takeName sign rest .reference
  else if character = '&' then outline.takeName sign rest .anchor
  else if character = '!' then outline.takeTag sign rest
  else if character = '|' ∧ !outline.inFlow then outline.takeBlock false rest
  else if character = '>' ∧ !outline.inFlow then outline.takeBlock true rest
  else if character = '\'' then outline.takeQuoted sign (readSingle .empty false rest)
  else if character = '"' then outline.takeQuoted sign (readDouble .empty 0 rest)
  else if outline.wordsBegin sign rest then outline.takeWords sign rest
  else none

/-! ## Taking all tokens -/

/-- Whether a key may begin after gaps and comments, and what comes after these. Tabs count as a
gap where they cannot be taken for indentation, and a byte order mark does at the beginning of a
line, where it takes up a column. -/
def skipGaps (inFlow keyAllowed inComment : Bool) : List Sign → Bool × List Sign
  | [] => (keyAllowed, [])
  | sign :: rest =>
    let character := sign.character
    if isBreak character then skipGaps inFlow (keyAllowed || !inFlow) false rest
    else if inComment || character = ' ' || (character = '\t' && (inFlow || !keyAllowed)) ||
        (isOrderMark character && sign.column = 0) then
      skipGaps inFlow keyAllowed inComment rest
    else if character = '#' then skipGaps inFlow keyAllowed true rest
    else (keyAllowed, sign :: rest)

/-- The tokens of an outline and of the signs after it. Each token takes at least one sign. -/
def complete : Nat → Outline → List Sign → Option (List Token)
  | 0, _, _ => none
  | fuel + 1, outline, signs =>
    match skipGaps outline.inFlow outline.keyAllowed false signs with
    | (_, []) => do
      let outline ← outline.endBlocks
      some outline.tokens.toList.flatten
    | (keyAllowed, sign :: rest) => do
      let outline := { outline with keyAllowed }.leave fun block => sign.column < block
      let (outline, after) ← outline.take sign rest
      complete fuel outline after

end Outline

/-- The tokens that signs make. -/
def Token.ofSigns? (signs : List Sign) : Option (List Token) :=
  Outline.empty.complete (signs.length + 1) signs

end Switchboard.Yaml
