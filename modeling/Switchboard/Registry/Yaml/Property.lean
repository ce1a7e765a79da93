import Switchboard.Registry.Yaml.Scalar

/-!
# Tags and directives

A tag tells the kind of data. It is written in full between angle brackets, or in two parts: the
handle, which stands for the beginning of the tag, and the rest. As any bytes can be written in a
tag, it need not be a text. Directives before a document tell what handles stand for, and the
version of the language.
-/
namespace Switchboard.Yaml

/-- A tag as it is written. -/
structure WrittenTag where
  /-- What stands for the beginning of the tag; it is empty if the tag is written in full. -/
  handle : String
  /-- The bytes of the rest of the tag. -/
  rest : List UInt8
  deriving DecidableEq, Repr

/-- A directive. -/
inductive Directive where
  /-- The version of the language. -/
  | version (major minor : Nat)
  /-- The bytes at the beginning of tags that a handle stands for. -/
  | handle (handle : String) (beginning : List UInt8)
  deriving DecidableEq, Repr

/-- Whether a character can stand in a name. -/
def isNameCharacter (character : Char) : Bool :=
  character.isAlphanum || character = '_' || character = '-'

/-- The text of signs. -/
def textOf (signs : List Sign) : String := String.ofList (signs.map Sign.character)

/-! ## Tags -/

/-- Whether a character can stand in a tag as it is. Commas and brackets can do so only where no
list can go on after the tag. -/
def isTagCharacter (isDelimited : Bool) (character : Char) : Bool :=
  isNameCharacter character ||
    [';', '/', '?', ':', '@', '&', '=', '+', '$', '.', '!', '~', '*', '\'', '(', ')'].contains
      character ||
    (isDelimited && [',', '[', ']'].contains character)

/-- The byte that two hexadecimal digits write. -/
def byte? : List Sign → Option Nat
  | high :: low :: _ => do
    let high ← Number.hexValue? high.character
    let low ← Number.hexValue? low.character
    some (16 * high + low)
  | _ => none

/-- How many bytes of a character are missing after one more byte, of which `missing` were before
it. -/
def missingAfter? (missing byte : Nat) : Option Nat :=
  if 0 < missing then if byte / 64 = 2 then some (missing - 1) else none
  else if byte < 128 then some 0
  else if byte / 32 = 6 then some 1
  else if byte / 16 = 14 then some 2
  else if byte / 8 = 30 then some 3
  else none

/-- The bytes of a tag, and what comes after. A byte can be written as two digits after a percent
sign, of which `taken` are passed over; `missing` bytes must follow. -/
def readTagBytes (isDelimited : Bool) (taken missing : Nat) :
    List Sign → Option (List UInt8 × List Sign)
  | [] => if missing = 0 then some ([], []) else none
  | sign :: rest =>
    let character := sign.character
    if 0 < taken then readTagBytes isDelimited (taken - 1) missing rest
    else if character = '%' then do
      let byte ← byte? rest
      let missing ← missingAfter? missing byte
      let (read, after) ← readTagBytes isDelimited 2 missing rest
      some (UInt8.ofNat byte :: read, after)
    else if 0 < missing then none
    else if isTagCharacter isDelimited character then
      (readTagBytes isDelimited 0 0 rest).map fun (read, after) =>
        (character.toUInt8 :: read, after)
    else some ([], sign :: rest)

/-- The bytes that count: those before the first zero. -/
def counted (bytes : List UInt8) : List UInt8 := bytes.takeWhile (· ≠ 0)

/-- The bytes of a tag, of which at least one is written, and what comes after. -/
def readTagRest (isDelimited : Bool) (signs : List Sign) : Option (List UInt8 × List Sign) := do
  let (read, after) ← readTagBytes isDelimited 0 0 signs
  if read.isEmpty then none else some (counted read, after)

/-- The exclamation mark as a byte. -/
def exclamation : UInt8 := '!'.toUInt8

/-- The parts of a tag after its exclamation mark, and what comes after. A mark alone is a tag of
its own. -/
def readTagParts (signs : List Sign) : Option (WrittenTag × List Sign) :=
  let name := signs.takeWhile fun sign => isNameCharacter sign.character
  let afterName := signs.drop name.length
  if nextIsAmong ['<'] signs then do
    let (tag, after) ← readTagRest true (signs.drop 1)
    if nextIsAmong ['>'] after then some (⟨"", tag⟩, after.drop 1) else none
  else if nextIsAmong ['!'] afterName then do
    let (rest, after) ← readTagRest false (afterName.drop 1)
    some (⟨"!" ++ textOf name ++ "!", rest⟩, after)
  else do
    let (read, after) ← readTagBytes false 0 0 signs
    let rest := counted read
    some (if rest.isEmpty then ⟨"", [exclamation]⟩ else ⟨"!", rest⟩, after)

/-- A tag after its exclamation mark, and what comes after, which must be a gap. Within brackets
it can be a comma. -/
def readTag (inFlow : Bool) (signs : List Sign) : Option (WrittenTag × List Sign) := do
  let (tag, after) ← readTagParts signs
  if wordEnds after || (inFlow && nextIsAmong [','] after) then some (tag, after) else none

/-! ## Directives -/

/-- The signs after blanks. -/
def skipBlanks (signs : List Sign) : List Sign := signs.dropWhile fun sign => isBlank sign.character

/-- The greatest count of digits in a part of a version. -/
def versionDigits : Nat := 9

/-- A part of a version, and what comes after. -/
def readVersionPart (signs : List Sign) : Option (Nat × List Sign) := do
  let digits := signs.takeWhile fun sign => Number.isDigit sign.character
  if versionDigits < digits.length then none
  let part ← Number.readNatural (digits.map Sign.character)
  some (part, signs.drop digits.length)

/-- A version, and what comes after. -/
def readVersion (signs : List Sign) : Option (Directive × List Sign) := do
  let (major, rest) ← readVersionPart (skipBlanks signs)
  if !nextIsAmong ['.'] rest then none
  let (minor, rest) ← readVersionPart (rest.drop 1)
  some (.version major minor, rest)

/-- A handle and the beginning of tags that it stands for, and what comes after. -/
def readHandle (signs : List Sign) : Option (Directive × List Sign) := do
  let signs := skipBlanks signs
  if !nextIsAmong ['!'] signs then none
  let name := (signs.drop 1).takeWhile fun sign => isNameCharacter sign.character
  let rest := signs.drop (name.length + 1)
  let isClosed := nextIsAmong ['!'] rest
  if !isClosed && !name.isEmpty then none
  let rest := if isClosed then rest.drop 1 else rest
  if !rest.head?.any fun sign => isBlank sign.character then none
  let (beginning, rest) ← readTagRest true (skipBlanks rest)
  if !wordEnds rest then none
  some (.handle ("!" ++ textOf name ++ if isClosed then "!" else "") beginning, rest)

/-- A directive after its percent sign, and the signs after its line. -/
def readDirective (signs : List Sign) : Option (Directive × List Sign) := do
  let name := signs.takeWhile fun sign => isNameCharacter sign.character
  let rest := signs.drop name.length
  if !wordEnds rest then none
  let (directive, rest) ←
    if textOf name = "YAML" then readVersion rest
    else if textOf name = "TAG" then readHandle rest
    else none
  some (directive, ← afterHeader rest)

end Switchboard.Yaml
