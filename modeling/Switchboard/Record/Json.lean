import Switchboard.Number.Shortest
import Switchboard.Record

/-!
# Records as JSON

A record is written as one JSON object on one line: its scalars first, then its records, its
lists of scalars and its lists of records, each group in the order of the names. Nothing but what
must be is escaped in a text, and a number that is not finite is written as null.
-/
namespace Switchboard.Json

/-- A hexadecimal digit. -/
def hexDigit (value : Nat) : Char := (Nat.toDigits 16 value).headD '0'

/-- A character as it stands in a JSON text. -/
def escape (character : Char) : List Char :=
  if character = '"' then ['\\', '"']
  else if character = '\\' then ['\\', '\\']
  else if character = '\x08' then ['\\', 'b']
  else if character = '\x0c' then ['\\', 'f']
  else if character = '\n' then ['\\', 'n']
  else if character = '\r' then ['\\', 'r']
  else if character = '\t' then ['\\', 't']
  else if character.toNat < 0x20 then
    ['\\', 'u', '0', '0', hexDigit (character.toNat / 16), hexDigit (character.toNat % 16)]
  else [character]

/-- A text in JSON. -/
def text (value : String) : String :=
  String.ofList (['"'] ++ value.toList.flatMap escape ++ ['"'])

/-- A list in JSON, of elements in JSON. -/
def list (elements : List String) : String := "[" ++ ",".intercalate elements ++ "]"

/-- A member of an object in JSON, of a value in JSON. -/
def member (name value : String) : String := text name ++ ":" ++ value

/-- An object in JSON, of members in JSON. -/
def object (members : List String) : String := "\x7b" ++ ",".intercalate members ++ "\x7d"

/-- How numbers are laid out: the least and the greatest power of ten of the first digit with
which a number is written without an exponent. -/
structure NumberLayout where
  /-- The least such power. -/
  least : Int
  /-- The greatest such power. -/
  greatest : Int

/-- Numbers from 0.00001 up to sixteen digits before the point are written without an exponent. -/
def numberLayout : NumberLayout := ⟨-5, 15⟩

/-- A run of zeros. -/
def zeros (count : Nat) : List Char := List.replicate count '0'

/-- Digits laid out without an exponent, `leading` being the power of ten of the first; there is
at least one digit on either side of the point. -/
def plainNumber (digits : List Char) (leading : Int) : List Char :=
  if leading < 0 then ['0', '.'] ++ zeros (-leading - 1).toNat ++ digits
  else
    let whole := leading.toNat + 1
    let fraction := digits.drop whole
    digits.take whole ++ zeros (whole - digits.length) ++ ['.'] ++
      if fraction.isEmpty then ['0'] else fraction

/-- Digits laid out with an exponent, which always has its sign. -/
def scientificNumber (digits : List Char) (leading : Int) : List Char :=
  let fraction := digits.drop 1
  digits.take 1 ++ (if fraction.isEmpty then [] else '.' :: fraction) ++ ['e'] ++
    [if leading < 0 then '-' else '+'] ++ Nat.toDigits 10 leading.natAbs

/-- A positive decimal number, whose last digit is no zero, in JSON. -/
def decimal (layout : NumberLayout) (number : Number.Decimal) : List Char :=
  let digits := Nat.toDigits 10 number.coefficient
  let leading := number.exponent + digits.length - 1
  if layout.least ≤ leading ∧ leading ≤ layout.greatest then plainNumber digits leading
  else scientificNumber digits leading

/-- A floating point number in JSON. -/
def float (format : Number.BinaryFormat) : Number.Binary → String
  | .nan => "null"
  | .infinite _ => "null"
  | .finite negative significand exponent =>
    let magnitude := if significand = 0 then ['0', '.', '0']
      else match Number.shortest format significand exponent with
        | some number => decimal numberLayout number
        | none => []
    String.ofList ((if negative then ['-'] else []) ++ magnitude)

end Switchboard.Json

namespace Switchboard

/-- A scalar in JSON. -/
def Scalar.json : Scalar → String
  | bool value => if value then "true" else "false"
  | integer value => toString value
  | unsigned value => toString value
  | float format value => Json.float format value
  | char value => Json.text (String.ofList [value])
  | text value => Json.text value

namespace Record

mutual

/-- A record in JSON. -/
def json : Record → String
  | of scalars nested lists nestedLists =>
    Json.object (scalars.map (fun entry => Json.member entry.1 entry.2.json) ++
      nestedMembers nested ++
      lists.map (fun entry => Json.member entry.1 (Json.list (entry.2.map Scalar.json))) ++
      nestedListMembers nestedLists)

/-- Records as members of an object. -/
def nestedMembers : List (String × Record) → List String
  | [] => []
  | (name, record) :: rest => Json.member name record.json :: nestedMembers rest

/-- Lists of records as members of an object. -/
def nestedListMembers : List (String × List Record) → List String
  | [] => []
  | (name, records) :: rest =>
    Json.member name (Json.list (elements records)) :: nestedListMembers rest

/-- Records as elements of a list. -/
def elements : List Record → List String
  | [] => []
  | record :: rest => record.json :: elements rest

end

end Record

end Switchboard
