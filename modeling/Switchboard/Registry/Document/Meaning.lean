import Switchboard.Number.Based
import Switchboard.Registry.Document

/-!
# Meanings of scalars

A scalar is a text, unless it is written without quotes as a word that stands for something else.
A tag settles what it has to stand for. Whole numbers have 64 bits; one that needs more stands for
nothing that can be used, and one that needs more than 128 bits is a number like those with a
fraction.
-/
namespace Switchboard

/-- What a scalar stands for. -/
inductive Meaning where
  /-- Nothing. -/
  | nothing
  /-- A truth value. -/
  | truth (value : Bool)
  /-- A whole number without a minus sign. -/
  | natural (value : Nat)
  /-- Another number. -/
  | number
  /-- A text. -/
  | text (value : String)
  deriving DecidableEq, Repr

namespace Meaning

/-- The words that stand for nothing. -/
def nothingWords : List String := ["~", "null", "Null", "NULL"]

/-- The truth value that a word stands for. -/
def truthOfWord? (word : String) : Option Bool :=
  if ["true", "True", "TRUE"].contains word then some true
  else if ["false", "False", "FALSE"].contains word then some false
  else none

/-- A whole number, if it has 64 bits. -/
def ofWhole? (negative : Bool) (size : Nat) : Option Meaning :=
  if !Number.fitsIn 64 negative size then none
  else some (if negative then .number else .natural size)

/-- The sign and the size of the whole number of 128 bits that a word writes. -/
def wholeOfWord? (word : String) : Option (Bool × Nat) :=
  (Number.readSigned word.toList).filter fun (negative, size) => Number.fitsIn 128 negative size

/-- The words that stand for the infinities and for no number. -/
def numberNames : List String :=
  ["", "+", "-"].flatMap (fun sign => [".inf", ".Inf", ".INF"].map (sign ++ ·)) ++
    [".nan", ".NaN", ".NAN"]

/-- Whether a word writes a number in base ten that is not out of reach. -/
def isNumber (word : String) : Bool :=
  numberNames.contains word || match Number.readBinary .double word.toList with
    | some (.finite _ _ _) => true
    | _ => false

/-- What a word without quotes stands for. -/
def ofWord? (word : String) : Option Meaning :=
  if word.isEmpty || nothingWords.contains word then some nothing
  else match truthOfWord? word, wholeOfWord? word with
    | some value, _ => some (truth value)
    | none, some (negative, size) => ofWhole? negative size
    | none, none =>
      if isNumber word && !Number.isPadded word.toList then some number else some (text word)

/-- What a scalar without a tag stands for. -/
def ofUntagged? (manner : Manner) (value : String) : Option Meaning :=
  if manner = .plain then ofWord? value else some (text value)

/-- What a scalar with a tag stands for, if it can stand for what the tag says. -/
def ofTagged? (manner : Manner) (tag : Tag) (value : String) : Option Meaning :=
  match tag with
  | .nothing => if nothingWords.contains value then some nothing else none
  | .truth => (truthOfWord? value).map truth
  | .whole => (wholeOfWord? value).bind fun (negative, size) => ofWhole? negative size
  | .number => if isNumber value then some number else none
  | .other => some (text value)
  | .unknown => none
  | .illegible => ofUntagged? manner value

end Meaning

namespace Document

/-- What a scalar stands for. -/
def meaning? : Document → Option Meaning
  | scalar manner none value => Meaning.ofUntagged? manner value
  | scalar manner (some tag) value => Meaning.ofTagged? manner tag value
  | _ => none

/-- The text that a document stands for. -/
def text? (document : Document) : Option String :=
  match document.meaning? with
  | some (.text value) => some value
  | _ => none

/-- The truth value that a document stands for. -/
def truth? (document : Document) : Option Bool :=
  match document.meaning? with
  | some (.truth value) => some value
  | _ => none

/-- Whether a document stands for nothing. -/
def isNothing (document : Document) : Bool := document.meaning? = some .nothing

mutual

/-- Whether every scalar in a document has a meaning, and every tag is well known. -/
def isMeaningful : Document → Bool
  | scalar manner tag value => (scalar manner tag value).meaning?.isSome
  | list tag items => tag ≠ some .unknown && itemsAreMeaningful items
  | table tag entries => tag ≠ some .unknown && entriesAreMeaningful entries

/-- Whether items are meaningful. -/
def itemsAreMeaningful : List Document → Bool
  | [] => true
  | item :: rest => item.isMeaningful && itemsAreMeaningful rest

/-- Whether keys and values are meaningful. -/
def entriesAreMeaningful : List (Document × Document) → Bool
  | [] => true
  | (key, value) :: rest => key.isMeaningful && value.isMeaningful && entriesAreMeaningful rest

end

end Document

end Switchboard
