/-!
# Documents

The data that a registry is loaded from: scalars in lists and tables, as they are written. What a
scalar stands for hangs on how it is written and on its tag.
-/
namespace Switchboard

/-- How a scalar is written. -/
inductive Manner where
  /-- As words without quotes. -/
  | plain
  /-- As a block of lines that are kept. -/
  | literal
  /-- In quotes, or as a block of lines that are folded. -/
  | quoted
  deriving DecidableEq, Repr

/-- What a tag says of data. -/
inductive Tag where
  /-- It is nothing. -/
  | nothing
  /-- It is a truth value. -/
  | truth
  /-- It is a whole number. -/
  | whole
  /-- It is a number. -/
  | number
  /-- It is of another well-known kind; scalars of such kinds are texts. -/
  | other
  /-- It is of a kind that is not well known. -/
  | unknown
  /-- It is of a kind that is not well known and has no name; scalars of such kinds are what they
  are without a tag. -/
  | illegible
  deriving DecidableEq, Repr

/-- A piece of data. -/
inductive Document where
  /-- A value that has no parts. -/
  | scalar (manner : Manner) (tag : Option Tag) (value : String)
  /-- Data in order. -/
  | list (tag : Option Tag) (items : List Document)
  /-- Data under keys. -/
  | table (tag : Option Tag) (entries : List (Document × Document))
  deriving Inhabited

namespace Document

/-- A text. -/
def text (value : String) : Document := scalar .quoted none value

/-- A truth value. -/
def truth (value : Bool) : Document := scalar .plain none (if value then "true" else "false")

/-- Data in order. -/
def ofItems (items : List Document) : Document := list none items

/-- Data under keys that are texts. -/
def ofEntries (entries : List (String × Document)) : Document :=
  table none (entries.map fun entry => (text entry.1, entry.2))

end Document

end Switchboard
