import Switchboard.Number.Binary

/-!
# Scalars

The single values that a field of a record can hold, the types that a field can be declared
with, and the kinds that messages tell apart. Types of one kind differ in their range only. The
list of types is closed: these are the ones that are supported.
-/
namespace Switchboard

/-- Kinds of scalars as messages name them. -/
inductive ScalarKind where
  | bool
  | integer
  | unsigned
  | float
  | char
  | text
  deriving DecidableEq, Repr

/-- The name of a kind in messages. -/
def ScalarKind.label : ScalarKind → String
  | bool => "bool"
  | integer => "integer"
  | unsigned => "unsigned integer"
  | float => "float"
  | char => "char"
  | text => "text"

/-- Types that a scalar field can be declared with; whole numbers have a width in bits. -/
inductive ScalarType where
  | bool
  | integer (width : Nat)
  | unsigned (width : Nat)
  | float (format : Number.BinaryFormat)
  | char
  | text
  deriving DecidableEq, Repr

/-- The kind of a type. -/
def ScalarType.kind : ScalarType → ScalarKind
  | bool => .bool
  | integer _ => .integer
  | unsigned _ => .unsigned
  | float _ => .float
  | char => .char
  | text => .text

/-- A single value of a field. -/
inductive Scalar where
  | bool (value : Bool)
  | integer (value : Int)
  | unsigned (value : Nat)
  | float (format : Number.BinaryFormat) (value : Number.Binary)
  | char (value : Char)
  | text (value : String)
  deriving DecidableEq, Repr

end Switchboard
