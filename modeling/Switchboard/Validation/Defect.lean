import Switchboard.Descriptor
import Switchboard.Text.Quoted

/-!
# Defects

What can be wrong with a set of commands before any line is read. A defect holds what its text
needs; nothing else tells one defect of a kind from another.
-/
namespace Switchboard

/-- The shape that a field must have for the way it is used. -/
inductive ExpectedShape where
  | scalar
  | scalarList
  | composite
  | compositeList
  deriving DecidableEq, Repr

namespace ExpectedShape

/-- The expected shape in words. -/
def label : ExpectedShape → String
  | scalar => "a scalar"
  | scalarList => "a list of scalars"
  | composite => "a composite"
  | compositeList => "a list of composites"

/-- Whether a shape is the expected one. -/
def accepts : ExpectedShape → FieldShape → Bool
  | scalar, .scalar _ => true
  | scalarList, .scalarList _ => true
  | composite, .composite => true
  | compositeList, .compositeList => true
  | _, _ => false

end ExpectedShape

/-- Why a set of commands cannot be used. -/
inductive Defect where
  | noCommands
  | reservedName (command : String)
  | noKeyword (command : String)
  | duplicateKeyword (keyword : String)
  | missingField (command typeName field : String)
  | duplicateParameter (command name : String)
  | repeatableFlag (command parameter : String)
  | requiredFlag (command parameter : String)
  | flagNotBool (command parameter field : String) (found : FieldShape)
  | noSlots (command parameter template : String)
  | unfitField (command typeName field : String) (found : FieldShape) (expected : ExpectedShape)
  deriving DecidableEq, Repr

/-- The defect in words. -/
def Defect.message : Defect → String
  | noCommands => "no commands were registered"
  | reservedName command => s!"command {command} uses the reserved command name 'help'"
  | noKeyword command => s!"input template {Text.quoted command} has no leading keyword"
  | duplicateKeyword keyword => s!"duplicate input template: {keyword}"
  | missingField command typeName field =>
    s!"{typeName} has no field {field} used by command {command}"
  | duplicateParameter command name => s!"duplicate parameter name {name} for command {command}"
  | repeatableFlag command parameter =>
    s!"flag parameter {parameter} of command {command} cannot be repeatable"
  | requiredFlag command parameter =>
    s!"flag parameter {parameter} of command {command} cannot be required"
  | flagNotBool command parameter field found =>
    s!"field {field} bound to flag {parameter} of command {command} must be bool, " ++
      s!"found {found.label}"
  | noSlots command parameter template =>
    s!"value template {Text.quoted template} of parameter {parameter} for command {command} " ++
      "has no slots"
  | unfitField command typeName field found expected =>
    s!"field {field} of {typeName} used by command {command} is {found.label}, " ++
      s!"expected {expected.label}"

end Switchboard
