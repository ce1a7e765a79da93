/-!
# Rejections

The ways in which the switches of a line can be wrong although its keywords are those of a
command, with the three texts that tell of one: its kind, its own words, and the reply to the
user.
-/
namespace Switchboard

/-- Why a line of a switched command is refused. -/
inductive Rejection where
  | unknownParameter (name : String)
  | duplicateParameter (name : String)
  | missingRequired (names : List String)
  | malformedValue (parameter value template : String)
  deriving DecidableEq, Repr

namespace Rejection

/-- The kind of a rejection in words. -/
def kind : Rejection → String
  | unknownParameter _ => "Unknown parameter"
  | duplicateParameter _ => "Duplicated parameter"
  | missingRequired _ => "Missing required parameters"
  | malformedValue _ _ _ => "Malformed value"

/-- The rejection in words, without the command. -/
def message : Rejection → String
  | unknownParameter name => s!"unknown parameter {name}"
  | duplicateParameter name => s!"duplicated parameter {name}"
  | missingRequired names => "missing required parameters " ++ ", ".intercalate names
  | malformedValue parameter value template =>
    s!"value {value} of {parameter} does not match {template}"

/-- What the user is told. -/
def reply (command : String) : Rejection → String
  | unknownParameter name => s!"Parameter {name} is unknown for command {command}."
  | duplicateParameter name => s!"Found duplicated parameter {name} for command {command}."
  | missingRequired names =>
    "Missing required parameters " ++ ", ".intercalate names ++ s!" for command {command}."
  | malformedValue parameter value template =>
    s!"Value {value} does not match template {template} of parameter {parameter} " ++
      s!"for command {command}."

end Rejection

end Switchboard
