import Switchboard.Template
import Switchboard.Validation.Defect

/-!
# Validation

A set of commands is looked through once, before any line is read, and the first defect found is
the answer. Commands are taken in the order of registration; of one command first the name, then
the keywords, and then the fields that its slots and parameters need, in order.
-/
namespace Switchboard

/-- The name of the generated help command. -/
def helpName : String := "help"

/-- A command as the validator sees it. -/
structure Declaration where
  /-- How the command is written on a line. -/
  template : Template
  /-- The record type that its lines are bound to. -/
  descriptor : Descriptor

namespace Validation

/-- What is wrong with the use of a field that must have a certain shape. -/
def fieldDefect? (command : String) (descriptor : Descriptor) (expected : ExpectedShape)
    (field : String) : Option Defect :=
  match descriptor.shape? field with
  | none => some (.missingField command descriptor.typeName field)
  | some found =>
    if expected.accepts found then none
    else some (.unfitField command descriptor.typeName field found expected)

/-- What is wrong with the fields of slots, taken in order. -/
def slotDefect? (command : String) (descriptor : Descriptor) (expected : ExpectedShape)
    (slots : List String) : Option Defect :=
  slots.findSome? (fieldDefect? command descriptor expected)

/-- What is wrong with a flag. -/
def flagDefect? (command : String) (descriptor : Descriptor) (parameter : Parameter)
    (field : String) : Option Defect :=
  if parameter.repeatable then some (.repeatableFlag command parameter.name)
  else if parameter.required then some (.requiredFlag command parameter.name)
  else match descriptor.shape? field with
    | none => some (.missingField command descriptor.typeName field)
    | some (.scalar .bool) => none
    | some found => some (.flagNotBool command parameter.name field found)

/-- What is wrong with a valued parameter. -/
def valuedDefect? (command : String) (descriptor : Descriptor) (parameter : Parameter)
    (template : ValueTemplate) : Option Defect :=
  if template.slots.isEmpty then some (.noSlots command parameter.name template.source)
  else match parameter.composite with
    | none =>
      let expected := if parameter.repeatable then ExpectedShape.scalarList else .scalar
      slotDefect? command descriptor expected template.slots
    | some field =>
      let expected := if parameter.repeatable then ExpectedShape.compositeList else .composite
      (fieldDefect? command descriptor expected field).or <|
        match descriptor.nested? field with
        | none => some (.missingField command descriptor.typeName field)
        | some nested => slotDefect? command nested .scalar template.slots

/-- What is wrong with what a parameter takes. -/
def kindDefect? (command : String) (descriptor : Descriptor) (parameter : Parameter) :
    Option Defect :=
  match parameter.kind with
  | .flag field => flagDefect? command descriptor parameter field
  | .valued template => valuedDefect? command descriptor parameter template

/-- The switches of a parameter: its name, and its shorthand if it has one. -/
def switchesOf (parameter : Parameter) : List String :=
  parameter.name :: parameter.shorthand.toList

/-- The first of some switches that is taken already, by an earlier parameter or among them. -/
def takenSwitch? (taken : List String) : List String → Option String
  | [] => none
  | switch :: rest =>
    if taken.contains switch then some switch else takenSwitch? (switch :: taken) rest

/-- What is wrong with parameters, when some switches are taken already. -/
def parameterDefect? (command : String) (descriptor : Descriptor) :
    List String → List Parameter → Option Defect
  | _, [] => none
  | taken, parameter :: rest =>
    let switches := switchesOf parameter
    ((takenSwitch? taken switches).map (Defect.duplicateParameter command)).or <|
      (kindDefect? command descriptor parameter).or <|
        parameterDefect? command descriptor (switches ++ taken) rest

/-- What is wrong with the fields that a command uses. -/
def contentDefect? (declaration : Declaration) : Option Defect :=
  match declaration.template with
  | .fixed template =>
    slotDefect? template.source declaration.descriptor .scalar template.slots
  | .switched template =>
    parameterDefect? template.name declaration.descriptor [] template.parameters

/-- Whether lines of a template could be meant for the generated help. The keywords of a fixed
template match in any letter case, those of a switched template as they are written. -/
def claimsHelp : Template → Bool
  | .fixed template => Text.lowerCase template.keyword = helpName
  | .switched template => " ".intercalate template.keywords = helpName

/-- What is wrong with a command that follows commands with the given keywords. -/
def commandDefect? (helpReserved : Bool) (earlier : List String) (declaration : Declaration) :
    Option Defect :=
  let template := declaration.template
  if helpReserved && claimsHelp template then some (.reservedName template.heading)
  else if (Text.trim template.keyword).isEmpty then some (.noKeyword template.heading)
  else if earlier.contains template.keyword then some (.duplicateKeyword template.keyword)
  else contentDefect? declaration

/-- What is wrong with commands that follow commands with the given keywords. -/
def commandsDefect? (helpReserved : Bool) : List String → List Declaration → Option Defect
  | _, [] => none
  | earlier, declaration :: rest =>
    (commandDefect? helpReserved earlier declaration).or <|
      commandsDefect? helpReserved (declaration.template.keyword :: earlier) rest

/-- The first defect of a set of commands. -/
def defect? (helpReserved : Bool) (declarations : List Declaration) : Option Defect :=
  if declarations.isEmpty then some .noCommands
  else commandsDefect? helpReserved [] declarations

end Validation

end Switchboard
