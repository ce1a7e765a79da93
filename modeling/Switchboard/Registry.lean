import Switchboard.Descriptor

/-!
# Registries

A registry declares the commands of a session as data: how each is written, what its fields hold
and which switches it has. It also says whether there is to be a generated help and a command that
ends the session.
-/
namespace Switchboard

/-- The names of scalar types in a registry. -/
inductive ScalarName where
  | bool
  | int
  | uint
  | float
  | text
  deriving DecidableEq, Repr

namespace ScalarName

/-- The name as it is written. -/
def label : ScalarName → String
  | bool => "bool"
  | int => "int"
  | uint => "uint"
  | float => "float"
  | text => "text"

/-- All names, in order. -/
def all : List ScalarName := [bool, int, uint, float, text]

/-- The scalar type of that name. -/
def ofLabel? (label : String) : Option ScalarName := all.find? fun name => name.label = label

/-- The type that the name stands for; numbers are of 64 bits. -/
def type : ScalarName → ScalarType
  | bool => .bool
  | int => .integer 64
  | uint => .unsigned 64
  | float => .float .double
  | text => .text

end ScalarName

/-- What a field of a command is declared to hold. -/
inductive FieldSpec where
  | scalar (name : ScalarName)
  | composite (fields : List (String × FieldSpec))
  | scalarList (name : ScalarName)
  | compositeList (fields : List (String × FieldSpec))

/-- A switch of a command. -/
structure ParameterSpec where
  /-- The switch. -/
  name : String
  /-- A shorter form of the switch. -/
  shorthand : Option String := none
  /-- Whether a line without the switch is refused. -/
  required : Bool := false
  /-- Whether the switch may stand on a line more than once. -/
  repeatable : Bool := false
  /-- The field that the slots belong to. -/
  composite : Option String := none
  /-- The template of the value that follows the switch. -/
  value : Option String := none
  /-- The field that the switch sets. -/
  flag : Option String := none
  /-- The text of the switch in the help. -/
  description : Option String := none
  deriving DecidableEq, Repr

/-- A command of a registry. -/
inductive CommandSpec where
  | fixed (template : String) (description : Option String) (fields : List (String × FieldSpec))
  | switched (name : String) (description : Option String) (fields : List (String × FieldSpec))
      (parameters : List ParameterSpec)

/-- The commands of a session, as data. -/
structure Registry where
  /-- Whether there is a generated help. -/
  help : Bool := false
  /-- The command that ends the session. -/
  exitCommand : Option String := none
  /-- The other commands. -/
  commands : List CommandSpec

/-- How many commands a registry makes, the generated help apart. -/
def Registry.commandCount (registry : Registry) : Nat :=
  registry.commands.length + if registry.exitCommand.isSome then 1 else 0

end Switchboard
