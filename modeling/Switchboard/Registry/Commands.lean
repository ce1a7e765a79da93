import Switchboard.Record.Json
import Switchboard.Registry
import Switchboard.Shell

/-!
# Commands of a registry

Every command of a registry does the same: it prints its record as one line of JSON, under the
text by which the command is declared. The exit command comes after the others and cancels the
session.
-/
namespace Switchboard

/-- A parameter that has neither a value nor a flag, or both. -/
structure AmbiguousParameter where
  /-- The command of the parameter. -/
  command : String
  /-- The switch of the parameter. -/
  parameter : String
  deriving DecidableEq, Repr

/-- The defect in words. -/
def AmbiguousParameter.message (ambiguous : AmbiguousParameter) : String :=
  "parameter " ++ ambiguous.parameter ++ " of command " ++ ambiguous.command ++
    " must define exactly one of \x60value\x60 or \x60flag\x60"

/-- What a parameter takes, if it says so in one way only. -/
def ParameterSpec.kind? (spec : ParameterSpec) : Option ParameterKind :=
  match spec.value, spec.flag with
  | some value, none => some (.valued ⟨value⟩)
  | none, some field => some (.flag field)
  | _, _ => none

/-- The parameter of a command that is declared under the given name. -/
def ParameterSpec.parameter (command : String) (spec : ParameterSpec) :
    Except AmbiguousParameter Parameter :=
  match spec.kind? with
  | some kind => .ok { spec with kind }
  | none => .error ⟨command, spec.name⟩

namespace FieldSpec

mutual

/-- The type of a field of the given name; a record field gives its name to its record type. -/
def type (name : String) : FieldSpec → FieldType
  | scalar label => .scalar label.type
  | composite fields => .composite name ((Descriptor.empty name).addAll (types fields)).fields
  | scalarList label => .list label.type
  | compositeList fields =>
    .compositeList name ((Descriptor.empty name).addAll (types fields)).fields

/-- The types of fields. -/
def types : List (String × FieldSpec) → List (String × FieldType)
  | [] => []
  | (name, spec) :: rest => (name, spec.type name) :: types rest

end

/-- The record type that fields make. -/
def descriptor (typeName : String) (fields : List (String × FieldSpec)) : Descriptor :=
  (Descriptor.empty typeName).addAll (types fields)

end FieldSpec

/-- The line that a command prints for a record, without the line break. -/
def dispatchLine (command : String) (record : Record) : String :=
  Json.object [Json.member "command" (Json.text command), Json.member "fields" record.json]

/-- The handler that prints records. -/
def printHandler (command : String) : Handler Unit Unit :=
  fun state record => .writeLine state (dispatchLine command record) .done

/-- The handler that ends the session. -/
def exitHandler : Handler Unit Unit := fun state _ => .cancel (.finish state .done)

namespace CommandSpec

/-- The text by which a command is declared. -/
def title : CommandSpec → String
  | fixed template _ _ => template
  | switched name _ _ _ => name

/-- The command that a declaration makes. -/
def command (spec : CommandSpec) : Except AmbiguousParameter (Command Unit Unit) := do
  let (template, description, fields) ← match spec with
    | fixed template description fields => pure (Template.fixed ⟨template⟩, description, fields)
    | switched name description fields parameters => do
      let parameters ← parameters.mapM (ParameterSpec.parameter name)
      pure (Template.switched ⟨name, parameters⟩, description, fields)
  pure {
    template, description
    descriptor := FieldSpec.descriptor spec.title fields
    handler := printHandler spec.title
    start := () }

end CommandSpec

namespace Registry

/-- The command that ends the session. -/
def exitCommandOf (template : String) : Command Unit Unit where
  template := .fixed ⟨template⟩
  descriptor := .empty "Exit"
  description := some "Ends the session"
  handler := exitHandler
  start := ()

/-- The commands of a registry, registered with at least as much help as asked for. -/
def registration (registry : Registry) (help : HelpSupport) :
    Except AmbiguousParameter (Registration Unit Unit) := do
  let commands ← registry.commands.mapM CommandSpec.command
  pure {
    commands := commands ++ (registry.exitCommand.map exitCommandOf).toList
    help := if registry.help then .generated else help }

end Registry

end Switchboard
