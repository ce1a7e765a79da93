import Switchboard.Registry
import Switchboard.Registry.Document

/-!
# Writing registries

The document that describes a registry. Commands are always written; what has the value that it
would have if it were left out is left out.
-/
namespace Switchboard

namespace Document

/-- The entry of a text, if there is one. -/
def textEntry (key : String) (value : Option String) : List (String × Document) :=
  (value.map fun value => (key, text value)).toList

/-- The entry of a truth value, if it is true. -/
def truthEntry (key : String) (value : Bool) : List (String × Document) :=
  if value then [(key, truth true)] else []

end Document

namespace FieldSpec

mutual

/-- The document of a field. -/
def document : FieldSpec → Document
  | scalar name => .text name.label
  | composite fields => .ofEntries [("composite", .ofEntries (entries fields))]
  | scalarList name => .ofEntries [("list", .text name.label)]
  | compositeList fields => .ofEntries [("list", .ofEntries (entries fields))]

/-- The entries of fields in a table. -/
def entries : List (String × FieldSpec) → List (String × Document)
  | [] => []
  | (name, field) :: rest => (name, field.document) :: entries rest

end

/-- The entry of the fields of a command, if there are any. -/
def fieldsEntry (fields : List (String × FieldSpec)) : List (String × Document) :=
  if fields.isEmpty then [] else [("fields", .ofEntries (entries fields))]

end FieldSpec

/-- The document of a parameter. -/
def ParameterSpec.document (spec : ParameterSpec) : Document :=
  .ofEntries ([("name", .text spec.name)] ++ Document.textEntry "alias" spec.shorthand ++
    Document.truthEntry "required" spec.required ++
    Document.truthEntry "repeatable" spec.repeatable ++
    Document.textEntry "composite" spec.composite ++ Document.textEntry "value" spec.value ++
    Document.textEntry "flag" spec.flag ++ Document.textEntry "description" spec.description)

/-- The entry of the parameters of a command, if there are any. -/
def ParameterSpec.parametersEntry (parameters : List ParameterSpec) : List (String × Document) :=
  if parameters.isEmpty then [] else [("parameters", .ofItems (parameters.map document))]

/-- The document of a command. -/
def CommandSpec.document : CommandSpec → Document
  | fixed template description fields =>
    .ofEntries ([("template", .text template)] ++ Document.textEntry "description" description ++
      FieldSpec.fieldsEntry fields)
  | switched name description fields parameters =>
    .ofEntries ([("name", .text name)] ++ Document.textEntry "description" description ++
      FieldSpec.fieldsEntry fields ++ ParameterSpec.parametersEntry parameters)

/-- The document of a registry. -/
def Registry.document (registry : Registry) : Document :=
  .ofEntries (Document.truthEntry "help" registry.help ++
    Document.textEntry "exit_command" registry.exitCommand ++
    [("commands", .ofItems (registry.commands.map CommandSpec.document))])

end Switchboard
