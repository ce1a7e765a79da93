import Switchboard.Template.Value
import Switchboard.Text.Blank

/-!
# Switched templates

A switched command is described by its keywords and its parameters. On a line the keywords come
first, and then switches in any order. A switch names a parameter or gives its shorthand; the switch
of a valued parameter is followed by a value, that of a flag stands alone.
-/
namespace Switchboard

/-- What the switch of a parameter takes. -/
inductive ParameterKind where
  | valued (template : ValueTemplate)
  | flag (field : String)
  deriving DecidableEq, Repr

/-- A parameter of a switched command. -/
structure Parameter where
  /-- The switch. -/
  name : String
  /-- A shorter form of the switch. -/
  shorthand : Option String := none
  /-- Whether a line without the switch is refused. -/
  required : Bool := false
  /-- Whether the switch may stand on a line more than once. -/
  repeatable : Bool := false
  /-- The record field, or list of records, whose fields the slots are. -/
  composite : Option String := none
  /-- What the switch takes. -/
  kind : ParameterKind
  /-- The text of the parameter in the help. -/
  description : Option String := none
  deriving DecidableEq, Repr

/-- Whether the switch of a parameter stands alone. -/
def Parameter.isFlag (parameter : Parameter) : Bool :=
  match parameter.kind with
  | .valued _ => false
  | .flag _ => true

/-- The description of a switched command. -/
structure SwitchedTemplate where
  /-- The keywords, as they were written. -/
  written : String
  /-- The parameters, in the order of their declaration. -/
  parameters : List Parameter
  deriving DecidableEq, Repr

namespace SwitchedTemplate

/-- The keywords as one text, without the blanks around it. -/
def name (template : SwitchedTemplate) : String := Text.trim template.written

/-- The keywords. -/
def keywords (template : SwitchedTemplate) : List String := Text.words template.written

/-- The parameter that a token switches: the first of that name, or else the first with that
shorthand. -/
def findParameter (template : SwitchedTemplate) (token : String) : Option Parameter :=
  (template.parameters.find? fun parameter => parameter.name = token).or
    (template.parameters.find? fun parameter => parameter.shorthand = some token)

end SwitchedTemplate

end Switchboard
