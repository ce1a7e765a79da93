import Switchboard.Fault
import Switchboard.Template.Capture
import Switchboard.Template.Switched

/-!
# Switches of a line

The tokens after the keywords of a switched command are first cut into occurrences of switches,
from left to right, and then the occurrences are bound one after the other. A value is whatever
token follows its switch, even if it looks like one; a valued switch that ends the line is passed
over. Binding stops at the first occurrence that is wrong, and a token in the place of a switch
that is none is wrong once all before it is bound.
-/
namespace Switchboard

/-- A switch on a line. -/
inductive Occurrence where
  | flag (parameter : Parameter) (field : String)
  | valued (parameter : Parameter) (template : ValueTemplate) (value : String)
  deriving DecidableEq, Repr

/-- The parameter that a switch names. -/
def Occurrence.parameter : Occurrence → Parameter
  | flag parameter _ => parameter
  | valued parameter _ _ => parameter

namespace SwitchedTemplate

/-- The occurrences of switches on a line, up to the first token in the place of a switch that is
none, and that token. -/
def occurrences (template : SwitchedTemplate) : List String → List Occurrence × Option String
  | [] => ([], none)
  | token :: rest => match template.findParameter token with
    | none => ([], some token)
    | some parameter => match parameter.kind with
      | .flag field =>
        let (later, unknown) := template.occurrences rest
        (.flag parameter field :: later, unknown)
      | .valued value => match rest with
        | [] => ([], none)
        | text :: rest =>
          let (later, unknown) := template.occurrences rest
          (.valued parameter value text :: later, unknown)

end SwitchedTemplate

/-- What is known of a line after some of its switches. -/
structure Progress where
  /-- The names of the parameters that occurred. -/
  seen : List String
  /-- The record as it is bound so far. -/
  record : Record

namespace Parameter

/-- Write the captures of one occurrence where the parameter says. -/
def bind (parameter : Parameter) (descriptor : Descriptor) (record : Record)
    (captures : List (String × String)) : Written :=
  match parameter.composite with
  | some field => descriptor.assignNested record field captures
  | none =>
    let write := if parameter.repeatable then descriptor.pushScalar else descriptor.setScalar
    Descriptor.writeAll write record captures

end Parameter

namespace Occurrence

/-- Whether a switch that occurred before may not occur again. -/
def mustBeOnly : Occurrence → Bool
  | flag _ _ => true
  | valued parameter _ _ => !parameter.repeatable

/-- Write what an occurrence says, if its value fits. -/
def write (descriptor : Descriptor) (record : Record) : Occurrence → Except Fault Record
  | flag _ field => (descriptor.setFlag record field).outcome
  | valued parameter template value => match template.capture value with
    | none => .error (.rejected (.malformedValue parameter.name value template.source))
    | some captures => (parameter.bind descriptor record captures).outcome

/-- Bind one occurrence. -/
def bind (descriptor : Descriptor) (progress : Progress) (occurrence : Occurrence) :
    Except Fault Progress :=
  let name := occurrence.parameter.name
  if occurrence.mustBeOnly && progress.seen.contains name then
    .error (.rejected (.duplicateParameter name))
  else (occurrence.write descriptor progress.record).map fun record =>
    ⟨name :: progress.seen, record⟩

end Occurrence

namespace SwitchedTemplate

/-- The required parameters that did not occur, each once, in the order of their declaration. -/
def missing (template : SwitchedTemplate) (seen : List String) : List String :=
  ((template.parameters.filter fun parameter =>
    parameter.required && !seen.contains parameter.name).map Parameter.name).eraseDups

/-- The record of a line whose switches are bound, unless a token is no switch or a required
parameter did not occur. -/
def conclude (template : SwitchedTemplate) (unknown : Option String) (progress : Progress) :
    Except Fault Record :=
  match unknown with
  | some token => .error (.rejected (.unknownParameter token))
  | none => match template.missing progress.seen with
    | [] => .ok progress.record
    | names => .error (.rejected (.missingRequired names))

/-- The record of the tokens after the keywords, or what is wrong with them. -/
def readSwitches (template : SwitchedTemplate) (descriptor : Descriptor) (tokens : List String) :
    Except Fault Record :=
  let (occurrences, unknown) := template.occurrences tokens
  (occurrences.foldlM (Occurrence.bind descriptor) ⟨[], .empty⟩).bind (template.conclude unknown)

/-- What a line comes to, if it begins with the keywords of the command. -/
def read? (template : SwitchedTemplate) (descriptor : Descriptor) (tokens : List String) :
    Option (Except Fault Record) :=
  if template.keywords.isPrefixOf tokens then
    some (template.readSwitches descriptor (tokens.drop template.keywords.length))
  else none

end SwitchedTemplate

end Switchboard
