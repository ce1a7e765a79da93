import Switchboard.Template.Fixed
import Switchboard.Template.Switched

/-!
# Templates

The two ways to describe a command. Whatever the way, a template has the keywords by which it is
told from others and a heading under which the help lists it.
-/
namespace Switchboard

/-- The description of a command. -/
inductive Template where
  | fixed (template : FixedTemplate)
  | switched (template : SwitchedTemplate)
  deriving DecidableEq, Repr

namespace Template

/-- The keywords of a command, joined by single spaces. -/
def keyword : Template → String
  | fixed template => template.keyword
  | switched template => " ".intercalate template.keywords

/-- The heading of a command in the help and in replies. -/
def heading : Template → String
  | fixed template => template.source
  | switched template => template.name

/-- The parameters of a command; a fixed command has none. -/
def parameters : Template → List Parameter
  | fixed _ => []
  | switched template => template.parameters

end Template

end Switchboard
