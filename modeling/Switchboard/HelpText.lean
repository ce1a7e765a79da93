import Switchboard.Template

/-!
# Help text

The help lists every command with its description and, one to a row, its parameters. The columns
of the rows start at the same places for all commands: each is as wide as its longest text and a
gap.
-/
namespace Switchboard

/-- A command as the help lists it. -/
structure HelpEntry where
  /-- How the command is written on a line. -/
  template : Template
  /-- What the command is for. -/
  description : Option String

namespace HelpText

/-- The least number of spaces between two columns. -/
def columnGap : Nat := 4

/-- A text filled up with spaces to a width. -/
def padTo (width : Nat) (text : String) : String :=
  text ++ String.ofList (List.replicate (width - text.length) ' ')

/-- The shorthand of a parameter, empty if it has none. -/
def shorthandOf (parameter : Parameter) : String := parameter.shorthand.getD ""

/-- The width of a column that holds the given texts. -/
def columnWidth (texts : List String) : Nat :=
  (texts.map String.length).foldl max 0 + columnGap

/-- The widths of the first two columns. -/
structure Columns where
  /-- The width of the column of names. -/
  name : Nat
  /-- The width of the column of shorthands. -/
  shorthand : Nat

/-- The columns of a list of parameters. -/
def Columns.of (parameters : List Parameter) : Columns :=
  ⟨columnWidth (parameters.map Parameter.name), columnWidth (parameters.map shorthandOf)⟩

/-- The row of a parameter, without the blanks at its end. -/
def row (columns : Columns) (parameter : Parameter) : String :=
  Text.trimEnd (padTo columns.name parameter.name ++
    padTo columns.shorthand (shorthandOf parameter) ++ parameter.description.getD "")

/-- The rows of the parameters of a command under their heading. -/
def rows (columns : Columns) (parameters : List Parameter) : String :=
  if parameters.isEmpty then ""
  else "Parameters:\n" ++ "\n".intercalate (parameters.map (row columns)) ++ "\n"

/-- The line of a description, unless it is empty. -/
def descriptionLine (description : String) : String :=
  if description.isEmpty then "" else "Description: " ++ description ++ "\n"

/-- What the help says of a command. -/
def block (columns : Columns) (entry : HelpEntry) : String :=
  "\nCommand: " ++ entry.template.heading ++ "\n" ++
    descriptionLine (entry.description.getD "") ++ rows columns entry.template.parameters

end HelpText

/-- The help on a list of commands. -/
def helpText (entries : List HelpEntry) : String :=
  let columns := HelpText.Columns.of (entries.flatMap fun entry => entry.template.parameters)
  String.join (entries.map (HelpText.block columns))

end Switchboard
