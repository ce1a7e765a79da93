import Switchboard.Registry
import Switchboard.Registry.Document.Members

/-!
# Loading registries

A registry is loaded from a document. Names that have no meaning are refused in the registry, in
its commands and in their parameters, so that a misspelled name does not pass. A command that can
be read as a fixed one is fixed. A field is read as a scalar, else as a record, else as a list,
and its other members are passed over.
-/
namespace Switchboard

namespace ScalarName

/-- The scalar type that a document names: by a text, or by a table with the name as its only key,
under which there is nothing. -/
def load? : Document → Option ScalarName
  | .table _ [(key, value)] => do
    let name ← (key.nameAmong? (all.map label)).join
    if value.isNothing then ofLabel? name else none
  | document => document.text?.bind ofLabel?

end ScalarName

namespace FieldSpec

mutual

/-- The field that a document declares. -/
def load : Document → Option FieldSpec
  | .table tag entries =>
    ((ScalarName.load? (.table tag entries)).map scalar).or <|
      ((loadComposite entries).map composite).or (loadList entries)
  | document => (ScalarName.load? document).map scalar

/-- The fields that a table declares. -/
def loadFields : Document → Option (List (String × FieldSpec))
  | .table _ entries => loadEntries entries
  | _ => none

/-- The fields that entries of a table declare. -/
def loadEntries : List (Document × Document) → Option (List (String × FieldSpec))
  | [] => some []
  | (key, value) :: rest => do
    let name ← key.text?
    let field ← load value
    let fields ← loadEntries rest
    some ((name, field) :: fields)

/-- The fields of the record that entries of a table declare, which they must do once. -/
def loadComposite : List (Document × Document) → Option (List (String × FieldSpec))
  | [] => none
  | (key, value) :: rest => match key.nameAmong? ["composite"] with
    | none => none
    | some none => loadComposite rest
    | some (some _) => if Document.areOthers "composite" rest then loadFields value else none

/-- The list that entries of a table declare, which they must do once. -/
def loadList : List (Document × Document) → Option FieldSpec
  | [] => none
  | (key, value) :: rest => match key.nameAmong? ["list"] with
    | none => none
    | some none => loadList rest
    | some (some _) => if Document.areOthers "list" rest then loadElements value else none

/-- The list whose elements a document declares. -/
def loadElements : Document → Option FieldSpec
  | .table tag entries =>
    ((ScalarName.load? (.table tag entries)).map scalarList).or
      ((loadEntries entries).map compositeList)
  | document => (ScalarName.load? document).map scalarList

end

end FieldSpec

/-- The fields of a command, none if they are left out. -/
def loadCommandFields (members : List (String × Document)) :
    Option (List (String × FieldSpec)) :=
  match members.lookup "fields" with
  | none => some []
  | some document => FieldSpec.loadFields document

namespace ParameterSpec

/-- The names of the members of a parameter. -/
def memberNames : List String :=
  ["name", "alias", "required", "repeatable", "composite", "value", "flag", "description"]

/-- The parameter that a document declares. -/
def load (document : Document) : Option ParameterSpec := do
  let members ← document.members memberNames
  let name ← Document.requiredText members "name"
  let shorthand ← Document.optionalText members "alias"
  let required ← Document.truthOf members "required"
  let repeatable ← Document.truthOf members "repeatable"
  let composite ← Document.optionalText members "composite"
  let value ← Document.optionalText members "value"
  let flag ← Document.optionalText members "flag"
  let description ← Document.optionalText members "description"
  some { name, shorthand, required, repeatable, composite, value, flag, description }

/-- The parameters of a command, none if they are left out. -/
def loadAll (members : List (String × Document)) : Option (List ParameterSpec) :=
  match members.lookup "parameters" with
  | none => some []
  | some (.list _ items) => items.mapM load
  | some _ => none

end ParameterSpec

namespace CommandSpec

/-- The names of the members of a fixed command. -/
def fixedMemberNames : List String := ["template", "description", "fields"]

/-- The names of the members of a switched command. -/
def switchedMemberNames : List String := ["name", "description", "fields", "parameters"]

/-- The fixed command that a document declares. -/
def loadFixed (document : Document) : Option CommandSpec := do
  let members ← document.members fixedMemberNames
  let template ← Document.requiredText members "template"
  let description ← Document.optionalText members "description"
  let fields ← loadCommandFields members
  some (fixed template description fields)

/-- The switched command that a document declares. -/
def loadSwitched (document : Document) : Option CommandSpec := do
  let members ← document.members switchedMemberNames
  let name ← Document.requiredText members "name"
  let description ← Document.optionalText members "description"
  let fields ← loadCommandFields members
  let parameters ← ParameterSpec.loadAll members
  some (switched name description fields parameters)

/-- The command that a document declares. Also what is passed over in it must be meaningful. -/
def load (document : Document) : Option CommandSpec :=
  if document.isMeaningful then (loadFixed document).or (loadSwitched document) else none

end CommandSpec

namespace Registry

/-- The names of the members of a registry. -/
def memberNames : List String := ["help", "exit_command", "commands"]

/-- The name that a key of a registry is. It counts as it is written. -/
def nameOf? : Document → Option String
  | .scalar _ _ name => if memberNames.contains name then some name else none
  | _ => none

/-- Whether there is a generated help, which there is not if that is left out. Only the word
counts, whatever its tag says. -/
def loadHelp (members : List (String × Document)) : Option Bool :=
  match members.lookup "help" with
  | none => some false
  | some (.scalar manner tag word) =>
    if manner = .plain ∨ (manner = .literal ∧ tag = some .truth) then Meaning.truthOfWord? word
    else none
  | some _ => none

/-- The exit command, none if it is left out or left empty. It is the text of any scalar, as it is
written. -/
def loadExitCommand (members : List (String × Document)) : Option (Option String) :=
  match members.lookup "exit_command" with
  | none => some none
  | some (.scalar .plain none word) =>
    some (if word.isEmpty || Meaning.nothingWords.contains word then none else some word)
  | some (.scalar .plain (some .nothing) word) =>
    if Meaning.nothingWords.contains word then some none else none
  | some (.scalar _ _ value) => some (some value)
  | some _ => none

/-- The commands of a registry, none if the place for them is left empty. -/
def loadCommands (members : List (String × Document)) : Option (List CommandSpec) :=
  match members.lookup "commands" with
  | some (.list _ items) => items.mapM CommandSpec.load
  | some (.scalar .plain _ word) => if word.isEmpty then some [] else none
  | _ => none

/-- The registry that a document declares. -/
def load : Document → Option Registry
  | .table _ entries => do
    let members ← Document.named nameOf? entries
    let help ← loadHelp members
    let exitCommand ← loadExitCommand members
    let commands ← loadCommands members
    some { help, exitCommand, commands }
  | _ => none

end Registry

end Switchboard
