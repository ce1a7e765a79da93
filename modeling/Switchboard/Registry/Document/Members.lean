import Switchboard.Registry.Document.Meaning

/-!
# Members of documents

A record is given as a table under the names of its members. In place of its name a member can
have its number, counted from zero, and a list gives the members in order.
-/
namespace Switchboard.Document

/-- The name among the given ones that a key stands for, absent if it stands for another name. A
key that is neither a text nor a whole number stands for no name at all. -/
def nameAmong? (names : List String) (key : Document) : Option (Option String) :=
  match key.meaning? with
  | some (.text name) => some (if names.contains name then some name else none)
  | some (.natural number) => some names[number]?
  | _ => none

/-- Whether entries have names, none of which is the given one. -/
def areOthers (name : String) (entries : List (Document × Document)) : Bool :=
  entries.all fun entry => entry.1.nameAmong? [name] == some none

/-- Entries under their names, which are among the given ones and all different. -/
def named (nameOf : Document → Option String) (entries : List (Document × Document)) :
    Option (List (String × Document)) := do
  let members ← entries.mapM fun (key, value) => (nameOf key).map fun name => (name, value)
  if (members.map (·.1)).Nodup then some members else none

/-- The members of a record. -/
def members (names : List String) : Document → Option (List (String × Document))
  | table _ entries => named (fun key => (key.nameAmong? names).join) entries
  | list _ items => if items.length ≤ names.length then some (names.zip items) else none
  | _ => none

/-- A text, unless it is left out or left empty. -/
def optionalText (members : List (String × Document)) (name : String) :
    Option (Option String) :=
  match members.lookup name with
  | none => some none
  | some document => if document.isNothing then some none else document.text?.map some

/-- A text that must be given. -/
def requiredText (members : List (String × Document)) (name : String) : Option String :=
  (members.lookup name).bind text?

/-- A truth value, false if it is left out. -/
def truthOf (members : List (String × Document)) (name : String) : Option Bool :=
  match members.lookup name with
  | none => some false
  | some document => document.truth?

end Switchboard.Document
