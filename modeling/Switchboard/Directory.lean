/-!
# Directories

A record keeps its fields by name, in the order of the names' code points. A directory is a list
of named entries in that order, with one operation: change the entry of a name, which may be
absent.
-/
namespace Switchboard

/-- Named entries in the order of their names. -/
abbrev Directory (α : Type) := List (String × α)

namespace Directory

variable {α : Type}

/-- The entry of a name. -/
def find? (directory : Directory α) (name : String) : Option α := directory.lookup name

/-- Replace the entry of a name by a function of the entry there was. -/
def alter (name : String) (change : Option α → α) : Directory α → Directory α
  | [] => [(name, change none)]
  | (first, entry) :: rest =>
    if name < first then (name, change none) :: (first, entry) :: rest
    else if name = first then (first, change (some entry)) :: rest
    else (first, entry) :: alter name change rest

end Directory

end Switchboard
