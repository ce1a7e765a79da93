import Switchboard.Registry.Document

/-!
# Nodes

A document as it is written, before references are replaced by the data that they stand for. How
deep data is nested and how often references are followed is limited, so that a short text does
not stand for endless data.
-/
namespace Switchboard.Yaml

/-- Data as it is written. -/
inductive Node where
  /-- A value that has no parts. -/
  | scalar (manner : Manner) (tag : Option Tag) (value : String)
  /-- Data in order. -/
  | list (tag : Option Tag) (items : List Node)
  /-- Data under keys. -/
  | table (tag : Option Tag) (entries : List (Node × Node))
  /-- What stands for the data of a number. -/
  | reference (number : Nat)
  deriving Inhabited

namespace Node

/-- The data of numbers. -/
abbrev Book := Nat → Option Node

/-- How deep lists and tables can be nested. -/
def greatestDepth : Nat := 128

/-- How many references can be followed for each piece of data that is written. -/
def greatestReuse : Nat := 100

/-- A node, or the one that it refers to. The state is how many references can still be
followed. -/
def followed (book : Book) : Node → StateT Nat Option Node
  | reference number => do
    match ← get with
    | 0 => failure
    | left + 1 =>
      set left
      book number
  | node => return node

/-- The document of a node, in which lists and tables can be nested to a depth. -/
def document (book : Book) : Nat → Node → StateT Nat Option Document
  | depth, node => do
    match ← followed book node, depth with
    | scalar manner tag value, _ => return .scalar manner tag value
    | list tag items, depth + 1 => return .list tag (← items.mapM (document book depth))
    | table tag entries, depth + 1 =>
      return .table tag (← entries.mapM fun (key, value) =>
        return (← document book depth key, ← document book depth value))
    | _, _ => failure

/-- The document of a node that is written in the given count of pieces. -/
def document? (node : Node) (book : Book) (pieces : Nat) : Option Document :=
  ((node.document book greatestDepth).run (greatestReuse * pieces)).map (·.1)

end Node

end Switchboard.Yaml
