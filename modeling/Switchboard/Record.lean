import Switchboard.Directory
import Switchboard.Scalar

/-!
# Records

What a command line says, as the handler of its command receives it: fields by name, in four
groups. A field is a scalar, a record, a list of scalars or a list of records.
-/
namespace Switchboard

/-- The fields of one command line. -/
inductive Record where
  | of (scalars : List (String × Scalar)) (nested : List (String × Record))
      (lists : List (String × List Scalar)) (nestedLists : List (String × List Record))

namespace Record

/-- The fields that hold one scalar. -/
def scalars : Record → Directory Scalar
  | of scalars _ _ _ => scalars

/-- The fields that hold a record. -/
def nested : Record → Directory Record
  | of _ nested _ _ => nested

/-- The fields that hold a list of scalars. -/
def lists : Record → Directory (List Scalar)
  | of _ _ lists _ => lists

/-- The fields that hold a list of records. -/
def nestedLists : Record → Directory (List Record)
  | of _ _ _ nestedLists => nestedLists

/-- The record without fields. -/
def empty : Record := of [] [] [] []

instance : Inhabited Record := ⟨empty⟩

/-- Write a scalar field. -/
def set (record : Record) (field : String) (value : Scalar) : Record :=
  of (record.scalars.alter field fun _ => value) record.nested record.lists record.nestedLists

/-- Append to a list of scalars, which is begun if it is absent. -/
def push (record : Record) (field : String) (value : Scalar) : Record :=
  of record.scalars record.nested
    (record.lists.alter field fun list => list.getD [] ++ [value]) record.nestedLists

/-- A nested record, empty if it is absent. -/
def nestedAt (record : Record) (field : String) : Record :=
  (record.nested.find? field).getD empty

/-- Write a nested record. -/
def setNested (record : Record) (field : String) (inner : Record) : Record :=
  of record.scalars (record.nested.alter field fun _ => inner) record.lists record.nestedLists

/-- Append to a list of records, which is begun if it is absent. -/
def pushNested (record : Record) (field : String) (element : Record) : Record :=
  of record.scalars record.nested record.lists
    (record.nestedLists.alter field fun list => list.getD [] ++ [element])

end Record

end Switchboard
