import Switchboard.Descriptor
import Switchboard.Record
import Switchboard.Scalar.Reading

/-!
# Binding

Captured texts are written into a record through its descriptor. A write that fails says why
and leaves the record as it was, with one exception: the captures of one switch go into a
nested record one by one, and those before the failing one stay written.
-/
namespace Switchboard

/-- Why a text could not be written to a field. -/
inductive BindError where
  | conversion (field value : String) (expected : ScalarKind)
  | unknownField (typeName field : String)
  deriving DecidableEq, Repr

/-- The error in words. -/
def BindError.message : BindError → String
  | conversion field value expected =>
    s!"cannot convert '{value}' to {expected.label} for field {field}"
  | unknownField typeName field => s!"{typeName} has no bindable field {field}"

/-- What a write leaves behind. -/
structure Written where
  /-- The record after the write. -/
  record : Record
  /-- Why the write stopped, if it did. -/
  error : Option BindError

namespace Descriptor

/-- The error of a field that has no fitting declaration. -/
def unknown (descriptor : Descriptor) (field : String) : BindError :=
  .unknownField descriptor.typeName field

/-- Read a text in a type and hand the value on; a text that cannot be read leaves the record. -/
def writeScalar (type : ScalarType) (record : Record) (field text : String)
    (write : Scalar → Record) : Written :=
  match type.read text with
  | some value => ⟨write value, none⟩
  | none => ⟨record, some (.conversion field text type.kind)⟩

/-- Write a scalar field. -/
def setScalar (descriptor : Descriptor) (record : Record) (field text : String) : Written :=
  match descriptor.find? field with
  | some (.scalar type) => writeScalar type record field text (record.set field)
  | _ => ⟨record, some (descriptor.unknown field)⟩

/-- Append to a field that holds a list of scalars. -/
def pushScalar (descriptor : Descriptor) (record : Record) (field text : String) : Written :=
  match descriptor.find? field with
  | some (.list type) => writeScalar type record field text (record.push field)
  | _ => ⟨record, some (descriptor.unknown field)⟩

/-- Set a truth field, by the text that says so. -/
def setFlag (descriptor : Descriptor) (record : Record) (field : String) : Written :=
  match descriptor.find? field with
  | some (.scalar .bool) => writeScalar .bool record field "true" (record.set field)
  | _ => ⟨record, some (descriptor.unknown field)⟩

/-- Write captures one after the other and stop at the first that fails. -/
def writeAll (write : Record → String → String → Written) :
    Record → List (String × String) → Written
  | record, [] => ⟨record, none⟩
  | record, (field, text) :: rest =>
    let written := write record field text
    match written.error with
    | none => writeAll write written.record rest
    | some error => ⟨written.record, some error⟩

/-- Write the captures of one switch to a nested record, or to a new element of a list of
records, which is appended only when it is complete. -/
def assignNested (descriptor : Descriptor) (record : Record) (field : String)
    (captures : List (String × String)) : Written :=
  match descriptor.find? field with
  | some (.composite typeName fields) =>
    let written :=
      writeAll (Descriptor.setScalar ⟨typeName, fields⟩) (record.nestedAt field) captures
    ⟨record.setNested field written.record, written.error⟩
  | some (.compositeList typeName fields) =>
    let written := writeAll (Descriptor.setScalar ⟨typeName, fields⟩) .empty captures
    match written.error with
    | none => ⟨record.pushNested field written.record, none⟩
    | some error => ⟨record, some error⟩
  | _ => ⟨record, some (descriptor.unknown field)⟩

end Descriptor

end Switchboard
