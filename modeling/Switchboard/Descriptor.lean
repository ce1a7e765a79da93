import Switchboard.Scalar
import Switchboard.Text.Quoted

/-!
# Descriptors

A descriptor declares the record type of a command: which fields there are and what each can
hold. The validator asks it for shapes, the binder for types, and both look a name up in the
same way.
-/
namespace Switchboard

/-- What a field is declared to hold. A record field has a type name and fields of its own. -/
inductive FieldType where
  | scalar (type : ScalarType)
  | list (type : ScalarType)
  | composite (typeName : String) (fields : List (String × FieldType))
  | compositeList (typeName : String) (fields : List (String × FieldType))
  deriving Inhabited

/-- What messages tell of the type of a field. -/
inductive FieldShape where
  | scalar (kind : ScalarKind)
  | composite
  | scalarList (kind : ScalarKind)
  | compositeList
  deriving DecidableEq, Repr

/-- The name of a shape in messages. -/
def FieldShape.label : FieldShape → String
  | scalar kind => kind.label
  | composite => "composite"
  | scalarList kind => "list of " ++ kind.label
  | compositeList => "list of composite"

/-- The shape of a type. -/
def FieldType.shape : FieldType → FieldShape
  | scalar type => .scalar type.kind
  | list type => .scalarList type.kind
  | composite _ _ => .composite
  | compositeList _ _ => .compositeList

/-- The declaration of a record type. -/
structure Descriptor where
  /-- The name of the type in messages. -/
  typeName : String
  /-- The fields and their types. -/
  fields : List (String × FieldType)
  deriving Inhabited

namespace Descriptor

/-- A record type without fields. -/
def empty (typeName : String) : Descriptor := ⟨typeName, []⟩

/-- Declare a field. An earlier field of that name is withdrawn. -/
def add (descriptor : Descriptor) (name : String) (type : FieldType) : Descriptor :=
  ⟨descriptor.typeName, descriptor.fields.filter (·.1 ≠ name) ++ [(name, type)]⟩

/-- Declare fields one after the other. -/
def addAll (descriptor : Descriptor) (fields : List (String × FieldType)) : Descriptor :=
  fields.foldl (fun declared field => declared.add field.1 field.2) descriptor

/-- The names of the fields, in the order of their declaration. -/
def fieldNames (descriptor : Descriptor) : List String := descriptor.fields.map (·.1)

/-- The type of a field. -/
def find? (descriptor : Descriptor) (name : String) : Option FieldType :=
  descriptor.fields.lookup name

/-- The shape of a field. -/
def shape? (descriptor : Descriptor) (name : String) : Option FieldShape :=
  (descriptor.find? name).map FieldType.shape

/-- The declaration of the records that a field holds. -/
def nested? (descriptor : Descriptor) (name : String) : Option Descriptor :=
  match descriptor.find? name with
  | some (.composite typeName fields) => some ⟨typeName, fields⟩
  | some (.compositeList typeName fields) => some ⟨typeName, fields⟩
  | _ => none

/-- A one-line account of a descriptor for diagnosis. -/
def summary (descriptor : Descriptor) : String :=
  "TargetDescriptor \x7b type_name: " ++ Text.quoted descriptor.typeName ++ ", fields: [" ++
    ", ".intercalate (descriptor.fieldNames.map Text.quoted) ++ "] \x7d"

end Descriptor

end Switchboard
