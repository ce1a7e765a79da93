import Switchboard.Proofs.Descriptor.Additions
import Switchboard.Proofs.Record.FailedWrites
/-!
# Two views of a descriptor

The validator asks a descriptor for the shape of a field and for the declaration nested in it; the
binder looks the field up by itself when it writes. That both have the same view of every name
(`Descriptor.BoundAsShown`) is so of any descriptor. With what additions make of one it says that
both see the map in which the last addition of a name counts (`Descriptor.addAll_lastWins`).
-/
namespace Switchboard

/-! ## How a name is bound -/

/-- A write finds no field of its name to go to. -/
def Written.Unknown (written : Written) : Prop :=
  ∃ typeName field, written.error = some (.unknownField typeName field)

namespace Descriptor

variable {descriptor : Descriptor} {name : String}

/-- Texts go to a name exactly if it is shown in the shape that the write needs. -/
theorem WritesText.known_iff {shape : ScalarType → FieldType} {write : String → Written}
    {record : Record} {put : Scalar → Record}
    (writes : descriptor.WritesText shape name write record put) {shown : ScalarKind → FieldShape}
    (fitting : ∀ {type : FieldType} {kind : ScalarKind},
      type.shape = shown kind ↔ ∃ scalar, type = shape scalar ∧ scalar.kind = kind)
    (text : String) :
    ¬ (write text).Unknown ↔ ∃ kind, descriptor.shape? name = some (shown kind) := by
  have errors := (writes.untouched text).error_iff
  constructor
  · intro known
    by_contra hidden
    refine known ⟨_, _, (errors _).mpr (.unknown fun type found => hidden ?_)⟩
    exact ⟨type.kind, shape?_eq_some_iff.mpr ⟨_, found, fitting.mpr ⟨type, rfl, rfl⟩⟩⟩
  · rintro ⟨kind, shown⟩ ⟨typeName, field, failed⟩
    obtain ⟨type, found, shaped⟩ := shape?_eq_some_iff.mp shown
    obtain ⟨scalar, rfl, _⟩ := fitting.mp shaped
    cases (errors _).mp failed with
    | unknown misfit => exact misfit scalar found

/-- A flag goes to a name exactly if it is shown as a truth field. -/
theorem setFlag_known_iff (record : Record) :
    ¬ (descriptor.setFlag record name).Unknown ↔
      descriptor.shape? name = some (.scalar .bool) := by
  have errors := (descriptor.setFlag_untouched record name).error_iff
  rw [shape?_eq_bool_iff]
  constructor
  · intro known
    by_contra misfit
    exact known ⟨_, _, (errors _).mpr ⟨misfit, rfl⟩⟩
  · rintro found ⟨typeName, field, failed⟩
    exact ((errors _).mp failed).1 found

/-- A flag that goes to a name is the text that says so, and is always taken. -/
theorem setFlag_eq_setScalar (record : Record)
    (shown : descriptor.shape? name = some (.scalar .bool)) :
    descriptor.setFlag record name = descriptor.setScalar record name "true" ∧
      (descriptor.setFlag record name).error = none := by
  have found := shape?_eq_bool_iff.mp shown
  have read : ScalarType.bool.read "true" = some (.bool true) := by decide
  have flagged := setFlag_of_declared found record
  have set := (descriptor.setScalar_writesText record name).accepted "true" (.bool true)
    ⟨.bool, found, read⟩
  exact ⟨flagged.trans set.symm, by rw [flagged]⟩

/-- Captures go to a name exactly if it is shown with a nested declaration. -/
theorem assignNested_known_iff (record : Record) :
    ¬ (descriptor.assignNested record name []).Unknown ↔ (descriptor.nested? name).isSome := by
  unfold assignNested nested? Written.Unknown
  cases descriptor.find? name with
  | none => simp [unknown]
  | some type => cases type <;> simp [unknown, writeAll]

/-- What is shown of a name says which writes find it, whatever the record and the text. -/
structure BoundAsShown (descriptor : Descriptor) (name : String) : Prop where
  /-- Records and lists of records are the shapes with a nested declaration. -/
  nested : (descriptor.nested? name).isSome ↔
    descriptor.shape? name = some .composite ∨ descriptor.shape? name = some .compositeList
  /-- A text is set in a scalar field. -/
  set : ∀ record text, ¬ (descriptor.setScalar record name text).Unknown ↔
    ∃ kind, descriptor.shape? name = some (.scalar kind)
  /-- A text is appended to a list of scalars. -/
  push : ∀ record text, ¬ (descriptor.pushScalar record name text).Unknown ↔
    ∃ kind, descriptor.shape? name = some (.scalarList kind)
  /-- A flag is set in a truth field. -/
  flag : ∀ record, ¬ (descriptor.setFlag record name).Unknown ↔
    descriptor.shape? name = some (.scalar .bool)
  /-- There it is the text that says so, and is always taken. -/
  taken : ∀ record, descriptor.shape? name = some (.scalar .bool) →
    descriptor.setFlag record name = descriptor.setScalar record name "true" ∧
      (descriptor.setFlag record name).error = none
  /-- Captures, even none, are assigned to a record or to an element of a list of records. -/
  assign : ∀ record, ¬ (descriptor.assignNested record name []).Unknown ↔
    descriptor.shape? name = some .composite ∨ descriptor.shape? name = some .compositeList

/-- The validator and the binder have the same view of a name. -/
theorem boundAsShown (descriptor : Descriptor) (name : String) : descriptor.BoundAsShown name where
  nested := nested?_isSome_iff
  set record := (descriptor.setScalar_writesText record name).known_iff
    FieldType.shape_eq_scalar_iff
  push record := (descriptor.pushScalar_writesText record name).known_iff
    FieldType.shape_eq_scalarList_iff
  flag := setFlag_known_iff
  taken := setFlag_eq_setScalar
  assign record := (assignNested_known_iff record).trans nested?_isSome_iff

/-- A descriptor that is made by any additions, names repeated or not, is the map in which the last
addition of each name counts, and it is so for the validator, which asks for names, shapes and
nested declarations, and for the binder, which writes: a write finds a name exactly if the name is
shown in the shape of the write. -/
theorem addAll_lastWins (typeName : String) (additions : List (String × FieldType)) :
    let descriptor := (empty typeName).addAll additions
    descriptor.LastWins additions ∧ ∀ name, descriptor.BoundAsShown name :=
  ⟨lastWins_made typeName additions, boundAsShown _⟩

end Descriptor

namespace Sample

/-- The fields of a job, of which the port and the image are declared again. -/
def jobFields : List (String × FieldType) := [
  ("Port", .scalar (.unsigned 16)),
  ("Forced", .scalar .bool),
  ("Image", .composite "Image" imageFields),
  ("Port", .list .text),
  ("Image", .compositeList "Volume" [("MapTo", .scalar .text)])]

end Sample

/-- The port of a job is a list of texts and its image a list of volumes; both stand where they are
declared again, and no text can be set as the port any more. -/
theorem Descriptor.addAll_lastWins_job :
    let job := (empty "Job").addAll Sample.jobFields
    job.fieldNames = ["Forced", "Port", "Image"] ∧
      LastAdded Sample.jobFields "Port" (.list .text) ∧
      job.shape? "Port" = some (.scalarList .text) ∧
      job.nested? "Image" = some ⟨"Volume", [("MapTo", .scalar .text)]⟩ ∧
      "Tag" ∉ Sample.jobFields.map Prod.fst ∧ job.shape? "Tag" = none ∧
      ∀ record, (job.setScalar record "Port" "80").Unknown ∧
        ¬ (job.pushScalar record "Port" "80").Unknown ∧
        (job.setFlag record "Forced").error = none := by
  intro job
  obtain ⟨lastWins, bound⟩ := addAll_lastWins "Job" Sample.jobFields
  have port : LastAdded Sample.jobFields "Port" (.list .text) :=
    ⟨Sample.jobFields.take 3, Sample.jobFields.drop 4, rfl, by decide⟩
  have image : LastAdded Sample.jobFields "Image"
      (.compositeList "Volume" [("MapTo", .scalar .text)]) :=
    ⟨Sample.jobFields.take 4, [], rfl, List.not_mem_nil⟩
  have shown : job.shape? "Port" = some (.scalarList .text) :=
    (lastWins.shape _ _).mpr ⟨_, port, rfl⟩
  have absent : "Tag" ∉ Sample.jobFields.map Prod.fst := by decide
  refine ⟨by decide, port, shown, (lastWins.nested _ ⟨"Volume", _⟩).mpr (.inr image), absent,
    (lastWins.other _ absent).1, fun record => ⟨?_, ?_, ?_⟩⟩
  · by_contra known
    obtain ⟨kind, scalar⟩ := ((bound "Port").set record "80").mp known
    rw [shown] at scalar
    cases scalar
  · exact ((bound "Port").push record "80").mpr ⟨_, shown⟩
  · exact ((bound "Forced").taken record (by decide)).2

end Switchboard
