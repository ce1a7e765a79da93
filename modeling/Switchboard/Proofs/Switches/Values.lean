import Mathlib.Data.List.Forall2
import Switchboard.Proofs.Registration.Acceptance
import Switchboard.Proofs.Template.SlotNames
/-!
# What an occurrence enters

The binder reads, converts and writes capture by capture. For an accepted command that comes to two
steps which have nothing to do with each other: the captures of an occurrence are converted without
regard to the record (`Occurrence.entry`), and then the values are put where the entry's target says
(`Record.enter`). `Occurrence.write_eq` is the bridge. Faults of a line and contents of a record
are proved on its two sides.
-/
namespace Switchboard

/-! ## Conversions of several captures -/

section Conversions

variable {α β ε : Type} {convert : α → Except ε β}

/-- Conversions in order all succeed exactly when each does. -/
theorem mapM_ok_iff {inputs : List α} {outputs : List β} :
    inputs.mapM convert = .ok outputs ↔
      List.Forall₂ (fun input output => convert input = .ok output) inputs outputs := by
  induction inputs generalizing outputs with
  | nil => cases outputs <;> simp [pure, Except.pure]
  | cons input rest ih =>
    rw [List.mapM_cons]
    cases head : convert input with
    | error error => cases outputs <;> simp [bind, Except.bind, head]
    | ok output =>
      cases outputs with
      | nil => cases rest.mapM convert <;> simp [bind, Except.bind, pure, Except.pure]
      | cons first later =>
        rw [List.forall₂_cons, ← ih, head]
        cases rest.mapM convert <;> simp [bind, Except.bind, pure, Except.pure]

/-- Conversions in order fail with the error of the first that fails. -/
theorem mapM_error_iff {inputs : List α} {error : ε} :
    inputs.mapM convert = .error error ↔
      ∃ before input after, inputs = before ++ input :: after ∧
        (∀ earlier ∈ before, ∃ output, convert earlier = .ok output) ∧
        convert input = .error error := by
  induction inputs with
  | nil =>
    rw [List.mapM_nil]
    constructor
    · intro same
      cases same
    · rintro ⟨before, input, after, same, _⟩
      simp at same
  | cons first rest ih =>
    rw [List.mapM_cons]
    cases head : convert first with
    | error early =>
      simp only [bind, Except.bind, Except.error.injEq]
      constructor
      · rintro rfl
        exact ⟨[], first, rest, rfl, by simp, head⟩
      · rintro ⟨before, input, after, same, succeeded, failed⟩
        cases before with
        | nil =>
          cases same
          rw [head] at failed
          exact Except.error.inj failed
        | cons earlier before =>
          cases same
          obtain ⟨output, done⟩ := succeeded first (by simp)
          rw [head] at done
          contradiction
    | ok output =>
      have unchanged : (do
          let later ← rest.mapM convert
          pure (output :: later)) = Except.error error ↔ rest.mapM convert = .error error := by
        cases rest.mapM convert <;> simp [bind, Except.bind, pure, Except.pure]
      simp only [bind, Except.bind] at unchanged ⊢
      rw [unchanged, ih]
      constructor
      · rintro ⟨before, input, after, rfl, succeeded, failed⟩
        refine ⟨first :: before, input, after, rfl, ?_, failed⟩
        intro earlier member
        cases member with
        | head => exact ⟨output, head⟩
        | tail _ member => exact succeeded earlier member
      · rintro ⟨before, input, after, same, succeeded, failed⟩
        cases before with
        | nil =>
          cases same
          rw [head] at failed
          contradiction
        | cons earlier before =>
          cases same
          exact ⟨before, input, after, rfl,
            fun other member => succeeded other (List.mem_cons_of_mem _ member), failed⟩

end Conversions

/-! ## Captures become values -/

namespace Descriptor

variable {descriptor : Descriptor}

/-- The type of the scalars that a field holds, alone or in a list. -/
def scalarType? (descriptor : Descriptor) (field : String) : Option ScalarType :=
  match descriptor.find? field with
  | some (.scalar type) => some type
  | some (.list type) => some type
  | _ => none

/-- The value that a capture stands for in its field. -/
def convert (descriptor : Descriptor) (capture : String × String) :
    Except BindError (String × Scalar) :=
  match descriptor.scalarType? capture.1 with
  | none => .error (descriptor.unknown capture.1)
  | some type => match type.read capture.2 with
    | some value => .ok (capture.1, value)
    | none => .error (.conversion capture.1 capture.2 type.kind)

/-- A write converts the captures of a field and puts the value into the record. -/
def Writes (descriptor : Descriptor) (write : Record → String → String → Written)
    (put : Record → String × Scalar → Record) (field : String) : Prop :=
  ∀ record text, write record field text = match descriptor.convert (field, text) with
    | .ok value => ⟨put record value, none⟩
    | .error error => ⟨record, some error⟩

/-- A scalar field is written by conversion and replacement. -/
theorem setScalar_writes {field : String} (declared : descriptor.Declares .scalar field) :
    descriptor.Writes descriptor.setScalar (fun record value => record.set value.1 value.2)
      field := by
  obtain ⟨type, found⟩ := declared.scalar
  intro record text
  simp only [setScalar, writeScalar, convert, scalarType?, found]
  cases type.read text <;> rfl

/-- A list field is written by conversion and appending. -/
theorem pushScalar_writes {field : String} (declared : descriptor.Declares .scalarList field) :
    descriptor.Writes descriptor.pushScalar (fun record value => record.push value.1 value.2)
      field := by
  obtain ⟨type, found⟩ := declared.scalarList
  intro record text
  simp only [pushScalar, writeScalar, convert, scalarType?, found]
  cases type.read text <;> rfl

/-- A field of either shape has a type for its scalars. -/
theorem Declares.scalarType? {expected : ExpectedShape} {field : String}
    (declared : descriptor.Declares expected field)
    (shape : expected = .scalar ∨ expected = .scalarList) :
    ∃ type, descriptor.scalarType? field = some type := by
  rcases shape with rfl | rfl
  · obtain ⟨type, found⟩ := declared.scalar
    exact ⟨type, by simp only [Descriptor.scalarType?, found]⟩
  · obtain ⟨type, found⟩ := declared.scalarList
    exact ⟨type, by simp only [Descriptor.scalarType?, found]⟩

variable {write : Record → String → String → Written} {put : Record → String × Scalar → Record}

/-- Captures that all convert are written one after the other. -/
theorem writeAll_ok {captures : List (String × String)} {values : List (String × Scalar)}
    (writes : ∀ capture ∈ captures, descriptor.Writes write put capture.1)
    (converted : captures.mapM descriptor.convert = .ok values) (record : Record) :
    writeAll write record captures = ⟨values.foldl put record, none⟩ := by
  rw [mapM_ok_iff] at converted
  induction converted generalizing record with
  | nil => rfl
  | @cons capture value captures values head _ ih =>
    have first := writes capture List.mem_cons_self record capture.2
    simp only [head] at first
    rw [writeAll, first]
    exact ih (fun other member => writes other (List.mem_cons_of_mem _ member)) (put record value)

/-- Writing stops at the first capture that does not convert. -/
theorem writeAll_error {captures : List (String × String)} {error : BindError}
    (writes : ∀ capture ∈ captures, descriptor.Writes write put capture.1)
    (failed : captures.mapM descriptor.convert = .error error) (record : Record) :
    (writeAll write record captures).error = some error := by
  induction captures generalizing record with
  | nil => cases failed
  | cons capture rest ih =>
    have first := writes capture List.mem_cons_self record capture.2
    rw [List.mapM_cons] at failed
    cases head : descriptor.convert capture with
    | error early =>
      simp only [head] at first
      simp only [head, bind, Except.bind, Except.error.injEq] at failed
      rw [writeAll, first, failed]
    | ok value =>
      simp only [head] at first
      have later : rest.mapM descriptor.convert = .error error := by
        cases tail : rest.mapM descriptor.convert with
        | error error => simpa [head, tail, bind, Except.bind] using failed
        | ok values => simp [head, tail, bind, Except.bind, pure, Except.pure] at failed
      rw [writeAll, first]
      exact ih (fun other member => writes other (List.mem_cons_of_mem _ member)) later _

/-- Writing captures, and then changing the record, comes to the change of the record with all
values, or to the first error. -/
theorem writeAll_outcome {captures : List (String × String)}
    (writes : ∀ capture ∈ captures, descriptor.Writes write put capture.1) (record : Record)
    (change : Record → Record) :
    Written.outcome ⟨change (writeAll write record captures).record,
        (writeAll write record captures).error⟩ =
      match captures.mapM descriptor.convert with
      | .ok values => .ok (change (values.foldl put record))
      | .error error => .error (.malformed error) := by
  cases converted : captures.mapM descriptor.convert with
  | ok values =>
    rw [writeAll_ok writes converted]
    rfl
  | error error =>
    rw [writeAll_error writes converted]
    rfl

/-- The text that sets a flag is read as true, so a declared truth field is set. -/
theorem setFlag_of_declared {descriptor : Descriptor} {field : String}
    (declared : descriptor.find? field = some (.scalar .bool)) (record : Record) :
    descriptor.setFlag record field = ⟨record.set field (.bool true), none⟩ := by
  have read : ScalarType.bool.read "true" = some (.bool true) := by decide
  simp only [setFlag, declared, writeScalar, read]

end Descriptor

/-! ## Occurrences become values -/

/-- The record type whose fields the slots of a parameter are. -/
def Parameter.receiver (parameter : Parameter) (descriptor : Descriptor) : Descriptor :=
  match parameter.composite with
  | none => descriptor
  | some field => (descriptor.nested? field).getD descriptor

/-- Where in a record the values of an occurrence go. -/
inductive Target where
  | fields
  | lists
  | nested (field : String)
  | elements (field : String)
  deriving DecidableEq, Repr

/-- What an occurrence enters into a record. -/
structure Entry where
  /-- Where the values go. -/
  target : Target
  /-- Slots and the values of their captures, in slot order. -/
  values : List (String × Scalar)
  deriving DecidableEq, Repr

namespace Record

/-- Write scalar fields one after the other. -/
def setAll (record : Record) (values : List (String × Scalar)) : Record :=
  values.foldl (fun record value => record.set value.1 value.2) record

/-- Append to lists of scalars one after the other. -/
def pushAll (record : Record) (values : List (String × Scalar)) : Record :=
  values.foldl (fun record value => record.push value.1 value.2) record

/-- Put the values of an entry where its target says. -/
def enter (record : Record) (entry : Entry) : Record :=
  match entry.target with
  | .fields => record.setAll entry.values
  | .lists => record.pushAll entry.values
  | .nested field => record.setNested field ((record.nestedAt field).setAll entry.values)
  | .elements field => record.pushNested field (Record.empty.setAll entry.values)

end Record

namespace Parameter

variable {descriptor : Descriptor} {parameter : Parameter}

/-- Where the values of a valued parameter go. -/
def target (parameter : Parameter) : Target :=
  match parameter.composite with
  | none => if parameter.repeatable then .lists else .fields
  | some field => if parameter.repeatable then .elements field else .nested field

/-- Binding the captures of an accepted parameter is converting them all and entering the values at
the target of the parameter. -/
theorem bind_outcome {template : ValueTemplate} {value : String}
    {captures : List (String × String)} (fits : parameter.Fits descriptor)
    (kind : parameter.kind = .valued template) (found : template.capture value = some captures)
    (record : Record) :
    (parameter.bind descriptor record captures).outcome =
      match captures.mapM (parameter.receiver descriptor).convert with
      | .ok values => .ok (record.enter ⟨parameter.target, values⟩)
      | .error error => .error (.malformed error) := by
  have slots := ValueTemplate.capture_mem found
  cases fits with
  | flag taken => cases kind.symm.trans taken
  | scalars taken _ plain once declared =>
    cases kind.symm.trans taken
    have writes capture member :=
      Descriptor.setScalar_writes (declared capture.1 (slots capture member))
    simp only [bind, receiver, target, plain, once, Bool.false_eq_true, ↓reduceIte]
    exact Descriptor.writeAll_outcome writes record id
  | lists taken _ plain again declared =>
    cases kind.symm.trans taken
    have writes capture member :=
      Descriptor.pushScalar_writes (declared capture.1 (slots capture member))
    simp only [bind, receiver, target, plain, again, ↓reduceIte]
    exact Descriptor.writeAll_outcome writes record id
  | @nested _ field typeName fields taken _ inner once holder declared =>
    cases kind.symm.trans taken
    have writes capture member :=
      Descriptor.setScalar_writes (declared capture.1 (slots capture member))
    simp only [bind, receiver, target, inner, once, Bool.false_eq_true, ↓reduceIte,
      Descriptor.assignNested, Descriptor.nested?, holder, Option.getD_some]
    exact Descriptor.writeAll_outcome writes (record.nestedAt field) (record.setNested field)
  | @elements _ field typeName fields taken _ inner again holder declared =>
    cases kind.symm.trans taken
    have writes capture member :=
      Descriptor.setScalar_writes (declared capture.1 (slots capture member))
    simp only [bind, receiver, target, inner, again, ↓reduceIte,
      Descriptor.assignNested, Descriptor.nested?, holder, Option.getD_some]
    cases converted : captures.mapM (Descriptor.convert ⟨typeName, fields⟩) with
    | ok values =>
      rw [Descriptor.writeAll_ok writes converted]
      rfl
    | error error =>
      rw [Descriptor.writeAll_error writes converted Record.empty]
      rfl

end Parameter

namespace Occurrence

variable {descriptor : Descriptor}

/-- The parameter of an occurrence takes what the occurrence has. -/
def Consistent : Occurrence → Prop
  | flag parameter field => parameter.kind = .flag field
  | valued parameter template _ => parameter.kind = .valued template

/-- What an occurrence enters into a record, or what is wrong with it. -/
def entry (descriptor : Descriptor) : Occurrence → Except Fault Entry
  | flag _ field => .ok ⟨.fields, [(field, .bool true)]⟩
  | valued parameter template value => match template.capture value with
    | none => .error (.rejected (.malformedValue parameter.name value template.source))
    | some captures => match captures.mapM (parameter.receiver descriptor).convert with
      | .ok values => .ok ⟨parameter.target, values⟩
      | .error error => .error (.malformed error)

/-- Writing an occurrence of an accepted parameter is finding its entry and entering it. -/
theorem write_eq {occurrence : Occurrence} (consistent : occurrence.Consistent)
    (fits : occurrence.parameter.Fits descriptor) (record : Record) :
    occurrence.write descriptor record = (occurrence.entry descriptor).map record.enter := by
  cases occurrence with
  | flag parameter field =>
    cases fits with
    | flag kind _ _ declared =>
      cases consistent.symm.trans kind
      simp only [write, Descriptor.setFlag_of_declared declared]
      rfl
    | scalars kind | lists kind | nested kind | elements kind =>
      cases consistent.symm.trans kind
  | valued parameter template value =>
    change parameter.kind = .valued template at consistent
    change parameter.Fits descriptor at fits
    cases found : template.capture value with
    | none =>
      simp only [write, entry, found]
      rfl
    | some captures =>
      simp only [write, entry, found]
      rw [Parameter.bind_outcome fits consistent found record]
      cases captures.mapM (parameter.receiver descriptor).convert <;> rfl

end Occurrence

end Switchboard
