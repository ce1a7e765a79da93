import Switchboard.Proofs.Record.Content
/-!
# Writes that fail

A write is refused because its field is not of the shape that the write needs, or because its text
cannot be read in the type of the field (`Descriptor.Refuses`). A write that is refused leaves the
record as it was, except that the captures of one switch go into a nested record one by one: of
those before the first that is refused each field holds the last and the other fields what they held
before (`Record.Overwrites`), and the nested record is begun even if there are none
(`Descriptor.failed_writes`).
-/
namespace Switchboard

/-! ## What is left alone -/

/-- A change of a directory in which the entry of a name does not hang on the one there was. -/
theorem Directory.find?_alter_const {α : Type} (directory : Directory α) (name : String) (entry : α)
    (other : String) : (directory.alter name fun _ => entry).find? other =
      if other = name then some entry else directory.find? other := by
  induction directory with
  | nil => exact find?_cons name entry [] other
  | cons head rest ih =>
    obtain ⟨first, held⟩ := head
    unfold alter
    by_cases before : name < first
    · rw [if_pos before, find?_cons]
    · rw [if_neg before]
      by_cases same : name = first
      · rw [if_pos same, find?_cons, find?_cons, same]
        by_cases hit : other = first
        · rw [if_pos hit, if_pos hit]
        · rw [if_neg hit, if_neg hit, if_neg hit]
      · rw [if_neg same, find?_cons, find?_cons, ih]
        by_cases hit : other = first
        · rw [if_pos hit, if_pos hit, if_neg fun named => same (named.symm.trans hit)]
        · rw [if_neg hit, if_neg hit]

/-- Of one record another is made by putting a nested record into a field; all else is as it
was. -/
structure Record.Nests (before after : Record) (field : String) (inner : Record) : Prop where
  /-- The field holds the nested record. -/
  held : after.nested.find? field = some inner
  /-- The other nested records are as they were. -/
  others : ∀ other, other ≠ field → after.nested.find? other = before.nested.find? other
  /-- The nested records stay in order. -/
  ordered : before.nested.Ordered → after.nested.Ordered
  /-- The scalars are as they were. -/
  scalars : after.scalars = before.scalars
  /-- The lists of scalars are as they were. -/
  lists : after.lists = before.lists
  /-- The lists of records are as they were. -/
  nestedLists : after.nestedLists = before.nestedLists

/-- Writing a nested record changes no other field. -/
theorem Record.nests_setNested (record : Record) (field : String) (inner : Record) :
    record.Nests (record.setNested field inner) field inner := by
  have found := Directory.find?_alter_const record.nested field inner
  refine ⟨?_, fun other differs => ?_, fun ordered => ordered.alter field _, rfl, rfl, rfl⟩
  · exact (found field).trans (if_pos rfl)
  · exact (found other).trans (if_neg differs)

/-- Of one record another is made by values for scalar fields: a field holds the last of its values,
or what it held before if there is none. All else is as it was. -/
structure Record.Overwrites (before after : Record) (values : List (String × Scalar)) : Prop where
  /-- Each scalar field holds the last of its values, or what it held before. -/
  last : ∀ field, after.scalars.find? field =
    (allOf values field).getLast?.or (before.scalars.find? field)
  /-- The scalars stay in order. -/
  ordered : before.scalars.Ordered → after.scalars.Ordered
  /-- The nested records are as they were. -/
  nested : after.nested = before.nested
  /-- The lists of scalars are as they were. -/
  lists : after.lists = before.lists
  /-- The lists of records are as they were. -/
  nestedLists : after.nestedLists = before.nestedLists

/-- The values of a field when there is one more value before the others. -/
theorem allOf_cons (field : String) (value : Scalar) (values : List (String × Scalar))
    (other : String) : allOf ((field, value) :: values) other =
      (if other = field then [value] else []) ++ allOf values other := by
  by_cases same : other = field
  · simp [allOf, same]
  · simp [allOf, same, Ne.symm same]

/-- Writing values one after the other leaves each field with its last. -/
theorem Record.overwrites_setAll (record : Record) (values : List (String × Scalar)) :
    record.Overwrites (record.setAll values) values := by
  induction values generalizing record with
  | nil => exact ⟨fun _ => rfl, id, rfl, rfl, rfl⟩
  | cons value later ih =>
    obtain ⟨name, first⟩ := value
    have rest := ih (record.set name first)
    refine ⟨fun field => ?_, fun ordered => ?_, rest.nested, rest.lists, rest.nestedLists⟩
    · -- The first value counts where it has no later one, and hides what was there before.
      have written : (record.set name first).scalars.find? field =
          if field = name then some first else record.scalars.find? field :=
        Directory.find?_alter_const record.scalars name first field
      refine (rest.last field).trans ?_
      rw [written, allOf_cons, List.getLast?_append]
      by_cases same : field = name
      · rw [if_pos same, if_pos same]
        cases (allOf later field).getLast? <;> rfl
      · rw [if_neg same, if_neg same, List.getLast?_nil, Option.or_none]
    · have written : (record.set name first).scalars.Ordered := ordered.alter name _
      exact rest.ordered written

/-- A write that is refused with certain errors and no others, and then leaves the record. -/
structure Written.Untouched (written : Written) (record : Record) (Refused : BindError → Prop) :
    Prop where
  /-- The errors are those. -/
  error_iff : ∀ error, written.error = some error ↔ Refused error
  /-- With an error the record is as it was. -/
  unchanged : ∀ error, written.error = some error → written.record = record

namespace Descriptor

/-! ## One text -/

/-- A text is refused for a field that is to be of a shape: the field is of another shape or is not
declared, or the text stands for no value of its type. -/
inductive Refuses (descriptor : Descriptor) (shape : ScalarType → FieldType) (field text : String) :
    BindError → Prop where
  | unknown (misfit : ∀ type, descriptor.find? field ≠ some (shape type)) :
      Refuses descriptor shape field text (.unknownField descriptor.typeName field)
  | conversion {type : ScalarType} (declared : descriptor.find? field = some (shape type))
      (unread : type.read text = none) :
      Refuses descriptor shape field text (.conversion field text type.kind)

/-- A text is the value that it stands for in the type of its field. -/
def Accepts (descriptor : Descriptor) (shape : ScalarType → FieldType) (field text : String)
    (value : Scalar) : Prop :=
  ∃ type, descriptor.find? field = some (shape type) ∧ type.read text = some value

variable {descriptor : Descriptor} {shape : ScalarType → FieldType} {field text : String}

/-- A text is refused or accepted. -/
theorem refuses_or_accepts (descriptor : Descriptor) (shape : ScalarType → FieldType)
    (field text : String) :
    (∃ error, descriptor.Refuses shape field text error) ∨
      ∃ value, descriptor.Accepts shape field text value := by
  by_cases declared : ∃ type, descriptor.find? field = some (shape type)
  · obtain ⟨type, found⟩ := declared
    cases read : type.read text with
    | none => exact .inl ⟨_, .conversion found read⟩
    | some value => exact .inr ⟨value, type, found, read⟩
  · exact .inl ⟨_, .unknown fun type found => declared ⟨type, found⟩⟩

/-- A write that is done with an accepted text, and with a refused one leaves the record and says
why. -/
structure WritesText (descriptor : Descriptor) (shape : ScalarType → FieldType) (field : String)
    (write : String → Written) (record : Record) (put : Scalar → Record) : Prop where
  /-- An accepted text is put into the record. -/
  accepted : ∀ text value, descriptor.Accepts shape field text value →
    write text = ⟨put value, none⟩
  /-- A refused text leaves the record. -/
  refused : ∀ text error, descriptor.Refuses shape field text error →
    write text = ⟨record, some error⟩

/-- So the write is refused with the errors of its text alone, and then leaves the record. -/
theorem WritesText.untouched {write : String → Written} {record : Record} {put : Scalar → Record}
    (writes : descriptor.WritesText shape field write record put) (text : String) :
    (write text).Untouched record (descriptor.Refuses shape field text) := by
  rcases refuses_or_accepts descriptor shape field text with ⟨error, refused⟩ | ⟨value, accepted⟩
  · have done := writes.refused text error refused
    constructor
    · intro other
      constructor
      · intro failed
        rw [done, Option.some.injEq] at failed
        exact failed ▸ refused
      · intro refused
        rw [writes.refused text other refused]
    · intro other _
      rw [done]
  · have done := writes.accepted text value accepted
    constructor
    · intro error
      constructor
      · intro failed
        rw [done] at failed
        cases failed
      · intro refused
        rw [writes.refused text error refused]
    · intro error failed
      rw [done] at failed
      cases failed

/-- Writing a scalar field is writing a text. -/
theorem setScalar_writesText (descriptor : Descriptor) (record : Record) (field : String) :
    descriptor.WritesText .scalar field (descriptor.setScalar record field) record
      (record.set field) := by
  constructor
  · rintro text value ⟨type, found, read⟩
    simp only [setScalar, writeScalar, found, read]
  · intro text error refused
    cases refused with
    | unknown misfit =>
      unfold setScalar
      split
      · next type found => exact absurd found (misfit type)
      · rfl
    | conversion found unread => simp only [setScalar, writeScalar, found, unread]

/-- Appending to a list of scalars is writing a text. -/
theorem pushScalar_writesText (descriptor : Descriptor) (record : Record) (field : String) :
    descriptor.WritesText .list field (descriptor.pushScalar record field) record
      (record.push field) := by
  constructor
  · rintro text value ⟨type, found, read⟩
    simp only [pushScalar, writeScalar, found, read]
  · intro text error refused
    cases refused with
    | unknown misfit =>
      unfold pushScalar
      split
      · next type found => exact absurd found (misfit type)
      · rfl
    | conversion found unread => simp only [pushScalar, writeScalar, found, unread]

/-- Setting a truth field is refused for a field of another shape only. -/
theorem setFlag_untouched (descriptor : Descriptor) (record : Record) (field : String) :
    (descriptor.setFlag record field).Untouched record fun error =>
      descriptor.find? field ≠ some (.scalar .bool) ∧
        error = .unknownField descriptor.typeName field := by
  by_cases found : descriptor.find? field = some (.scalar .bool)
  · rw [setFlag_of_declared found]
    exact ⟨fun error => ⟨nofun, fun refused => absurd found refused.1⟩, nofun⟩
  · unfold setFlag
    split
    · next declared => exact absurd declared found
    next misfit =>
    refine ⟨fun error => ⟨fun failed => ?_, fun refused => ?_⟩, fun _ _ => rfl⟩
    · cases failed
      exact ⟨misfit, rfl⟩
    · rw [refused.2]
      rfl

/-! ## The captures of one switch -/

/-- The first of several captures that is refused, and the values of those before it. -/
inductive Stops (descriptor : Descriptor) (captures : List (String × String))
    (values : List (String × Scalar)) (error : BindError) : Prop where
  | first {before after : List (String × String)} {field text : String}
      (split : captures = before ++ (field, text) :: after)
      (accepted : List.Forall₂ (fun capture value => value.1 = capture.1 ∧
        descriptor.Accepts .scalar capture.1 capture.2 value.2) before values)
      (refused : descriptor.Refuses .scalar field text error) :
      Stops descriptor captures values error

/-- Captures are written up to the first that is refused. -/
theorem Stops.writeAll {captures : List (String × String)} {values : List (String × Scalar)}
    {error : BindError} (stops : descriptor.Stops captures values error) (record : Record) :
    writeAll descriptor.setScalar record captures = ⟨record.setAll values, some error⟩ := by
  obtain ⟨rfl, accepted, refused⟩ := stops
  induction accepted generalizing record with
  | nil =>
    have stopped := (descriptor.setScalar_writesText record _).refused _ error refused
    rw [List.nil_append, Descriptor.writeAll, stopped]
    rfl
  | @cons capture value before values first _ ih =>
    obtain ⟨named, accepted⟩ := first
    have written := (descriptor.setScalar_writesText record _).accepted _ _ accepted
    rw [List.cons_append, Descriptor.writeAll, written]
    have later := ih (record.set capture.1 value.2)
    rw [← named] at later ⊢
    exact later

/-- Captures are all accepted, or one of them is the first that is refused. -/
theorem writeAll_stops (descriptor : Descriptor) (captures : List (String × String)) :
    (∀ record, (writeAll descriptor.setScalar record captures).error = none) ∨
      ∃ values error, descriptor.Stops captures values error := by
  induction captures with
  | nil => exact .inl fun _ => rfl
  | cons capture rest ih =>
    obtain ⟨field, text⟩ := capture
    rcases refuses_or_accepts descriptor .scalar field text with
      ⟨error, refused⟩ | ⟨value, accepted⟩
    · exact .inr ⟨[], error, .first rfl .nil refused⟩
    · rcases ih with succeeds | ⟨values, error, stops⟩
      · refine .inl fun record => ?_
        rw [writeAll, (descriptor.setScalar_writesText record field).accepted text value accepted]
        exact succeeds _
      · obtain ⟨rfl, before, refused⟩ := stops
        refine .inr ⟨(field, value) :: values, error, ?_⟩
        exact .first rfl (.cons ⟨rfl, accepted⟩ before) refused

/-- Writing captures is refused exactly where one of them is the first that is refused. -/
theorem writeAll_error_iff (descriptor : Descriptor) (captures : List (String × String))
    (record : Record) (error : BindError) :
    (writeAll descriptor.setScalar record captures).error = some error ↔
      ∃ values, descriptor.Stops captures values error := by
  constructor
  · intro failed
    rcases writeAll_stops descriptor captures with succeeds | ⟨values, first, stops⟩
    · rw [succeeds record] at failed
      cases failed
    · rw [stops.writeAll record, Option.some.injEq] at failed
      exact ⟨values, failed ▸ stops⟩
  · rintro ⟨values, stops⟩
    rw [stops.writeAll record]

/-! ## Nested records -/

variable {typeName : String} {fields : List (String × FieldType)}

/-- Captures for a new element of a list of records are refused like any, and then no element is
appended. -/
theorem assignNested_elements (record : Record)
    (found : descriptor.find? field = some (.compositeList typeName fields))
    (captures : List (String × String)) :
    (descriptor.assignNested record field captures).Untouched record fun error =>
      ∃ values, Descriptor.Stops ⟨typeName, fields⟩ captures values error := by
  have errors := writeAll_error_iff ⟨typeName, fields⟩ captures .empty
  simp only [assignNested, found]
  cases stopped : (writeAll (setScalar ⟨typeName, fields⟩) .empty captures).error with
  | none =>
    rw [stopped] at errors
    refine ⟨errors, fun error failed => ?_⟩
    cases failed
  | some error =>
    rw [stopped] at errors
    exact ⟨errors, fun _ _ => rfl⟩

/-- Captures for a field that holds no records are refused. -/
theorem assignNested_unknown (record : Record)
    (misfit : ∀ typeName fields, descriptor.find? field ≠ some (.composite typeName fields) ∧
      descriptor.find? field ≠ some (.compositeList typeName fields))
    (captures : List (String × String)) :
    (descriptor.assignNested record field captures).Untouched record
      (· = .unknownField descriptor.typeName field) := by
  unfold assignNested
  split
  · next typeName fields found => exact absurd found (misfit typeName fields).1
  · next typeName fields found => exact absurd found (misfit typeName fields).2
  · refine ⟨fun error => ?_, fun _ _ => rfl⟩
    rw [Option.some.injEq]
    exact eq_comm

/-- Captures of a nested record are refused because one of them is. Each field of the nested record
then holds the last of its values before that capture, or what it held before; if the nested record
was absent it holds these values alone. No other field changes. -/
structure PartlyAssigned (inner : Descriptor) (record : Record) (field : String)
    (captures : List (String × String)) (written : Written) : Prop where
  /-- The error is that of the first capture that is refused. -/
  error_iff : ∀ error, written.error = some error ↔
    ∃ values, inner.Stops captures values error
  /-- The values before it are in the nested record. -/
  partly : ∀ values error, inner.Stops captures values error → ∃ begun,
    record.Nests written.record field begun ∧
    (record.nested.find? field = none → begun.Lasts values) ∧
    ∀ earlier, record.nested.find? field = some earlier → earlier.Overwrites begun values

/-- Captures for a nested record are refused like any. Those before the first that is refused are
written to the nested record, which is begun if it is absent, and no other field changes. -/
theorem assignNested_nested (record : Record)
    (found : descriptor.find? field = some (.composite typeName fields))
    (captures : List (String × String)) :
    Descriptor.PartlyAssigned ⟨typeName, fields⟩ record field captures
      (descriptor.assignNested record field captures) := by
  simp only [assignNested, found]
  refine ⟨writeAll_error_iff ⟨typeName, fields⟩ captures (record.nestedAt field), ?_⟩
  intro values error stops
  refine ⟨(record.nestedAt field).setAll values, ?_, fun absent => ?_, fun earlier present => ?_⟩
  · rw [stops.writeAll]
    exact record.nests_setNested field _
  · have fresh : record.nestedAt field = .empty := by rw [Record.nestedAt, absent]; rfl
    rw [fresh]
    exact Record.lasts_empty.setAll values
  · have same : record.nestedAt field = earlier := by rw [Record.nestedAt, present]; rfl
    rw [same]
    exact earlier.overwrites_setAll values

/-- A failed write changes exactly what it may. A text for a scalar field, for a list of scalars, a
flag, and the captures for a new element or for a field that holds no records leave the record as it
was whenever they fail. Captures for a nested record leave in each of its fields the last of the
values before the first that is refused, or what the field held before; the nested record is begun
if it was absent, and then holds these values alone, and every other field is as it was. The error
is that of the first capture that is refused: an unknown field if the field is not of the shape, and
a failed conversion if the text stands for no value of its type. -/
theorem failed_writes (descriptor : Descriptor) (record : Record) (field : String) :
    (∀ text, (descriptor.setScalar record field text).Untouched record
      (descriptor.Refuses .scalar field text)) ∧
    (∀ text, (descriptor.pushScalar record field text).Untouched record
      (descriptor.Refuses .list field text)) ∧
    ((descriptor.setFlag record field).Untouched record fun error =>
      descriptor.find? field ≠ some (.scalar .bool) ∧
        error = .unknownField descriptor.typeName field) ∧
    ∀ captures, let written := descriptor.assignNested record field captures
      (∀ typeName fields, descriptor.find? field = some (.compositeList typeName fields) →
        written.Untouched record fun error =>
          ∃ values, Descriptor.Stops ⟨typeName, fields⟩ captures values error) ∧
      ((∀ typeName fields, descriptor.find? field ≠ some (.composite typeName fields) ∧
        descriptor.find? field ≠ some (.compositeList typeName fields)) →
        written.Untouched record (· = .unknownField descriptor.typeName field)) ∧
      (∀ typeName fields, descriptor.find? field = some (.composite typeName fields) →
        Descriptor.PartlyAssigned ⟨typeName, fields⟩ record field captures written) := by
  refine ⟨(descriptor.setScalar_writesText record field).untouched,
    (descriptor.pushScalar_writesText record field).untouched,
    descriptor.setFlag_untouched record field, fun captures => ⟨?_, ?_, ?_⟩⟩
  · intro typeName fields found
    exact assignNested_elements record found captures
  · intro misfit
    exact assignNested_unknown record misfit captures
  · intro typeName fields found
    exact assignNested_nested record found captures

end Descriptor

namespace Sample

/-- The fields of an image. -/
def imageFields : List (String × FieldType) :=
  [("Name", .scalar .text), ("Port", .scalar (.unsigned 16)), ("Tag", .scalar .text)]

/-- The record type of a server, which has an image. -/
def server : Descriptor := ⟨"Server", [("Image", .composite "Image" imageFields)]⟩

end Sample

/-- The second of three captures is no port: the image, which was absent, then holds its name and
nothing else. -/
theorem Descriptor.failed_writes_port :
    let captures := [("Name", "web"), ("Port", "eighty"), ("Tag", "v1")]
    let written := Sample.server.assignNested .empty "Image" captures
    Sample.server.find? "Image" = some (.composite "Image" Sample.imageFields) ∧
      Descriptor.Stops ⟨"Image", Sample.imageFields⟩ captures [("Name", .text "web")]
        (.conversion "Port" "eighty" .unsigned) ∧
      written.error = some (.conversion "Port" "eighty" .unsigned) ∧
      Record.empty.Nests written.record "Image" (.of [("Name", .text "web")] [] [] []) := by
  intro captures written
  have found : Sample.server.find? "Image" = some (.composite "Image" Sample.imageFields) := rfl
  have accepted : Descriptor.Accepts ⟨"Image", Sample.imageFields⟩ .scalar "Name" "web"
      (.text "web") := ⟨.text, rfl, rfl⟩
  have unread : (ScalarType.unsigned 16).read "eighty" = none := by decide +kernel
  have refused : Descriptor.Refuses ⟨"Image", Sample.imageFields⟩ .scalar "Port" "eighty"
      (.conversion "Port" "eighty" .unsigned) := .conversion rfl unread
  have stops : Descriptor.Stops ⟨"Image", Sample.imageFields⟩ captures [("Name", .text "web")]
      (.conversion "Port" "eighty" .unsigned) :=
    .first rfl (.cons ⟨rfl, accepted⟩ .nil) refused
  have nested := ((Descriptor.failed_writes Sample.server .empty "Image").2.2.2 captures).2.2
    "Image" Sample.imageFields found
  obtain ⟨begun, nests, alone, _⟩ := nested.partly _ _ stops
  -- The last value of each field is the name for `Name` and none for the others.
  have named : Record.Lasts (.of [("Name", .text "web")] [] [] []) [("Name", .text "web")] :=
    Record.lasts_empty.setAll [("Name", .text "web")]
  have image := (alone rfl).unique named
  exact ⟨found, stops, (nested.error_iff _).mpr ⟨_, stops⟩, image ▸ nests⟩

end Switchboard
