import Switchboard.Proofs.Descriptor.Additions
import Switchboard.Shell
/-!
# What acceptance says

A set of commands without a defect declares every field that its lines can write, in the shape in
which the binder writes it. The five ways in which a parameter can write are the cases of
`Parameter.Fits`; `kindDefect?_none` reads them off the validator, and everything later about
accepted commands splits on them instead of on the checks.
-/
namespace Switchboard

/-- A type is of a shape that a field is to have. -/
inductive FieldType.Is : ExpectedShape → FieldType → Prop where
  | scalar (type : ScalarType) : Is .scalar (.scalar type)
  | scalarList (type : ScalarType) : Is .scalarList (.list type)
  | composite (typeName : String) (fields : List (String × FieldType)) :
      Is .composite (.composite typeName fields)
  | compositeList (typeName : String) (fields : List (String × FieldType)) :
      Is .compositeList (.compositeList typeName fields)

/-- The validator accepts the shape of a type exactly if the type is of the shape. -/
theorem FieldType.is_iff (expected : ExpectedShape) (type : FieldType) :
    type.Is expected ↔ expected.accepts type.shape = true := by
  constructor
  · intro is
    cases is <;> rfl
  · intro accepted
    cases expected <;> cases type <;> first | contradiction | constructor

namespace Descriptor

variable {descriptor : Descriptor} {field : String}

/-- A field is declared with an expected shape. -/
def Declares (descriptor : Descriptor) (expected : ExpectedShape) (field : String) : Prop :=
  ∃ type, descriptor.find? field = some type ∧ type.Is expected

/-- A field declared as a scalar has a scalar type. -/
theorem Declares.scalar (declared : descriptor.Declares .scalar field) :
    ∃ type, descriptor.find? field = some (.scalar type) := by
  obtain ⟨_, found, is⟩ := declared
  cases is with
  | scalar type => exact ⟨type, found⟩

/-- A field declared as a list of scalars has a scalar type for its elements. -/
theorem Declares.scalarList (declared : descriptor.Declares .scalarList field) :
    ∃ type, descriptor.find? field = some (.list type) := by
  obtain ⟨_, found, is⟩ := declared
  cases is with
  | scalarList type => exact ⟨type, found⟩

/-- A field declared as a record has a record type. -/
theorem Declares.composite (declared : descriptor.Declares .composite field) :
    ∃ typeName fields, descriptor.find? field = some (.composite typeName fields) := by
  obtain ⟨_, found, is⟩ := declared
  cases is with
  | composite typeName fields => exact ⟨typeName, fields, found⟩

/-- A field declared as a list of records has a record type for its elements. -/
theorem Declares.compositeList (declared : descriptor.Declares .compositeList field) :
    ∃ typeName fields, descriptor.find? field = some (.compositeList typeName fields) := by
  obtain ⟨_, found, is⟩ := declared
  cases is with
  | compositeList typeName fields => exact ⟨typeName, fields, found⟩

end Descriptor

namespace Parameter

/-- How a parameter fits a record type: what it takes, and the fields that receive it. -/
inductive Fits (descriptor : Descriptor) (parameter : Parameter) : Prop where
  /-- A flag sets a truth field. -/
  | flag {field : String} (kind : parameter.kind = .flag field)
      (once : parameter.repeatable = false) (optional : parameter.required = false)
      (declared : descriptor.find? field = some (.scalar .bool))
  /-- The slots of a value are scalar fields. -/
  | scalars {template : ValueTemplate} (kind : parameter.kind = .valued template)
      (slots : template.slots ≠ []) (plain : parameter.composite = none)
      (once : parameter.repeatable = false)
      (declared : ∀ slot ∈ template.slots, descriptor.Declares .scalar slot)
  /-- The slots of a value that can come again are lists of scalars. -/
  | lists {template : ValueTemplate} (kind : parameter.kind = .valued template)
      (slots : template.slots ≠ []) (plain : parameter.composite = none)
      (again : parameter.repeatable = true)
      (declared : ∀ slot ∈ template.slots, descriptor.Declares .scalarList slot)
  /-- The slots of a value are scalar fields of a nested record. -/
  | nested {template : ValueTemplate} {field typeName : String} {fields : List (String × FieldType)}
      (kind : parameter.kind = .valued template) (slots : template.slots ≠ [])
      (inner : parameter.composite = some field) (once : parameter.repeatable = false)
      (holder : descriptor.find? field = some (.composite typeName fields))
      (declared : ∀ slot ∈ template.slots, Descriptor.Declares ⟨typeName, fields⟩ .scalar slot)
  /-- The slots of a value that can come again are scalar fields of a new element. -/
  | elements {template : ValueTemplate} {field typeName : String}
      {fields : List (String × FieldType)} (kind : parameter.kind = .valued template)
      (slots : template.slots ≠ []) (inner : parameter.composite = some field)
      (again : parameter.repeatable = true)
      (holder : descriptor.find? field = some (.compositeList typeName fields))
      (declared : ∀ slot ∈ template.slots, Descriptor.Declares ⟨typeName, fields⟩ .scalar slot)

end Parameter

namespace Validation

variable {command : String} {descriptor : Descriptor}

/-- The use of a field has no defect exactly when the field is declared so. -/
theorem fieldDefect?_none (expected : ExpectedShape) (field : String) :
    fieldDefect? command descriptor expected field = none ↔ descriptor.Declares expected field := by
  cases found : descriptor.find? field with
  | none => simp [fieldDefect?, Descriptor.shape?, Descriptor.Declares, found]
  | some type =>
    simp [fieldDefect?, Descriptor.shape?, Descriptor.Declares, found, FieldType.is_iff]

/-- Slots have no defect exactly when each of them is a field declared so. -/
theorem slotDefect?_none (expected : ExpectedShape) (slots : List String) :
    slotDefect? command descriptor expected slots = none ↔
      ∀ slot ∈ slots, descriptor.Declares expected slot := by
  simp only [slotDefect?, List.findSome?_eq_none_iff, fieldDefect?_none]

/-- A flag without a defect is neither repeatable nor required and sets a truth field. -/
theorem flagDefect?_none {parameter : Parameter} {field : String}
    (sound : flagDefect? command descriptor parameter field = none) :
    parameter.repeatable = false ∧ parameter.required = false ∧
      descriptor.find? field = some (.scalar .bool) := by
  unfold flagDefect? at sound
  split at sound
  · contradiction
  · rename_i once
    split at sound
    · contradiction
    · rename_i optional
      refine ⟨by simpa using once, by simpa using optional, Descriptor.shape?_eq_bool_iff.mp ?_⟩
      split at sound
      · contradiction
      · assumption
      · contradiction

/-- A valued parameter without a defect fits the record type. -/
theorem valuedDefect?_none {parameter : Parameter} {template : ValueTemplate}
    (kind : parameter.kind = .valued template)
    (sound : valuedDefect? command descriptor parameter template = none) :
    parameter.Fits descriptor := by
  unfold valuedDefect? at sound
  split at sound
  · contradiction
  · rename_i filled
    have slots : template.slots ≠ [] := by simpa using filled
    cases composite : parameter.composite with
    | none =>
      simp only [composite, slotDefect?_none] at sound
      cases again : parameter.repeatable with
      | false => exact .scalars kind slots composite again (by simpa [again] using sound)
      | true => exact .lists kind slots composite again (by simpa [again] using sound)
    | some field =>
      simp only [composite, Option.or_eq_none_iff, fieldDefect?_none] at sound
      obtain ⟨holds, inner⟩ := sound
      cases again : parameter.repeatable with
      | false =>
        obtain ⟨typeName, fields, holder⟩ :=
          Descriptor.Declares.composite (by simpa [again] using holds)
        simp only [Descriptor.nested?, holder, slotDefect?_none] at inner
        exact .nested kind slots composite again holder inner
      | true =>
        obtain ⟨typeName, fields, holder⟩ :=
          Descriptor.Declares.compositeList (by simpa [again] using holds)
        simp only [Descriptor.nested?, holder, slotDefect?_none] at inner
        exact .elements kind slots composite again holder inner

/-- A parameter without a defect fits the record type. -/
theorem kindDefect?_none {parameter : Parameter}
    (sound : kindDefect? command descriptor parameter = none) : parameter.Fits descriptor := by
  unfold kindDefect? at sound
  cases kind : parameter.kind with
  | flag field =>
    simp only [kind] at sound
    obtain ⟨once, optional, declared⟩ := flagDefect?_none sound
    exact .flag kind once optional declared
  | valued template =>
    simp only [kind] at sound
    exact valuedDefect?_none kind sound

/-- No switch is taken exactly when the switches differ from each other and from those taken. -/
theorem takenSwitch?_none (taken switches : List String) :
    takenSwitch? taken switches = none ↔
      switches.Nodup ∧ ∀ switch ∈ switches, switch ∉ taken := by
  induction switches generalizing taken with
  | nil => simp [takenSwitch?]
  | cons switch rest ih =>
    unfold takenSwitch?
    by_cases used : switch ∈ taken
    · simp [used]
    · rw [if_neg (by simpa using used), ih]
      simp only [List.nodup_cons, List.mem_cons, not_or]
      constructor
      · rintro ⟨distinct, fresh⟩
        refine ⟨⟨fun repeated => (fresh switch repeated).1 rfl, distinct⟩, ?_⟩
        rintro other (rfl | later)
        · exact used
        · exact (fresh other later).2
      · rintro ⟨⟨single, distinct⟩, fresh⟩
        refine ⟨distinct, fun other later => ⟨?_, fresh other (.inr later)⟩⟩
        rintro rfl
        exact single later

/-- Parameters without a defect have switches that differ from each other and from those taken,
and each of them fits the record type. -/
theorem parameterDefect?_none (taken : List String) (parameters : List Parameter)
    (sound : parameterDefect? command descriptor taken parameters = none) :
    ((parameters.flatMap switchesOf).Nodup ∧
      ∀ switch ∈ parameters.flatMap switchesOf, switch ∉ taken) ∧
      ∀ parameter ∈ parameters, parameter.Fits descriptor := by
  induction parameters generalizing taken with
  | nil => simp
  | cons parameter rest ih =>
    simp only [parameterDefect?, Option.or_eq_none_iff, Option.map_eq_none_iff,
      takenSwitch?_none] at sound
    obtain ⟨⟨own, free⟩, fits, later⟩ := sound
    obtain ⟨⟨distinct, fresh⟩, fitting⟩ := ih _ later
    simp only [List.mem_append, not_or] at fresh
    refine ⟨⟨?_, ?_⟩, ?_⟩
    · rw [List.flatMap_cons, List.nodup_append]
      refine ⟨own, distinct, fun switch mine other theirs same => ?_⟩
      exact (fresh other theirs).1 (same ▸ mine)
    · intro switch member
      rw [List.flatMap_cons, List.mem_append] at member
      cases member with
      | inl mine => exact free switch mine
      | inr theirs => exact (fresh switch theirs).2
    · intro other member
      cases member with
      | head => exact kindDefect?_none fits
      | tail _ member => exact fitting other member

/-- A command has no defect exactly when it leaves the help alone, has keywords of its own and uses
its fields as they are declared. -/
theorem commandDefect?_none (reserved : Bool) (earlier : List String) (declaration : Declaration) :
    commandDefect? reserved earlier declaration = none ↔
      (reserved && claimsHelp declaration.template) = false ∧
        (Text.trim declaration.template.keyword).isEmpty = false ∧
        declaration.template.keyword ∉ earlier ∧ contentDefect? declaration = none := by
  unfold commandDefect?
  cases claim : reserved && claimsHelp declaration.template with
  | true => simp [claim]
  | false =>
    cases bare : (Text.trim declaration.template.keyword).isEmpty with
    | true => simp [claim, bare]
    | false => by_cases used : declaration.template.keyword ∈ earlier <;> simp [claim, bare, used]

/-- Every command of an accepted list has no defect where it stands. -/
theorem commandDefect?_of_commandsDefect? {reserved : Bool} {earlier : List String}
    {declarations : List Declaration}
    (sound : commandsDefect? reserved earlier declarations = none) :
    ∀ declaration ∈ declarations, ∃ before, commandDefect? reserved before declaration = none := by
  induction declarations generalizing earlier with
  | nil => simp
  | cons first rest ih =>
    rw [commandsDefect?, Option.or_eq_none_iff] at sound
    obtain ⟨own, later⟩ := sound
    intro declaration member
    cases member with
    | head => exact ⟨earlier, own⟩
    | tail _ member => exact ih later declaration member

/-- Every command of an accepted set has no defect where it stands. -/
theorem commandDefect?_of_defect? {reserved : Bool} {declarations : List Declaration}
    (sound : defect? reserved declarations = none) :
    ∀ declaration ∈ declarations, ∃ before, commandDefect? reserved before declaration = none := by
  unfold defect? at sound
  split at sound
  · contradiction
  · exact commandDefect?_of_commandsDefect? sound

/-- The contents of every command of an accepted set have no defect. -/
theorem contentDefect?_of_defect? {reserved : Bool} {declarations : List Declaration}
    (sound : defect? reserved declarations = none) :
    ∀ declaration ∈ declarations, contentDefect? declaration = none := by
  intro declaration member
  obtain ⟨before, own⟩ := commandDefect?_of_defect? sound declaration member
  exact ((commandDefect?_none reserved before declaration).mp own).2.2.2

/-- Commands accepted beside the help are accepted without it. -/
theorem commandsDefect?_unreserved {earlier : List String} {declarations : List Declaration}
    (sound : commandsDefect? true earlier declarations = none) :
    commandsDefect? false earlier declarations = none := by
  induction declarations generalizing earlier with
  | nil => rfl
  | cons first rest ih =>
    rw [commandsDefect?, Option.or_eq_none_iff, commandDefect?_none] at sound ⊢
    obtain ⟨⟨_, own⟩, later⟩ := sound
    exact ⟨⟨Bool.false_and _, own⟩, ih later⟩

/-- A set of commands accepted beside the help is accepted without it. -/
theorem defect?_unreserved {declarations : List Declaration}
    (sound : defect? true declarations = none) : defect? false declarations = none := by
  unfold defect? at sound ⊢
  split at sound
  · contradiction
  · rename_i filled
    rw [if_neg filled]
    exact commandsDefect?_unreserved sound

end Validation

namespace SwitchedTemplate

/-- All switches of a template differ. -/
def Distinct (template : SwitchedTemplate) : Prop :=
  (template.parameters.flatMap Validation.switchesOf).Nodup

/-- A switched template and a record type that were accepted together. -/
structure Sound (template : SwitchedTemplate) (descriptor : Descriptor) : Prop where
  /-- All switches differ. -/
  distinct : template.Distinct
  /-- Every parameter fits the record type. -/
  fits : ∀ parameter ∈ template.parameters, parameter.Fits descriptor

end SwitchedTemplate

namespace Validation

variable {reserved : Bool} {declarations : List Declaration} {descriptor : Descriptor}

/-- The slots of an accepted fixed template are scalar fields. -/
theorem fixed_sound {template : FixedTemplate} (accepted : defect? reserved declarations = none)
    (member : ⟨.fixed template, descriptor⟩ ∈ declarations) :
    ∀ slot ∈ template.slots, descriptor.Declares .scalar slot :=
  (slotDefect?_none _ _).mp (contentDefect?_of_defect? accepted _ member)

/-- An accepted switched template is sound. -/
theorem switched_sound {template : SwitchedTemplate}
    (accepted : defect? reserved declarations = none)
    (member : ⟨.switched template, descriptor⟩ ∈ declarations) : template.Sound descriptor := by
  have content := contentDefect?_of_defect? accepted _ member
  obtain ⟨⟨distinct, _⟩, fits⟩ := parameterDefect?_none [] template.parameters content
  exact ⟨distinct, fits⟩

end Validation

/-! ## A command with a parameter of every kind -/

namespace Sample

/-- The command that starts a container. -/
def run : SwitchedTemplate where
  written := "docker run"
  parameters := [
    { name := "--name", shorthand := some "-n", required := true, kind := .valued ⟨"[[Name]]"⟩ },
    { name := "--detach", shorthand := some "-d", kind := .flag "Detached" },
    { name := "--port", kind := .valued ⟨"[[Port]]"⟩ },
    { name := "--label", repeatable := true, kind := .valued ⟨"[[Label]]"⟩ },
    { name := "--image", composite := some "Image", kind := .valued ⟨"[[Name]]:[[Tag]]"⟩ },
    { name := "--env", shorthand := some "-e", repeatable := true, composite := some "Env",
      kind := .valued ⟨"[[Name]]=[[Value]]"⟩ }]

/-- The record type of the command. -/
def runRecord : Descriptor where
  typeName := "Run"
  fields := [
    ("Name", .scalar .text),
    ("Detached", .scalar .bool),
    ("Port", .scalar (.unsigned 16)),
    ("Label", .list .text),
    ("Image", .composite "Image" [("Name", .scalar .text), ("Tag", .scalar .text)]),
    ("Env", .compositeList "Pair" [("Name", .scalar .text), ("Value", .scalar .text)])]

/-- The command as it is registered. -/
def runDeclaration : Declaration := ⟨.switched run, runRecord⟩

/-- The command is accepted. -/
theorem run_accepted : Validation.defect? false [runDeclaration] = none := by decide +kernel

end Sample

end Switchboard
