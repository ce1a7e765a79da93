import Switchboard.Proofs.Registration.Checks
import Switchboard.Proofs.Registration.Rules
import Switchboard.Proofs.Switches.Values
/-!
# The first defect

Of all the rules that a set of commands breaks, the validator names one. Which rules are broken is
said here without regard to each other (`Validation.Breach`), each at its place, and the validator
names the breach at the first place (`defect?_exact`). Every check of the validator decides the
breaches of its own rules.
-/
namespace Switchboard

namespace Validation

/-! ## The rules and their places -/

/-- The rule on a field that is used in one way. -/
inductive FieldBreach (command : String) (descriptor : Descriptor) (expected : ExpectedShape)
    (field : String) : Place → Defect → Prop where
  /-- The record type has no such field. -/
  | missing (absent : descriptor.find? field = none) :
      FieldBreach command descriptor expected field []
        (.missingField command descriptor.typeName field)
  /-- The field has another shape. -/
  | unfit {type : FieldType} (declared : descriptor.find? field = some type)
      (other : ¬ type.Is expected) :
      FieldBreach command descriptor expected field []
        (.unfitField command descriptor.typeName field type.shape expected)

/-- The rules on what a flag sets. -/
inductive FlagBreach (command : String) (descriptor : Descriptor) (parameter : Parameter)
    (field : String) : Place → Defect → Prop where
  /-- The flag may come again. -/
  | repeatable (again : parameter.repeatable = true) :
      FlagBreach command descriptor parameter field [0] (.repeatableFlag command parameter.name)
  /-- The flag must come. -/
  | required (must : parameter.required = true) :
      FlagBreach command descriptor parameter field [1] (.requiredFlag command parameter.name)
  /-- The record type has no such field. -/
  | missing (absent : descriptor.find? field = none) :
      FlagBreach command descriptor parameter field [2]
        (.missingField command descriptor.typeName field)
  /-- The field is not a truth field. -/
  | notBool {type : FieldType} (declared : descriptor.find? field = some type)
      (other : type ≠ .scalar .bool) :
      FlagBreach command descriptor parameter field [2]
        (.flagNotBool command parameter.name field type.shape)

/-- The shape of the record field that takes the slots of a parameter. -/
def holderShape (parameter : Parameter) : ExpectedShape :=
  if parameter.repeatable then .compositeList else .composite

/-- The shape of the fields that are the slots of a parameter. -/
def slotShape (parameter : Parameter) : ExpectedShape :=
  if parameter.repeatable && parameter.composite.isNone then .scalarList else .scalar

/-- The rules on what a value is for. -/
inductive ValueBreach (command : String) (descriptor : Descriptor) (parameter : Parameter)
    (template : ValueTemplate) : Place → Defect → Prop where
  /-- The value has no slot. -/
  | noSlots (bare : template.slots = []) :
      ValueBreach command descriptor parameter template [0]
        (.noSlots command parameter.name template.source)
  /-- The field that takes the slots is not a record or a list of records. -/
  | holder {field : String} {place : Place} {defect : Defect}
      (inner : parameter.composite = some field)
      (broken : FieldBreach command descriptor (holderShape parameter) field place defect) :
      ValueBreach command descriptor parameter template (1 :: place) defect
  /-- A slot is not a field of what receives it, or has another shape. -/
  | slot {place : Place} {defect : Defect}
      (broken : Along (fun _ => FieldBreach command (parameter.receiver descriptor)
        (slotShape parameter)) [] template.slots place defect) :
      ValueBreach command descriptor parameter template (2 :: place) defect

/-- The rules on a parameter that is declared after others. -/
inductive ParameterBreach (command : String) (descriptor : Descriptor) (earlier : List Parameter)
    (parameter : Parameter) : Place → Defect → Prop where
  /-- The name is a switch of an earlier parameter. -/
  | name (taken : parameter.name ∈ earlier.flatMap switchesOf) :
      ParameterBreach command descriptor earlier parameter [0]
        (.duplicateParameter command parameter.name)
  /-- The shorthand is the name, or a switch of an earlier parameter. -/
  | shorthand {switch : String} (short : parameter.shorthand = some switch)
      (taken : switch = parameter.name ∨ switch ∈ earlier.flatMap switchesOf) :
      ParameterBreach command descriptor earlier parameter [1]
        (.duplicateParameter command switch)
  /-- A rule on what a flag sets. -/
  | flag {field : String} {place : Place} {defect : Defect}
      (kind : parameter.kind = .flag field)
      (broken : FlagBreach command descriptor parameter field place defect) :
      ParameterBreach command descriptor earlier parameter (2 :: place) defect
  /-- A rule on what a value is for. -/
  | valued {template : ValueTemplate} {place : Place} {defect : Defect}
      (kind : parameter.kind = .valued template)
      (broken : ValueBreach command descriptor parameter template place defect) :
      ParameterBreach command descriptor earlier parameter (2 :: place) defect

/-- The rules on a command that is registered after others. -/
inductive CommandBreach (reserved : Bool) (earlier : List Declaration) (declaration : Declaration) :
    Place → Defect → Prop where
  /-- The command takes the name of the help, and there is one. -/
  | help (beside : reserved = true) (takes : declaration.template.TakesHelp) :
      CommandBreach reserved earlier declaration [0] (.reservedName declaration.template.heading)
  /-- The command has no keywords. -/
  | keyword (bare : declaration.template.keyword = "") :
      CommandBreach reserved earlier declaration [1] (.noKeyword declaration.template.heading)
  /-- An earlier command has the same keywords, of whatever kind it is. -/
  | unique {other : Declaration} (before : other ∈ earlier)
      (same : other.template.keyword = declaration.template.keyword) :
      CommandBreach reserved earlier declaration [2]
        (.duplicateKeyword declaration.template.keyword)
  /-- A slot of a fixed command is not a scalar field. -/
  | slot {template : FixedTemplate} {place : Place} {defect : Defect}
      (kind : declaration.template = .fixed template)
      (broken : Along (fun _ => FieldBreach template.source declaration.descriptor .scalar) []
        template.slots place defect) :
      CommandBreach reserved earlier declaration (3 :: place) defect
  /-- A rule on a parameter of a switched command. -/
  | parameter {template : SwitchedTemplate} {place : Place} {defect : Defect}
      (kind : declaration.template = .switched template)
      (broken : Along (ParameterBreach template.name declaration.descriptor) []
        template.parameters place defect) :
      CommandBreach reserved earlier declaration (3 :: place) defect

/-- The rules on a set of commands. -/
inductive Breach (reserved : Bool) (declarations : List Declaration) : Place → Defect → Prop where
  /-- There is no command. -/
  | empty (bare : declarations = []) : Breach reserved declarations [] .noCommands
  /-- A rule on a command. -/
  | command {place : Place} {defect : Defect}
      (broken : Along (CommandBreach reserved) [] declarations place defect) :
      Breach reserved declarations place defect

/-! ## The checks of the validator -/

variable {command : String} {descriptor : Descriptor} {parameter : Parameter} {reserved : Bool}

/-- The use of a field is checked. -/
theorem fieldDefect?_decides (expected : ExpectedShape) (field : String) :
    Decides (FieldBreach command descriptor expected field)
      (fieldDefect? command descriptor expected field) := by
  refine .single (fun place defect broken => by cases broken <;> rfl) fun defect => ?_
  unfold fieldDefect? Descriptor.shape?
  cases declared : descriptor.find? field with
  | none =>
    constructor
    · intro found
      cases found
      exact .missing declared
    · intro broken
      cases broken with
      | missing _ => rfl
      | unfit present _ =>
        rw [declared] at present
        cases present
  | some type =>
    simp only [Option.map_some, Option.ite_none_left_eq_some, ← FieldType.is_iff,
      Option.some.injEq]
    constructor
    · intro found
      obtain ⟨other, rfl⟩ := found
      exact .unfit declared other
    · intro broken
      cases broken with
      | missing absent =>
        rw [declared] at absent
        cases absent
      | unfit present other =>
        rw [declared] at present
        cases present
        exact ⟨other, rfl⟩

/-- Slots are checked one after the other. -/
theorem slotDefect?_decides (expected : ExpectedShape) (earlier slots : List String) :
    Decides (Along (fun _ => FieldBreach command descriptor expected) earlier slots)
      (slotDefect? command descriptor expected slots) := by
  induction slots generalizing earlier with
  | nil => exact .along_nil
  | cons slot rest ih =>
    have split : slotDefect? command descriptor expected (slot :: rest) =
        (fieldDefect? command descriptor expected slot).or
          (slotDefect? command descriptor expected rest) := by
      rw [slotDefect?, List.findSome?_cons, slotDefect?]
      cases fieldDefect? command descriptor expected slot <;> rfl
    rw [split]
    exact .along_cons (fieldDefect?_decides expected slot) (ih (earlier ++ [slot]))

/-- A test that is made before others is made on its own. -/
theorem ite_or {condition : Prop} [Decidable condition] (defect : Defect) (rest : Option Defect) :
    (if condition then some defect else rest) =
      (if condition then some defect else none).or rest := by
  by_cases holds : condition
  · rw [if_pos holds, if_pos holds, Option.some_or]
  · rw [if_neg holds, if_neg holds, Option.none_or]

/-- The field that a flag sets is checked for being a truth field. -/
theorem flagField_decides (field : String) :
    Decides (fun place defect => FlagBreach command descriptor parameter field (2 :: place) defect)
      (match descriptor.shape? field with
        | none => some (.missingField command descriptor.typeName field)
        | some (.scalar .bool) => none
        | some found => some (.flagNotBool command parameter.name field found)) := by
  refine .single (fun place defect broken => by cases broken <;> rfl) fun defect => ?_
  unfold Descriptor.shape?
  cases declared : descriptor.find? field with
  | none =>
    constructor
    · intro found
      cases found
      exact .missing declared
    · intro broken
      cases broken with
      | missing _ => rfl
      | notBool present _ =>
        rw [declared] at present
        cases present
  | some type =>
    have told (shape : FieldShape) : (match some shape with
        | none => some (.missingField command descriptor.typeName field)
        | some (.scalar .bool) => none
        | some found => some (.flagNotBool command parameter.name field found)) =
        some defect ↔ shape ≠ .scalar .bool ∧
          .flagNotBool command parameter.name field shape = defect := by
      cases shape with
      | scalar kind => cases kind <;> simp
      | scalarList kind | composite | compositeList => simp
    rw [Option.map_some, told, Ne, FieldType.shape_eq_bool_iff]
    constructor
    · rintro ⟨other, rfl⟩
      exact .notBool declared other
    · intro broken
      cases broken with
      | missing absent =>
        rw [declared] at absent
        cases absent
      | notBool present other =>
        rw [declared] at present
        cases present
        exact ⟨other, rfl⟩

/-- A flag is checked rule by rule. -/
theorem flagDefect?_decides (field : String) :
    Decides (FlagBreach command descriptor parameter field)
      (flagDefect? command descriptor parameter field) := by
  rw [flagDefect?, ite_or, ite_or (.requiredFlag command parameter.name)]
  refine .step (fun defect broken => by cases broken) (.test fun place defect => ?_) fun _ => ?_
  · constructor
    · intro broken
      cases broken with
      | repeatable again => exact ⟨rfl, again, rfl⟩
    · rintro ⟨rfl, again, rfl⟩
      exact .repeatable again
  refine .step (fun defect broken => broken) (.test fun place defect => ?_) fun _ => ?_
  · change FlagBreach command descriptor parameter field (1 :: place) defect ↔ _
    constructor
    · intro broken
      cases broken with
      | required must => exact ⟨rfl, must, rfl⟩
    · rintro ⟨rfl, must, rfl⟩
      exact .required must
  refine .last (fun defect broken => broken) (fun number place defect broken => ?_)
    (flagField_decides field)
  change FlagBreach command descriptor parameter field ((number + 3) :: place) defect at broken
  cases broken

/-- The slots of a value are checked last. -/
theorem valueSlots_decides {template : ValueTemplate} :
    Decides (behind (behind (ValueBreach command descriptor parameter template)))
      (slotDefect? command (parameter.receiver descriptor) (slotShape parameter)
        template.slots) := by
  refine .last (fun defect broken => broken) (fun number place defect broken => ?_) ?_
  · change ValueBreach command descriptor parameter template ((number + 3) :: place) defect
      at broken
    cases broken
  · refine (slotDefect?_decides (slotShape parameter) [] template.slots).of_iff
      fun place defect => ?_
    change ValueBreach command descriptor parameter template (2 :: place) defect ↔ _
    constructor
    · intro broken
      cases broken with
      | slot broken => exact broken
    · exact fun broken => .slot broken

/-- A record field that takes slots has a record type. -/
theorem nested?_of_declares {field : String}
    (declared : descriptor.Declares (holderShape parameter) field) :
    ∃ nested, descriptor.nested? field = some nested := by
  unfold holderShape at declared
  cases again : parameter.repeatable with
  | false =>
    rw [again] at declared
    obtain ⟨typeName, fields, found⟩ := Descriptor.Declares.composite declared
    exact ⟨⟨typeName, fields⟩, by rw [Descriptor.nested?, found]⟩
  | true =>
    rw [again] at declared
    obtain ⟨typeName, fields, found⟩ := Descriptor.Declares.compositeList declared
    exact ⟨⟨typeName, fields⟩, by rw [Descriptor.nested?, found]⟩

/-- A value is checked rule by rule. -/
theorem valuedDefect?_decides (template : ValueTemplate) :
    Decides (ValueBreach command descriptor parameter template)
      (valuedDefect? command descriptor parameter template) := by
  rw [valuedDefect?, ite_or]
  refine .step (fun defect broken => by cases broken) (.test fun place defect => ?_) fun _ => ?_
  · rw [List.isEmpty_iff]
    constructor
    · intro broken
      cases broken with
      | noSlots bare => exact ⟨rfl, bare, rfl⟩
    · rintro ⟨rfl, bare, rfl⟩
      exact .noSlots bare
  have rooted : ∀ defect, ¬ behind (ValueBreach command descriptor parameter template) [] defect :=
    fun defect broken => broken
  have slots : Decides (behind (behind (ValueBreach command descriptor parameter template)))
      (slotDefect? command (parameter.receiver descriptor) (slotShape parameter) template.slots) :=
    valueSlots_decides
  cases inner : parameter.composite with
  | none =>
    have plain : slotShape parameter =
        if parameter.repeatable then .scalarList else .scalar := by simp [slotShape, inner]
    have receiver : parameter.receiver descriptor = descriptor := by
      rw [Parameter.receiver, inner]
    rw [plain, receiver] at slots
    refine .step rooted (.never fun place defect broken => ?_) fun _ => slots
    change ValueBreach command descriptor parameter template (1 :: place) defect at broken
    cases broken with
    | holder held _ =>
      rw [inner] at held
      cases held
  | some field =>
    refine .step rooted ?_ fun held => ?_
    · refine (fieldDefect?_decides (holderShape parameter) field).of_iff fun place defect => ?_
      change ValueBreach command descriptor parameter template (1 :: place) defect ↔ _
      constructor
      · intro broken
        cases broken with
        | holder held broken =>
          rw [inner] at held
          cases held
          exact broken
      · exact fun broken => .holder inner broken
    · have plain : slotShape parameter = .scalar := by simp [slotShape, inner]
      obtain ⟨nested, found⟩ := nested?_of_declares ((fieldDefect?_none _ _).mp held)
      have receiver : parameter.receiver descriptor = nested := by
        rw [Parameter.receiver, inner]
        simp only [found, Option.getD_some]
      rw [plain, receiver] at slots
      rw [found]
      exact slots

/-- The switches of a parameter are checked in order. -/
theorem takenSwitch?_eq (taken : List String) :
    (takenSwitch? taken (switchesOf parameter)).map (Defect.duplicateParameter command) =
      (if parameter.name ∈ taken then some (.duplicateParameter command parameter.name)
        else none).or
      (parameter.shorthand.bind fun switch =>
        if switch = parameter.name ∨ switch ∈ taken then some (.duplicateParameter command switch)
        else none) := by
  unfold switchesOf takenSwitch?
  by_cases used : parameter.name ∈ taken
  · simp [used]
  · cases short : parameter.shorthand with
    | none => simp [used, takenSwitch?]
    | some switch =>
      by_cases again : switch = parameter.name ∨ switch ∈ taken
      · simp [used, takenSwitch?, again]
      · simp [used, takenSwitch?, again]

/-- What a parameter takes is checked. -/
theorem kindDefect?_decides {earlier : List Parameter} :
    Decides (fun place defect => ParameterBreach command descriptor earlier parameter (2 :: place)
      defect) (kindDefect? command descriptor parameter) := by
  unfold kindDefect?
  cases kind : parameter.kind with
  | flag field =>
    refine (flagDefect?_decides field).of_iff fun place defect => ⟨fun broken => ?_, .flag kind⟩
    cases broken with
    | flag other broken =>
      cases kind.symm.trans other
      exact broken
    | valued other _ => cases kind.symm.trans other
  | valued template =>
    refine (valuedDefect?_decides template).of_iff fun place defect =>
      ⟨fun broken => ?_, .valued kind⟩
    cases broken with
    | flag other _ => cases kind.symm.trans other
    | valued other broken =>
      cases kind.symm.trans other
      exact broken

/-- A parameter is checked rule by rule. -/
theorem parameterRules_decide {earlier : List Parameter} {taken : List String}
    (collected : ∀ switch, switch ∈ taken ↔ switch ∈ earlier.flatMap switchesOf) :
    Decides (ParameterBreach command descriptor earlier parameter)
      (((takenSwitch? taken (switchesOf parameter)).map (Defect.duplicateParameter command)).or
        (kindDefect? command descriptor parameter)) := by
  rw [takenSwitch?_eq, Option.or_assoc]
  refine .step (fun defect broken => by cases broken) (.test fun place defect => ?_) fun _ => ?_
  · rw [collected]
    constructor
    · intro broken
      cases broken with
      | name used => exact ⟨rfl, used, rfl⟩
    · rintro ⟨rfl, used, rfl⟩
      exact .name used
  refine .step (fun defect broken => broken) ?_ fun _ => ?_
  · cases short : parameter.shorthand with
    | none =>
      refine .never fun place defect broken => ?_
      change ParameterBreach command descriptor earlier parameter (1 :: place) defect at broken
      cases broken with
      | shorthand other _ =>
        rw [short] at other
        cases other
    | some switch =>
      refine .test fun place defect => ?_
      change ParameterBreach command descriptor earlier parameter (1 :: place) defect ↔ _
      rw [collected]
      constructor
      · intro broken
        cases broken with
        | shorthand other used =>
          rw [short] at other
          cases other
          exact ⟨rfl, used, rfl⟩
      · rintro ⟨rfl, used, rfl⟩
        exact .shorthand short used
  refine .last (fun defect broken => broken) (fun number place defect broken => ?_)
    kindDefect?_decides
  change ParameterBreach command descriptor earlier parameter ((number + 3) :: place) defect
    at broken
  cases broken

/-- Parameters are checked one after the other, each with the switches of those before it. -/
theorem parameterDefect?_decides (earlier parameters : List Parameter) (taken : List String)
    (collected : ∀ switch, switch ∈ taken ↔ switch ∈ earlier.flatMap switchesOf) :
    Decides (Along (ParameterBreach command descriptor) earlier parameters)
      (parameterDefect? command descriptor taken parameters) := by
  induction parameters generalizing earlier taken with
  | nil => exact .along_nil
  | cons parameter rest ih =>
    have more : ∀ switch, switch ∈ switchesOf parameter ++ taken ↔
        switch ∈ (earlier ++ [parameter]).flatMap switchesOf := by
      intro switch
      rw [List.mem_append, collected, List.flatMap_append, List.mem_append, List.flatMap_cons,
        List.flatMap_nil, List.append_nil]
      exact or_comm
    rw [parameterDefect?, ← Option.or_assoc]
    exact .along_cons (parameterRules_decide collected) (ih _ _ more)

/-- The fields that a command uses are checked. -/
theorem contentDefect?_decides {earlier : List Declaration} (declaration : Declaration) :
    Decides (fun place defect => CommandBreach reserved earlier declaration (3 :: place) defect)
      (contentDefect? declaration) := by
  unfold contentDefect?
  cases kind : declaration.template with
  | fixed template =>
    refine (slotDefect?_decides .scalar [] template.slots).of_iff fun place defect =>
      ⟨fun broken => ?_, .slot kind⟩
    cases broken with
    | slot other broken =>
      cases kind.symm.trans other
      exact broken
    | parameter other _ => cases kind.symm.trans other
  | switched template =>
    refine (parameterDefect?_decides [] template.parameters [] fun _ => Iff.rfl).of_iff
      fun place defect => ⟨fun broken => ?_, .parameter kind⟩
    cases broken with
    | slot other _ => cases kind.symm.trans other
    | parameter other broken =>
      cases kind.symm.trans other
      exact broken

/-- A command is checked rule by rule. -/
theorem commandDefect?_decides {earlier : List Declaration} {keywords : List String}
    (collected : ∀ keyword, keyword ∈ keywords ↔
      ∃ other ∈ earlier, other.template.keyword = keyword) (declaration : Declaration) :
    Decides (CommandBreach reserved earlier declaration)
      (commandDefect? reserved keywords declaration) := by
  unfold commandDefect?
  rw [ite_or, ite_or (.noKeyword _), ite_or (.duplicateKeyword _)]
  refine .step (fun defect broken => by cases broken) (.test fun place defect => ?_) fun _ => ?_
  · rw [Bool.and_eq_true]
    constructor
    · intro broken
      cases broken with
      | help beside takes => exact ⟨rfl, ⟨beside, (claimsHelp_iff _).mpr takes⟩, rfl⟩
    · rintro ⟨rfl, ⟨beside, claims⟩, rfl⟩
      exact .help beside ((claimsHelp_iff _).mp claims)
  refine .step (fun defect broken => broken) (.test fun place defect => ?_) fun _ => ?_
  · change CommandBreach reserved earlier declaration (1 :: place) defect ↔ _
    have blank : (Text.trim declaration.template.keyword).isEmpty = true ↔
        declaration.template.keyword = "" := by
      rw [← not_iff_not, Bool.not_eq_true]
      exact declaration.template.trim_keyword_isEmpty
    rw [blank]
    constructor
    · intro broken
      cases broken with
      | keyword bare => exact ⟨rfl, bare, rfl⟩
    · rintro ⟨rfl, bare, rfl⟩
      exact .keyword bare
  refine .step (fun defect broken => broken) (.test fun place defect => ?_) fun _ => ?_
  · change CommandBreach reserved earlier declaration (2 :: place) defect ↔ _
    rw [List.contains_iff_mem, collected]
    constructor
    · intro broken
      cases broken with
      | unique before same => exact ⟨rfl, ⟨_, before, same⟩, rfl⟩
    · rintro ⟨rfl, ⟨_, before, same⟩, rfl⟩
      exact .unique before same
  refine .last (fun defect broken => broken) (fun number place defect broken => ?_)
    (contentDefect?_decides declaration)
  change CommandBreach reserved earlier declaration ((number + 4) :: place) defect at broken
  cases broken

/-- Commands are checked one after the other, each with the keywords of those before it. -/
theorem commandsDefect?_decides (earlier declarations : List Declaration) (keywords : List String)
    (collected : ∀ keyword, keyword ∈ keywords ↔
      ∃ other ∈ earlier, other.template.keyword = keyword) :
    Decides (Along (CommandBreach reserved) earlier declarations)
      (commandsDefect? reserved keywords declarations) := by
  induction declarations generalizing earlier keywords with
  | nil => exact .along_nil
  | cons declaration rest ih =>
    have more : ∀ keyword, keyword ∈ declaration.template.keyword :: keywords ↔
        ∃ other ∈ earlier ++ [declaration], other.template.keyword = keyword := by
      intro keyword
      rw [List.mem_cons, collected]
      simp only [List.mem_append, List.mem_singleton, or_and_right, exists_or, exists_eq_left]
      rw [eq_comm]
      exact or_comm
    rw [commandsDefect?]
    exact .along_cons (commandDefect?_decides collected declaration) (ih _ _ more)

/-- A set of commands is checked command by command. -/
theorem defect?_decides (reserved : Bool) (declarations : List Declaration) :
    Decides (Breach reserved declarations) (defect? reserved declarations) := by
  unfold defect?
  by_cases filled : declarations = []
  · rw [if_pos (by rw [filled]; rfl)]
    have only : ∀ place defect, Breach reserved declarations place defect →
        place = [] ∧ Defect.noCommands = defect := by
      intro place defect broken
      cases broken with
      | empty _ => exact ⟨rfl, rfl⟩
      | command broken =>
        rw [filled] at broken
        cases broken with
        | element stands => cases stands
    refine .single (fun place defect broken => (only place defect broken).1) fun defect => ?_
    rw [Option.some.injEq]
    constructor
    · rintro rfl
      exact .empty filled
    · exact fun broken => (only [] defect broken).2
  · rw [if_neg (by simpa using filled)]
    have unused : ∀ keyword, keyword ∈ ([] : List String) ↔
        ∃ other ∈ ([] : List Declaration), other.template.keyword = keyword := by simp
    refine (commandsDefect?_decides [] declarations [] unused).of_iff fun place defect =>
      ⟨fun broken => ?_, .command⟩
    cases broken with
    | empty bare => exact absurd bare filled
    | command broken => exact broken

/-- A set of commands is accepted exactly when it keeps the rules, which is when no rule is broken;
and the defect of a set that is not accepted is that of the breach at the first place. -/
theorem defect?_exact (reserved : Bool) (declarations : List Declaration) :
    (defect? reserved declarations = none ↔ Acceptable reserved declarations) ∧
      (Acceptable reserved declarations ↔
        ∀ place defect, ¬ Breach reserved declarations place defect) ∧
      ∀ defect, defect? reserved declarations = some defect ↔
        IsFirst (Breach reserved declarations) defect := by
  have decides := defect?_decides reserved declarations
  have accepted := defect?_none reserved declarations
  exact ⟨accepted, accepted.symm.trans decides.nothing, decides.first⟩

/-- A slot of the first command is no field, and the second takes the name of the help: the first
command decides. -/
example : defect? true [⟨.fixed ⟨"go [[Where]]"⟩, .empty "Go"⟩, ⟨.fixed ⟨"HELP"⟩, .empty "Help"⟩] =
    some (.missingField "go [[Where]]" "Go" "Where") := by decide +kernel

end Validation

end Switchboard
