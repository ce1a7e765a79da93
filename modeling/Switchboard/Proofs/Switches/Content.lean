import Switchboard.Proofs.Record.Content
import Switchboard.Proofs.Switches.Verdict
/-!
# The record of a line

A line that is bound to its end makes a record, and `read?_content` says which: every occurrence
enters its values at the place that its parameter declares, in the order of the line, and the record
holds these entries and nothing else.
-/
namespace Switchboard

namespace Descriptor

/-- A capture is converted to a value of its field, by the type that the field is declared with. -/
def ConvertsTo (descriptor : Descriptor) (capture : String × String) (value : String × Scalar) :
    Prop :=
  value.1 = capture.1 ∧ ∃ type, descriptor.scalarType? capture.1 = some type ∧
    type.read capture.2 = some value.2

/-- The program converts captures so. -/
theorem convertsTo_of_convert {descriptor : Descriptor} {capture : String × String}
    {value : String × Scalar} (converted : descriptor.convert capture = .ok value) :
    descriptor.ConvertsTo capture value := by
  cases declared : descriptor.scalarType? capture.1 with
  | none => simp [convert, declared] at converted
  | some type =>
    rcases convert_cases declared with ⟨scalar, read, done⟩ | ⟨_, refused⟩
    · rw [done] at converted
      cases converted
      exact ⟨rfl, type, declared, read⟩
    · rw [refused] at converted
      contradiction

end Descriptor

/-- An entry is for fields that are declared with the shape of its target. -/
def Entry.Declared (descriptor : Descriptor) (entry : Entry) : Prop :=
  match entry.target with
  | .fields => ∀ value ∈ entry.values, descriptor.Declares .scalar value.1
  | .lists => ∀ value ∈ entry.values, descriptor.Declares .scalarList value.1
  | .nested field => ∃ typeName fields,
    descriptor.find? field = some (.composite typeName fields) ∧
      ∀ value ∈ entry.values, Descriptor.Declares ⟨typeName, fields⟩ .scalar value.1
  | .elements field => ∃ typeName fields,
    descriptor.find? field = some (.compositeList typeName fields) ∧
      ∀ value ∈ entry.values, Descriptor.Declares ⟨typeName, fields⟩ .scalar value.1

namespace Occurrence

variable {descriptor : Descriptor}

/-- What an occurrence enters into a record. -/
inductive Enters (descriptor : Descriptor) : Occurrence → Entry → Prop where
  /-- A flag makes its field true. -/
  | flag {parameter : Parameter} {field : String} :
      Enters descriptor (.flag parameter field) ⟨.fields, [(field, .bool true)]⟩
  /-- A value is cut into captures, and these are converted for the fields of the receiver. -/
  | valued {parameter : Parameter} {template : ValueTemplate} {text : String}
      {captures : List (String × String)} {values : List (String × Scalar)}
      (cut : template.capture text = some captures)
      (converted : List.Forall₂ (parameter.receiver descriptor).ConvertsTo captures values) :
      Enters descriptor (.valued parameter template text) ⟨parameter.target, values⟩

/-- The entry that the program finds is what the occurrence enters. -/
theorem enters_of_entry {occurrence : Occurrence} {entry : Entry}
    (found : occurrence.entry descriptor = .ok entry) : occurrence.Enters descriptor entry := by
  cases occurrence with
  | flag parameter field =>
    cases found
    exact .flag
  | valued parameter template text =>
    cases cut : template.capture text with
    | none => simp [Occurrence.entry, cut] at found
    | some captures =>
      cases converted : captures.mapM (parameter.receiver descriptor).convert with
      | error error => simp [Occurrence.entry, cut, converted] at found
      | ok values =>
        simp only [Occurrence.entry, cut, converted, Except.ok.injEq] at found
        rw [← found]
        have values := mapM_ok_iff.mp converted
        exact .valued cut (values.imp fun _ _ => Descriptor.convertsTo_of_convert)

/-- Converted captures are for the same fields as the captures. -/
theorem converted_names {receiver : Descriptor} {captures : List (String × String)}
    {values : List (String × Scalar)}
    (converted : List.Forall₂ receiver.ConvertsTo captures values) :
    values.map Prod.fst = captures.map Prod.fst := by
  induction converted with
  | nil => rfl
  | cons head _ ih => rw [List.map_cons, List.map_cons, ih, head.1]

/-- The fields of an entry of an accepted parameter are declared. -/
theorem Enters.declared {occurrence : Occurrence} {entry : Entry}
    (enters : occurrence.Enters descriptor entry) (consistent : occurrence.Consistent)
    (fits : occurrence.parameter.Fits descriptor) : entry.Declared descriptor := by
  cases enters with
  | @flag parameter field =>
    cases fits with
    | flag kind _ _ declared =>
      cases consistent.symm.trans kind
      intro value member
      cases List.mem_singleton.mp member
      exact ⟨_, declared, .scalar .bool⟩
    | scalars kind | lists kind | nested kind | elements kind =>
      cases consistent.symm.trans kind
  | @valued parameter template text captures values cut converted =>
    change parameter.kind = .valued template at consistent
    change parameter.Fits descriptor at fits
    have slots : ∀ value ∈ values, value.1 ∈ template.slots := by
      intro value member
      rw [← ValueTemplate.capture_names cut, ← converted_names converted]
      exact List.mem_map_of_mem member
    cases fits with
    | flag kind => cases consistent.symm.trans kind
    | scalars kind _ plain once declared =>
      cases consistent.symm.trans kind
      simp only [Entry.Declared, Parameter.target, plain, once, Bool.false_eq_true, if_false]
      exact fun value member => declared value.1 (slots value member)
    | lists kind _ plain again declared =>
      cases consistent.symm.trans kind
      simp only [Entry.Declared, Parameter.target, plain, again, if_true]
      exact fun value member => declared value.1 (slots value member)
    | @nested _ field typeName fields kind _ inner once holder declared =>
      cases consistent.symm.trans kind
      simp only [Entry.Declared, Parameter.target, inner, once, Bool.false_eq_true, if_false]
      exact ⟨typeName, fields, holder, fun value member => declared value.1 (slots value member)⟩
    | @elements _ field typeName fields kind _ inner again holder declared =>
      cases consistent.symm.trans kind
      simp only [Entry.Declared, Parameter.target, inner, again, if_true]
      exact ⟨typeName, fields, holder, fun value member => declared value.1 (slots value member)⟩

end Occurrence

namespace SwitchedTemplate

variable {template : SwitchedTemplate} {descriptor : Descriptor}

/-- Tokens that are bound to their end have no unknown switch, and their record holds the entries of
their occurrences. -/
theorem readSwitches_content (sound : template.Sound descriptor) {tokens : List String}
    {occurrences : List Occurrence} {ending : Option String} {record : Record}
    (split : template.Split tokens occurrences ending)
    (bound : template.readSwitches descriptor tokens = .ok record) :
    ending = none ∧ ∃ entries, List.Forall₂ (Occurrence.Enters descriptor) occurrences entries ∧
      record.Holds entries := by
  rw [readSwitches_of_split sound split] at bound
  cases folded : occurrences.foldlM (Occurrence.bind descriptor) ⟨[], .empty⟩ with
  | error fault => simp [folded, Except.bind] at bound
  | ok progress =>
    obtain ⟨_, entries, entered, rfl⟩ :=
      bindAll_ok sound.distinct (sound.admits split) folded
    rw [folded] at bound
    cases ending with
    | some token => simp [Except.bind, conclude] at bound
    | none =>
      refine ⟨rfl, entries, entered.imp fun _ _ => Occurrence.enters_of_entry, ?_⟩
      simp only [Except.bind, conclude] at bound
      split at bound
      · cases bound
        exact Record.holds_foldl entries
      · contradiction

/-- The entries of a line of a sound template are for declared fields. -/
theorem entries_declared (sound : template.Sound descriptor) {tokens : List String}
    {occurrences : List Occurrence} {ending : Option String} {entries : List Entry}
    (split : template.Split tokens occurrences ending)
    (entered : List.Forall₂ (Occurrence.Enters descriptor) occurrences entries) :
    ∀ entry ∈ entries, entry.Declared descriptor := by
  have admitted := sound.admits split
  clear split
  induction entered with
  | nil => simp
  | cons head _ ih =>
    intro entry member
    cases member with
    | head =>
      have admits := admitted _ List.mem_cons_self
      exact head.declared admits.consistent admits.fits
    | tail _ member =>
      exact ih (fun other among => admitted other (List.mem_cons_of_mem _ among)) entry member

/-- The record of a line of an accepted switched command holds what the occurrences on the line
enter, in the order of the line and at the places that the parameters declare, and it is the only
record that does. -/
theorem read?_content {reserved : Bool} {declarations : List Declaration}
    (accepted : Validation.defect? reserved declarations = none)
    (member : ⟨.switched template, descriptor⟩ ∈ declarations) {tokens : List String}
    {record : Record} (parsed : template.read? descriptor tokens = some (.ok record)) :
    ∃ switches occurrences, tokens = template.keywords ++ switches ∧
      (∀ others ending, template.Split switches others ending ↔
        others = occurrences ∧ ending = none) ∧
      ∃ entries, List.Forall₂ (Occurrence.Enters descriptor) occurrences entries ∧
        (∀ entry ∈ entries, entry.Declared descriptor) ∧
        ∀ other, other.Holds entries ↔ other = record := by
  have sound := Validation.switched_sound accepted member
  have leads : template.keywords <+: tokens := by
    by_contra differs
    rw [read?_none_iff.mpr differs] at parsed
    contradiction
  obtain ⟨switches, rfl⟩ := leads
  have bound : template.readSwitches descriptor switches = .ok record := by
    rw [read?_append] at parsed
    exact Option.some.inj parsed
  have split := split_occurrences template switches
  obtain ⟨ended, entries, entered, holds⟩ := readSwitches_content sound split bound
  refine ⟨switches, (template.occurrences switches).1, rfl, fun others ending => ?_, entries,
    entered, entries_declared sound split entered, fun other => ?_⟩
  · rw [split_iff sound.distinct, ← ended, eq_comm, Prod.ext_iff]
  · exact ⟨fun held => held.unique holds, fun same => same ▸ holds⟩

end SwitchedTemplate

namespace Sample

/-- A line of the sample command, on which a switch comes again for a list of scalars and for a
list of records. -/
def runLine : List String :=
  ["docker", "run", "-e", "A=1", "--label", "x", "--name", "web", "--image", "nginx:1", "-d",
    "--env", "B=", "--label", "y"]

/-- The record of a line on which switches come again holds what its occurrences enter. -/
theorem runLine_content :
    Validation.defect? false [runDeclaration] = none ∧ runDeclaration ∈ [runDeclaration] ∧
      ∃ record, run.read? runRecord runLine = some (.ok record) ∧
        record.scalars = [("Detached", .bool true), ("Name", .text "web")] ∧
        record.lists = [("Label", [.text "x", .text "y"])] ∧
        ∃ switches occurrences entries, run.Split switches occurrences none ∧
          List.Forall₂ (Occurrence.Enters runRecord) occurrences entries ∧
          record.Holds entries := by
  have computed : ((run.read? runRecord runLine).map fun reading =>
      reading.toOption.map fun record => (record.scalars, record.lists)) =
        some (some ([("Detached", .bool true), ("Name", .text "web")],
          [("Label", [.text "x", .text "y"])])) := by decide +kernel
  cases read : run.read? runRecord runLine with
  | none => simp [read] at computed
  | some reading =>
    cases reading with
    | error fault => simp [read, Except.toOption] at computed
    | ok record =>
      simp only [read, Except.toOption, Option.map_some, Option.some.injEq, Prod.mk.injEq]
        at computed
      obtain ⟨switches, occurrences, _, split, entries, entered, _, holds⟩ :=
        SwitchedTemplate.read?_content run_accepted (List.mem_singleton.mpr rfl) read
      exact ⟨run_accepted, List.mem_singleton.mpr rfl, record, rfl, computed.1, computed.2,
        switches, occurrences, entries, (split occurrences none).mpr ⟨rfl, rfl⟩, entered,
        (holds record).mpr rfl⟩

end Sample

end Switchboard
