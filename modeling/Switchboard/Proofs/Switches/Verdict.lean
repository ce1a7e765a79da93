import Mathlib.Data.List.Induction
import Switchboard.Proofs.Switches.Split
/-!
# The verdict on a line

What comes of the tokens after the keywords is said here without a loop and without a record: the
line is split into occurrences, the leftmost faulty one decides, and the faults of one occurrence
are ranked by the premises of `Occurrence.Faulty` and `Occurrence.Wrong`. The main result,
`read?_verdict`, says that the program gives exactly this verdict on every line of an accepted
command. It rests on `bindAll_error_iff` and `bindAll_ok_iff`, which carry the names seen so far
through the fold of the program.
-/
namespace Switchboard

namespace Descriptor

/-- A capture stands for a value of its field. -/
def Converts (descriptor : Descriptor) (capture : String × String) : Prop :=
  ∃ type value, descriptor.scalarType? capture.1 = some type ∧ type.read capture.2 = some value

/-- A capture of a declared field is converted when it stands for a value, and otherwise refused
with the kind of the field. -/
theorem convert_cases {descriptor : Descriptor} {capture : String × String} {type : ScalarType}
    (declared : descriptor.scalarType? capture.1 = some type) :
    (∃ value, type.read capture.2 = some value ∧
      descriptor.convert capture = .ok (capture.1, value)) ∨
      (type.read capture.2 = none ∧
        descriptor.convert capture = .error (.conversion capture.1 capture.2 type.kind)) := by
  simp only [convert, declared]
  cases read : type.read capture.2 with
  | none => exact .inr ⟨rfl, rfl⟩
  | some value => exact .inl ⟨value, rfl, rfl⟩

/-- Conversion succeeds exactly on captures that stand for a value. -/
theorem converts_iff {descriptor : Descriptor} {capture : String × String} :
    descriptor.Converts capture ↔ ∃ value, descriptor.convert capture = .ok value := by
  constructor
  · rintro ⟨type, value, declared, read⟩
    exact ⟨(capture.1, value), by simp only [convert, declared, read]⟩
  · rintro ⟨value, converted⟩
    cases declared : descriptor.scalarType? capture.1 with
    | none => simp [convert, declared] at converted
    | some type =>
      rcases convert_cases declared with ⟨value, read, _⟩ | ⟨_, refused⟩
      · exact ⟨type, value, declared, read⟩
      · rw [refused] at converted
        contradiction

/-- Converting captures of declared fields in order fails exactly on the first of them that stands
for no value. -/
theorem mapM_convert_error_iff {descriptor : Descriptor} {captures : List (String × String)}
    {error : BindError}
    (declared : ∀ capture ∈ captures, ∃ type, descriptor.scalarType? capture.1 = some type) :
    captures.mapM descriptor.convert = .error error ↔
      ∃ before slot text after type, captures = before ++ (slot, text) :: after ∧
        (∀ capture ∈ before, descriptor.Converts capture) ∧
        descriptor.scalarType? slot = some type ∧ type.read text = none ∧
        error = .conversion slot text type.kind := by
  rw [mapM_error_iff]
  constructor
  · rintro ⟨before, ⟨slot, text⟩, after, rfl, converted, refused⟩
    obtain ⟨type, typed⟩ := declared (slot, text) (List.mem_append_right _ List.mem_cons_self)
    rcases convert_cases typed with ⟨_, _, done⟩ | ⟨unread, same⟩
    · rw [done] at refused
      contradiction
    · rw [same] at refused
      cases refused
      refine ⟨before, slot, text, after, type, rfl, fun capture member => ?_, typed, unread, rfl⟩
      exact converts_iff.mpr (converted capture member)
  · rintro ⟨before, slot, text, after, type, rfl, converted, typed, unread, rfl⟩
    refine ⟨before, (slot, text), after, rfl, fun capture member => ?_, ?_⟩
    · exact converts_iff.mp (converted capture member)
    · simp only [convert, typed, unread]

end Descriptor

namespace Parameter

variable {descriptor : Descriptor} {parameter : Parameter}

/-- The slots of an accepted parameter have types in the record type that receives them. -/
theorem Fits.slot_type {template : ValueTemplate} (fits : parameter.Fits descriptor)
    (kind : parameter.kind = .valued template) :
    ∀ slot ∈ template.slots, ∃ type,
      (parameter.receiver descriptor).scalarType? slot = some type := by
  intro slot member
  cases fits with
  | flag taken => cases kind.symm.trans taken
  | scalars taken _ plain _ declared =>
    cases kind.symm.trans taken
    simp only [receiver, plain]
    exact (declared slot member).scalarType? (.inl rfl)
  | lists taken _ plain _ declared =>
    cases kind.symm.trans taken
    simp only [receiver, plain]
    exact (declared slot member).scalarType? (.inr rfl)
  | nested taken _ inner _ holder declared =>
    cases kind.symm.trans taken
    simp only [receiver, inner, Descriptor.nested?, holder, Option.getD_some]
    exact (declared slot member).scalarType? (.inl rfl)
  | elements taken _ inner _ holder declared =>
    cases kind.symm.trans taken
    simp only [receiver, inner, Descriptor.nested?, holder, Option.getD_some]
    exact (declared slot member).scalarType? (.inl rfl)

end Parameter

/-! ## Faults of one occurrence -/

namespace Occurrence

/-- What is wrong with an occurrence whatever else is on the line. -/
inductive Wrong (descriptor : Descriptor) : Occurrence → Fault → Prop where
  /-- The value cannot be cut as the template says. -/
  | malformed {parameter : Parameter} {template : ValueTemplate} {value : String}
      (unfit : template.capture value = none) :
      Wrong descriptor (.valued parameter template value)
        (.rejected (.malformedValue parameter.name value template.source))
  /-- A capture does not convert, and all before it do. -/
  | unconvertible {parameter : Parameter} {template : ValueTemplate} {value slot text : String}
      {before after : List (String × String)} {type : ScalarType}
      (fit : template.capture value = some (before ++ (slot, text) :: after))
      (converted : ∀ capture ∈ before, (parameter.receiver descriptor).Converts capture)
      (declared : (parameter.receiver descriptor).scalarType? slot = some type)
      (refused : type.read text = none) :
      Wrong descriptor (.valued parameter template value)
        (.malformed (.conversion slot text type.kind))

/-- A switch that may stand on a line only once stands there again. -/
def Repeats (earlier : List Occurrence) (occurrence : Occurrence) : Prop :=
  occurrence.mustBeOnly = true ∧ ∃ other ∈ earlier, other.parameter = occurrence.parameter

/-- The fault of an occurrence after others: a repetition first, and else what is wrong with it. -/
inductive Faulty (descriptor : Descriptor) (earlier : List Occurrence) (occurrence : Occurrence) :
    Fault → Prop where
  /-- The switch stands on the line again. -/
  | duplicate (again : occurrence.Repeats earlier) :
      Faulty descriptor earlier occurrence
        (.rejected (.duplicateParameter occurrence.parameter.name))
  /-- The switch may stand there, but something is wrong with it. -/
  | wrong {fault : Fault} (fresh : ¬ occurrence.Repeats earlier)
      (wrong : occurrence.Wrong descriptor fault) : Faulty descriptor earlier occurrence fault

variable {descriptor : Descriptor} {occurrence : Occurrence}

/-- The program refuses an occurrence exactly for what is wrong with it. -/
theorem entry_error_iff (consistent : occurrence.Consistent)
    (fits : occurrence.parameter.Fits descriptor) {fault : Fault} :
    occurrence.entry descriptor = .error fault ↔ occurrence.Wrong descriptor fault := by
  cases occurrence with
  | flag parameter field =>
    constructor
    · intro failed
      cases failed
    · intro wrong
      cases wrong
  | valued parameter template value =>
    change parameter.kind = .valued template at consistent
    change parameter.Fits descriptor at fits
    have typed : ∀ captures, template.capture value = some captures → ∀ capture ∈ captures,
        ∃ type, (parameter.receiver descriptor).scalarType? capture.1 = some type := by
      intro captures found capture member
      exact fits.slot_type consistent capture.1 (ValueTemplate.capture_mem found capture member)
    constructor
    · intro failed
      cases found : template.capture value with
      | none =>
        simp only [entry, found, Except.error.injEq] at failed
        rw [← failed]
        exact .malformed found
      | some captures =>
        cases converted : captures.mapM (parameter.receiver descriptor).convert with
        | ok values => simp [entry, found, converted] at failed
        | error error =>
          simp only [entry, found, converted, Except.error.injEq] at failed
          obtain ⟨before, slot, text, after, type, rfl, earlier, declared, unread, rfl⟩ :=
            (Descriptor.mapM_convert_error_iff (typed captures found)).mp converted
          rw [← failed]
          exact .unconvertible found earlier declared unread
    · intro wrong
      cases wrong with
      | malformed unfit => simp only [entry, unfit]
      | unconvertible fit converted declared refused =>
        have failed := (Descriptor.mapM_convert_error_iff (typed _ fit)).mpr
          ⟨_, _, _, _, _, rfl, converted, declared, refused, rfl⟩
        simp only [entry, fit, failed]

/-- The program lets an occurrence pass exactly when nothing is wrong with it. -/
theorem entry_ok_iff (consistent : occurrence.Consistent)
    (fits : occurrence.parameter.Fits descriptor) :
    (∃ said, occurrence.entry descriptor = .ok said) ↔
      ∀ fault, ¬ occurrence.Wrong descriptor fault := by
  cases outcome : occurrence.entry descriptor with
  | ok said =>
    refine ⟨fun _ fault wrong => ?_, fun _ => ⟨said, rfl⟩⟩
    rw [← entry_error_iff consistent fits, outcome] at wrong
    contradiction
  | error fault =>
    refine ⟨fun ⟨_, passed⟩ => by contradiction, fun sound => ?_⟩
    exact absurd ((entry_error_iff consistent fits).mp outcome) (sound fault)

/-! ## Faults of one occurrence after others -/

/-- The names that the program has seen after some occurrences, the latest first. -/
def seenAfter (earlier : List Occurrence) : List String :=
  (earlier.map fun occurrence => occurrence.parameter.name).reverse

/-- One more occurrence adds its name. -/
theorem seenAfter_concat (earlier : List Occurrence) (occurrence : Occurrence) :
    seenAfter (earlier ++ [occurrence]) = occurrence.parameter.name :: seenAfter earlier := by
  simp [seenAfter]

end Occurrence

namespace SwitchedTemplate

variable {template : SwitchedTemplate} {descriptor : Descriptor}

/-- An occurrence on a line of a template with the fields that its parameter needs. -/
structure Admits (template : SwitchedTemplate) (descriptor : Descriptor)
    (occurrence : Occurrence) : Prop where
  /-- The parameter takes what the occurrence has. -/
  consistent : occurrence.Consistent
  /-- The parameter is one of the template. -/
  declared : occurrence.parameter ∈ template.parameters
  /-- The parameter fits the record type. -/
  fits : occurrence.parameter.Fits descriptor

/-- Where all switches differ, a parameter is known by its name. -/
theorem Distinct.parameter_eq (distinct : template.Distinct) {first second : Parameter}
    (one : first ∈ template.parameters) (other : second ∈ template.parameters)
    (same : first.name = second.name) : first = second :=
  Names.unique distinct ⟨one, .inl same⟩ ⟨other, .inl rfl⟩

/-- The names seen tell whether a switch repeats. -/
theorem contains_seenAfter (distinct : template.Distinct) {earlier : List Occurrence}
    (admitted : ∀ other ∈ earlier, template.Admits descriptor other) {occurrence : Occurrence}
    (admits : template.Admits descriptor occurrence) :
    (occurrence.mustBeOnly &&
      (Occurrence.seenAfter earlier).contains occurrence.parameter.name) = true ↔
      occurrence.Repeats earlier := by
  simp only [Bool.and_eq_true, List.contains_iff_mem, Occurrence.seenAfter, List.mem_reverse,
    List.mem_map, Occurrence.Repeats]
  constructor
  · rintro ⟨only, other, member, same⟩
    exact ⟨only, other, member,
      distinct.parameter_eq (admitted other member).declared admits.declared same⟩
  · rintro ⟨only, other, member, same⟩
    exact ⟨only, other, member, by rw [same]⟩

/-- Binding one occurrence fails exactly with its fault. -/
theorem bind_error_iff (distinct : template.Distinct) {earlier : List Occurrence}
    (admitted : ∀ other ∈ earlier, template.Admits descriptor other) {occurrence : Occurrence}
    (admits : template.Admits descriptor occurrence) (record : Record) {fault : Fault} :
    Occurrence.bind descriptor ⟨Occurrence.seenAfter earlier, record⟩ occurrence = .error fault ↔
      occurrence.Faulty descriptor earlier fault := by
  have repeats := contains_seenAfter distinct admitted admits
  have written := Occurrence.write_eq admits.consistent admits.fits record
  unfold Occurrence.bind
  by_cases again : occurrence.Repeats earlier
  · simp only [if_pos (repeats.mpr again), Except.error.injEq]
    constructor
    · rintro rfl
      exact .duplicate again
    · intro faulty
      cases faulty with
      | duplicate _ => rfl
      | wrong fresh _ => exact absurd again fresh
  · simp only [if_neg (mt repeats.mp again), written]
    have wrong : occurrence.entry descriptor = .error fault ↔ occurrence.Wrong descriptor fault :=
      Occurrence.entry_error_iff admits.consistent admits.fits
    constructor
    · intro failed
      cases outcome : occurrence.entry descriptor with
      | ok said => simp [outcome, Except.map] at failed
      | error found =>
        simp only [outcome, Except.map, Except.error.injEq] at failed
        exact .wrong again (wrong.mp (by rw [outcome, failed]))
    · intro faulty
      cases faulty with
      | duplicate found => exact absurd found again
      | wrong _ own => rw [wrong.mpr own]; rfl

/-- Binding one occurrence that has no fault puts its values into the record. -/
theorem bind_ok_iff (distinct : template.Distinct) {earlier : List Occurrence}
    (admitted : ∀ other ∈ earlier, template.Admits descriptor other) {occurrence : Occurrence}
    (admits : template.Admits descriptor occurrence) (record : Record) {progress : Progress} :
    Occurrence.bind descriptor ⟨Occurrence.seenAfter earlier, record⟩ occurrence = .ok progress ↔
      ¬ occurrence.Repeats earlier ∧ ∃ said, occurrence.entry descriptor = .ok said ∧
        progress = ⟨Occurrence.seenAfter (earlier ++ [occurrence]),
          record.enter said⟩ := by
  have repeats := contains_seenAfter distinct admitted admits
  have written := Occurrence.write_eq admits.consistent admits.fits record
  rw [Occurrence.seenAfter_concat]
  unfold Occurrence.bind
  by_cases again : occurrence.Repeats earlier
  · simp only [if_pos (repeats.mpr again), again]
    simp
  · simp only [if_neg (mt repeats.mp again), written, again]
    cases outcome : occurrence.entry descriptor with
    | ok said => simp [Except.map, eq_comm]
    | error found => simp [Except.map]

end SwitchedTemplate

/-! ## Faults of a line -/

/-- None of some occurrences is faulty after those before it. -/
def Faultless (descriptor : Descriptor) (occurrences : List Occurrence) : Prop :=
  ∀ before occurrence after, occurrences = before ++ occurrence :: after →
    ∀ fault, ¬ occurrence.Faulty descriptor before fault

/-- The fault of the leftmost occurrence that is faulty after those before it. -/
def LeftmostFault (descriptor : Descriptor) (occurrences : List Occurrence) (fault : Fault) :
    Prop :=
  ∃ before occurrence after, occurrences = before ++ occurrence :: after ∧
    Faultless descriptor before ∧ occurrence.Faulty descriptor before fault

section Line

variable {descriptor : Descriptor} {occurrences : List Occurrence} {fault : Fault}

/-- No occurrence at all is no faulty one. -/
theorem faultless_nil : Faultless descriptor [] := by
  intro before occurrence after same
  simp at same

/-- Where an occurrence stands when one more is added at the end. -/
theorem concat_eq_append_cons {last occurrence : Occurrence} {before after : List Occurrence} :
    occurrences ++ [last] = before ++ occurrence :: after ↔
      (before = occurrences ∧ occurrence = last ∧ after = []) ∨
        ∃ rest, after = rest ++ [last] ∧ occurrences = before ++ occurrence :: rest := by
  cases after using List.reverseRecOn with
  | nil =>
    rw [List.append_singleton_inj]
    constructor
    · rintro ⟨rfl, rfl⟩
      exact .inl ⟨rfl, rfl, rfl⟩
    · rintro (⟨rfl, rfl, _⟩ | ⟨rest, ended, _⟩)
      · exact ⟨rfl, rfl⟩
      · simp at ended
  | append_singleton rest final =>
    rw [← List.cons_append, ← List.append_assoc, List.append_singleton_inj]
    constructor
    · rintro ⟨front, rfl⟩
      exact .inr ⟨rest, rfl, front⟩
    · rintro (⟨_, _, ended⟩ | ⟨other, ended, front⟩)
      · simp at ended
      · obtain ⟨rfl, rfl⟩ := List.append_singleton_inj.mp ended
        exact ⟨front, rfl⟩

/-- One more occurrence leaves a line faultless exactly when it is not faulty itself. -/
theorem faultless_concat {last : Occurrence} :
    Faultless descriptor (occurrences ++ [last]) ↔
      Faultless descriptor occurrences ∧ ∀ fault, ¬ last.Faulty descriptor occurrences fault := by
  simp only [Faultless, concat_eq_append_cons]
  constructor
  · intro sound
    refine ⟨fun before occurrence after same => ?_, sound _ _ [] (.inl ⟨rfl, rfl, rfl⟩)⟩
    exact sound before occurrence (after ++ [last]) (.inr ⟨after, rfl, same⟩)
  · rintro ⟨sound, own⟩ before occurrence after (⟨rfl, rfl, rfl⟩ | ⟨rest, rfl, same⟩)
    · exact own
    · exact sound before occurrence rest same

/-- One more occurrence adds its fault to a line that has none. -/
theorem leftmostFault_concat {last : Occurrence} :
    LeftmostFault descriptor (occurrences ++ [last]) fault ↔
      LeftmostFault descriptor occurrences fault ∨
        (Faultless descriptor occurrences ∧ last.Faulty descriptor occurrences fault) := by
  simp only [LeftmostFault, concat_eq_append_cons]
  constructor
  · rintro ⟨before, occurrence, after, ⟨rfl, rfl, rfl⟩ | ⟨rest, rfl, same⟩, sound, faulty⟩
    · exact .inr ⟨sound, faulty⟩
    · exact .inl ⟨before, occurrence, rest, same, sound, faulty⟩
  · rintro (⟨before, occurrence, rest, same, sound, faulty⟩ | ⟨sound, faulty⟩)
    · exact ⟨before, occurrence, rest ++ [last], .inr ⟨rest, rfl, same⟩, sound, faulty⟩
    · exact ⟨occurrences, last, [], .inl ⟨rfl, rfl, rfl⟩, sound, faulty⟩

/-- A line with a leftmost fault is not faultless. -/
theorem LeftmostFault.not_faultless (faulty : LeftmostFault descriptor occurrences fault) :
    ¬ Faultless descriptor occurrences := by
  obtain ⟨before, occurrence, after, same, _, own⟩ := faulty
  exact fun sound => sound before occurrence after same fault own

end Line

namespace SwitchedTemplate

variable {template : SwitchedTemplate} {descriptor : Descriptor}

/-- Binding a line and then one more occurrence. -/
theorem foldlM_bind_concat (occurrences : List Occurrence) (last : Occurrence)
    (progress : Progress) :
    (occurrences ++ [last]).foldlM (Occurrence.bind descriptor) progress =
      (occurrences.foldlM (Occurrence.bind descriptor) progress).bind fun bound =>
        Occurrence.bind descriptor bound last := by
  rw [List.foldlM_append]
  congr 1
  funext bound
  rw [List.foldlM_cons]
  simp only [List.foldlM_nil]
  exact bind_pure _

/-- A line that is bound to its end is faultless, and its entries are entered in order. -/
theorem bindAll_ok (distinct : template.Distinct) {occurrences : List Occurrence}
    (admitted : ∀ occurrence ∈ occurrences, template.Admits descriptor occurrence)
    {progress : Progress}
    (bound : occurrences.foldlM (Occurrence.bind descriptor) ⟨[], .empty⟩ = .ok progress) :
    Faultless descriptor occurrences ∧
      ∃ entries, List.Forall₂ (fun occurrence entry => occurrence.entry descriptor = .ok entry)
          occurrences entries ∧
        progress = ⟨Occurrence.seenAfter occurrences, entries.foldl Record.enter .empty⟩ := by
  induction occurrences using List.reverseRecOn generalizing progress with
  | nil =>
    cases bound
    exact ⟨faultless_nil, [], .nil, rfl⟩
  | append_singleton occurrences last ih =>
    have earlier : ∀ occurrence ∈ occurrences, template.Admits descriptor occurrence :=
      fun occurrence member => admitted occurrence (List.mem_append_left _ member)
    have admits := admitted last (List.mem_append_right _ (List.mem_singleton.mpr rfl))
    rw [foldlM_bind_concat] at bound
    cases before : occurrences.foldlM (Occurrence.bind descriptor) ⟨[], .empty⟩ with
    | error fault => simp [before, Except.bind] at bound
    | ok middle =>
      obtain ⟨sound, entries, entered, rfl⟩ := ih earlier before
      rw [before] at bound
      obtain ⟨fresh, entry, own, rfl⟩ := (bind_ok_iff distinct earlier admits _).mp bound
      refine ⟨faultless_concat.mpr ⟨sound, ?_⟩, entries ++ [entry], ?_, ?_⟩
      · intro fault faulty
        cases faulty with
        | duplicate again => exact fresh again
        | wrong _ wrong =>
          exact (Occurrence.entry_ok_iff admits.consistent admits.fits).mp ⟨entry, own⟩ _ wrong
      · exact List.rel_append entered (.cons own .nil)
      · rw [List.foldl_append]
        rfl

/-- Binding a line fails exactly with its leftmost fault. -/
theorem bindAll_error_iff (distinct : template.Distinct) {occurrences : List Occurrence}
    (admitted : ∀ occurrence ∈ occurrences, template.Admits descriptor occurrence)
    {fault : Fault} :
    occurrences.foldlM (Occurrence.bind descriptor) ⟨[], .empty⟩ = .error fault ↔
      LeftmostFault descriptor occurrences fault := by
  induction occurrences using List.reverseRecOn generalizing fault with
  | nil =>
    constructor
    · intro failed
      cases failed
    · intro faulty
      exact absurd faultless_nil faulty.not_faultless
  | append_singleton occurrences last ih =>
    have earlier : ∀ occurrence ∈ occurrences, template.Admits descriptor occurrence :=
      fun occurrence member => admitted occurrence (List.mem_append_left _ member)
    have admits := admitted last (List.mem_append_right _ (List.mem_singleton.mpr rfl))
    rw [foldlM_bind_concat, leftmostFault_concat, ← ih earlier]
    cases before : occurrences.foldlM (Occurrence.bind descriptor) ⟨[], .empty⟩ with
    | error found =>
      have faulty := ((ih earlier).mp before).not_faultless
      simp [Except.bind, faulty]
    | ok middle =>
      obtain ⟨sound, entries, _, rfl⟩ := bindAll_ok distinct earlier before
      have own : Occurrence.bind descriptor _ last = .error fault ↔ _ :=
        bind_error_iff distinct earlier admits (entries.foldl Record.enter .empty)
      simp [Except.bind, sound, own]

/-! ## The verdict -/

/-- The required parameters that do not occur, in the order of their declaration. -/
def unmet (template : SwitchedTemplate) (occurrences : List Occurrence) : List String :=
  (template.parameters.filter fun parameter =>
    parameter.required ∧ ∀ occurrence ∈ occurrences, occurrence.parameter ≠ parameter).map
      Parameter.name

/-- What comes of the tokens after the keywords: a fault, or none. -/
inductive Verdict (template : SwitchedTemplate) (descriptor : Descriptor) (tokens : List String) :
    Option Fault → Prop where
  /-- The leftmost faulty occurrence decides. -/
  | faulty {occurrences : List Occurrence} {ending : Option String} {fault : Fault}
      (split : template.Split tokens occurrences ending)
      (leftmost : LeftmostFault descriptor occurrences fault) :
      Verdict template descriptor tokens (some fault)
  /-- A token in the place of a switch is none, and nothing is wrong before it. -/
  | unknown {occurrences : List Occurrence} {token : String}
      (split : template.Split tokens occurrences (some token))
      (sound : Faultless descriptor occurrences) :
      Verdict template descriptor tokens (some (.rejected (.unknownParameter token)))
  /-- Nothing is wrong on the line, but required parameters do not occur. -/
  | missing {occurrences : List Occurrence} (split : template.Split tokens occurrences none)
      (sound : Faultless descriptor occurrences) (lacking : template.unmet occurrences ≠ []) :
      Verdict template descriptor tokens
        (some (.rejected (.missingRequired (template.unmet occurrences))))
  /-- Nothing is wrong on the line, and all required parameters occur. -/
  | bound {occurrences : List Occurrence} (split : template.Split tokens occurrences none)
      (sound : Faultless descriptor occurrences) (complete : template.unmet occurrences = []) :
      Verdict template descriptor tokens none

/-- Dropping repetitions changes nothing where there are none. -/
theorem eraseDups_of_nodup {names : List String} (distinct : names.Nodup) :
    names.eraseDups = names := by
  induction names with
  | nil => rfl
  | cons name rest ih =>
    obtain ⟨fresh, distinct⟩ := List.nodup_cons.mp distinct
    have kept : (rest.filter fun other => !other == name) = rest := by
      rw [List.filter_eq_self]
      intro other member
      simpa using fun same : other = name => fresh (same ▸ member)
    rw [List.eraseDups_cons, kept, ih distinct]

/-- Where all switches differ, all names differ. -/
theorem Distinct.names_nodup (distinct : template.Distinct) :
    (template.parameters.map Parameter.name).Nodup := by
  refine List.Nodup.map_on ?_ ?_
  · exact fun first one second other same => distinct.parameter_eq one other same
  · rw [Distinct, List.nodup_flatMap] at distinct
    refine distinct.2.imp fun {first second} apart same => ?_
    exact apart List.mem_cons_self (same ▸ List.mem_cons_self)

/-- The names that the program misses are those of the required parameters that do not occur. -/
theorem missing_seenAfter (distinct : template.Distinct) {occurrences : List Occurrence}
    (declared : ∀ occurrence ∈ occurrences, occurrence.parameter ∈ template.parameters) :
    template.missing (Occurrence.seenAfter occurrences) = template.unmet occurrences := by
  have same : (template.parameters.filter fun parameter =>
      parameter.required && !(Occurrence.seenAfter occurrences).contains parameter.name) =
      template.parameters.filter fun parameter =>
        parameter.required ∧ ∀ occurrence ∈ occurrences, occurrence.parameter ≠ parameter := by
    apply List.filter_congr
    intro parameter member
    rw [Bool.eq_iff_iff]
    simp only [Bool.and_eq_true, Bool.not_eq_true', decide_eq_true_eq, Bool.eq_false_iff,
      Ne, List.contains_iff_mem, Occurrence.seenAfter, List.mem_reverse, List.mem_map, not_exists,
      not_and]
    refine and_congr_right fun _ => ⟨fun fresh other among equal => ?_, ?_⟩
    · exact fresh other among (by rw [equal])
    · intro fresh other among equal
      exact fresh other among (distinct.parameter_eq (declared other among) member equal)
  rw [missing, same, unmet]
  exact eraseDups_of_nodup (distinct.names_nodup.sublist ((List.filter_sublist).map _))

/-- The fault of a reading, if it has one. -/
def faultOf (reading : Except Fault Record) : Option Fault :=
  match reading with
  | .ok _ => none
  | .error fault => some fault

/-- The occurrences on a line of a sound template have the fields that they need. -/
theorem Sound.admits (sound : template.Sound descriptor) {tokens : List String}
    {occurrences : List Occurrence} {ending : Option String}
    (split : template.Split tokens occurrences ending) :
    ∀ occurrence ∈ occurrences, template.Admits descriptor occurrence := by
  intro occurrence member
  obtain ⟨consistent, declared⟩ := split.consistent occurrence member
  exact ⟨consistent, declared, sound.fits _ declared⟩

/-- A faultless line is bound to its end. -/
theorem bindAll_of_faultless (distinct : template.Distinct) {occurrences : List Occurrence}
    (admitted : ∀ occurrence ∈ occurrences, template.Admits descriptor occurrence)
    (faultless : Faultless descriptor occurrences) :
    ∃ record, occurrences.foldlM (Occurrence.bind descriptor) ⟨[], .empty⟩ =
      .ok ⟨Occurrence.seenAfter occurrences, record⟩ := by
  cases bound : occurrences.foldlM (Occurrence.bind descriptor) ⟨[], .empty⟩ with
  | error fault =>
    exact absurd faultless ((bindAll_error_iff distinct admitted).mp bound).not_faultless
  | ok progress =>
    obtain ⟨_, entries, _, rfl⟩ := bindAll_ok distinct admitted bound
    exact ⟨_, rfl⟩

/-- The program reads the tokens after the keywords by binding the occurrences and concluding. -/
theorem readSwitches_of_split (sound : template.Sound descriptor) {tokens : List String}
    {occurrences : List Occurrence} {ending : Option String}
    (split : template.Split tokens occurrences ending) :
    template.readSwitches descriptor tokens =
      (occurrences.foldlM (Occurrence.bind descriptor) ⟨[], .empty⟩).bind
        (template.conclude ending) := by
  simp only [readSwitches, (split_iff sound.distinct).mp split]

/-- The program goes through a faultless line and concludes. -/
theorem readSwitches_of_faultless (sound : template.Sound descriptor) {tokens : List String}
    {occurrences : List Occurrence} {ending : Option String}
    (split : template.Split tokens occurrences ending)
    (faultless : Faultless descriptor occurrences) :
    ∃ record, template.readSwitches descriptor tokens =
      template.conclude ending ⟨Occurrence.seenAfter occurrences, record⟩ := by
  obtain ⟨record, bound⟩ := bindAll_of_faultless sound.distinct (sound.admits split) faultless
  refine ⟨record, ?_⟩
  rw [readSwitches_of_split sound split, bound]
  rfl

/-- To conclude a line without unknown switches is to ask which required parameters do not occur. -/
theorem conclude_seenAfter (distinct : template.Distinct) {tokens : List String}
    {occurrences : List Occurrence} (split : template.Split tokens occurrences none)
    (record : Record) : template.conclude none ⟨Occurrence.seenAfter occurrences, record⟩ =
      if template.unmet occurrences = [] then .ok record
      else .error (.rejected (.missingRequired (template.unmet occurrences))) := by
  have names := missing_seenAfter distinct fun occurrence member =>
    (split.consistent occurrence member).2
  rw [conclude, names]
  cases template.unmet occurrences with
  | nil => rfl
  | cons name more => rfl

/-- The program gives the verdict, and no other, on the tokens after the keywords. -/
theorem readSwitches_verdict (sound : template.Sound descriptor) (tokens : List String)
    (verdict : Option Fault) :
    template.Verdict descriptor tokens verdict ↔
      faultOf (template.readSwitches descriptor tokens) = verdict := by
  constructor
  · intro given
    cases given with
    | faulty split leftmost =>
      have failed := (bindAll_error_iff sound.distinct (sound.admits split)).mpr leftmost
      rw [readSwitches_of_split sound split, failed]
      rfl
    | unknown split faultless =>
      obtain ⟨record, read⟩ := readSwitches_of_faultless sound split faultless
      rw [read]
      rfl
    | missing split faultless lacking =>
      obtain ⟨record, read⟩ := readSwitches_of_faultless sound split faultless
      rw [read, conclude_seenAfter sound.distinct split, if_neg lacking]
      rfl
    | bound split faultless complete =>
      obtain ⟨record, read⟩ := readSwitches_of_faultless sound split faultless
      rw [read, conclude_seenAfter sound.distinct split, if_pos complete]
      rfl
  · rintro rfl
    have split := split_occurrences template tokens
    cases bound : (template.occurrences tokens).1.foldlM (Occurrence.bind descriptor)
        ⟨[], .empty⟩ with
    | error fault =>
      rw [readSwitches_of_split sound split, bound]
      exact .faulty split ((bindAll_error_iff sound.distinct (sound.admits split)).mp bound)
    | ok progress =>
      obtain ⟨faultless, _⟩ := bindAll_ok sound.distinct (sound.admits split) bound
      obtain ⟨record, read⟩ := readSwitches_of_faultless sound split faultless
      rw [read]
      cases ending : (template.occurrences tokens).2 with
      | some token =>
        rw [ending] at split
        exact .unknown split faultless
      | none =>
        rw [ending] at split
        rw [conclude_seenAfter sound.distinct split]
        by_cases complete : template.unmet (template.occurrences tokens).1 = []
        · rw [if_pos complete]
          exact .bound split faultless complete
        · rw [if_neg complete]
          exact .missing split faultless complete

/-- A line that begins with the keywords is read after them. -/
theorem read?_append (template : SwitchedTemplate) (descriptor : Descriptor)
    (switches : List String) : template.read? descriptor (template.keywords ++ switches) =
      some (template.readSwitches descriptor switches) := by
  have leads : template.keywords.isPrefixOf (template.keywords ++ switches) = true :=
    List.isPrefixOf_iff_prefix.mpr (List.prefix_append _ _)
  rw [read?, if_pos leads, List.drop_left]

/-- A line that does not begin with the keywords comes to nothing. -/
theorem read?_none_iff {tokens : List String} :
    template.read? descriptor tokens = none ↔ ¬ template.keywords <+: tokens := by
  simp only [read?, ← List.isPrefixOf_iff_prefix]
  split <;> simp_all

/-- A line of an accepted switched command comes to nothing exactly when it does not begin with the
keywords; and if it does, it comes to exactly the verdict on the tokens after them. -/
theorem read?_verdict {reserved : Bool} {declarations : List Declaration}
    (accepted : Validation.defect? reserved declarations = none)
    (member : ⟨.switched template, descriptor⟩ ∈ declarations) (tokens : List String) :
    (template.read? descriptor tokens = none ↔ ¬ template.keywords <+: tokens) ∧
      ∀ switches, tokens = template.keywords ++ switches →
        ∃ reading, template.read? descriptor tokens = some reading ∧
          ∀ verdict, template.Verdict descriptor switches verdict ↔ faultOf reading = verdict := by
  have sound := Validation.switched_sound accepted member
  refine ⟨read?_none_iff, ?_⟩
  rintro switches rfl
  exact ⟨template.readSwitches descriptor switches, read?_append template descriptor switches,
    readSwitches_verdict sound switches⟩

/-- Of three faults on a line, a repetition under the shorthand, a value that does not convert and
an unknown switch, the leftmost decides; and a line with other keywords comes to nothing. -/
theorem read?_verdict_run :
    Validation.defect? false [Sample.runDeclaration] = none ∧
      Sample.runDeclaration ∈ [Sample.runDeclaration] ∧
      Sample.run.Verdict Sample.runRecord
        ["--name", "a", "-d", "-n", "-d", "--port", "many", "--stray"]
        (some (.rejected (.duplicateParameter "--name"))) ∧
      Sample.run.read? Sample.runRecord ["Docker", "run"] = none := by
  have at? := read?_verdict Sample.run_accepted (List.mem_singleton.mpr rfl)
  refine ⟨Sample.run_accepted, List.mem_singleton.mpr rfl, ?_, ?_⟩
  · obtain ⟨reading, found, verdict⟩ := (at? (Sample.run.keywords ++ _)).2 _ rfl
    have computed : (Sample.run.read? Sample.runRecord (Sample.run.keywords ++
        ["--name", "a", "-d", "-n", "-d", "--port", "many", "--stray"])).map faultOf =
          some (some (.rejected (.duplicateParameter "--name"))) := by decide +kernel
    rw [found] at computed
    exact (verdict _).mpr (Option.some.inj computed)
  · exact (at? ["Docker", "run"]).1.mpr (by decide +kernel)

end SwitchedTemplate

end Switchboard
