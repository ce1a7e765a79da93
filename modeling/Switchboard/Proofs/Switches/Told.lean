import Switchboard.Proofs.Shell.Reading
import Switchboard.Proofs.Text.Characters
import Switchboard.Proofs.Text.OneLine
import Switchboard.Shell.Session
/-!
# What faults tell

A fault repeats texts of the line and of the template that it was read with, and no others
(`Command.read?_told`). So if these are on one line, then so is whatever the shell says of the
fault: its reply and its entry in the diagnostics.
-/
namespace Switchboard

open Text

/-! ## The texts of a fault -/

/-- The texts that a rejection repeats are on one line. -/
def Rejection.Told : Rejection → Prop
  | unknownParameter name => OneLine name
  | duplicateParameter name => OneLine name
  | missingRequired names => ∀ name ∈ names, OneLine name
  | malformedValue parameter value template =>
    OneLine parameter ∧ OneLine value ∧ OneLine template

/-- A value does not convert, and the texts that are told of it are on one line. -/
def BindError.Told : BindError → Prop
  | conversion field value _ => OneLine field ∧ OneLine value
  | unknownField _ _ => False

/-- The texts of a fault are on one line. -/
def Fault.Told : Fault → Prop
  | rejected rejection => rejection.Told
  | malformed error => error.Told

namespace Rejection

variable {rejection : Rejection}

/-- The names of required parameters are told on one line. -/
theorem Told.names {names : List String} (told : (missingRequired names).Told) :
    OneLine (", ".intercalate names) := by
  have comma : OneLine ", " := by decide
  exact comma.intercalate told

/-- A rejection is replied on one line. -/
theorem Told.reply (told : rejection.Told) {command : String} (heading : OneLine command) :
    OneLine (rejection.reply command) := by
  cases rejection with
  | unknownParameter name =>
    change OneLine ("Parameter " ++ name ++ " is unknown for command " ++ command ++ ".")
    simp only [oneLine_append]
    exact ⟨⟨⟨⟨by decide, told⟩, by decide⟩, heading⟩, by decide⟩
  | duplicateParameter name =>
    change OneLine ("Found duplicated parameter " ++ name ++ " for command " ++ command ++ ".")
    simp only [oneLine_append]
    exact ⟨⟨⟨⟨by decide, told⟩, by decide⟩, heading⟩, by decide⟩
  | missingRequired names =>
    change OneLine ("Missing required parameters " ++ ", ".intercalate names ++
      (" for command " ++ command ++ "."))
    simp only [oneLine_append]
    exact ⟨⟨by decide, told.names⟩, ⟨by decide, heading⟩, by decide⟩
  | malformedValue parameter value template =>
    obtain ⟨parameterTold, valueTold, templateTold⟩ := told
    change OneLine ("Value " ++ value ++ " does not match template " ++ template ++
      " of parameter " ++ parameter ++ " " ++ ("for command " ++ command ++ "."))
    simp only [oneLine_append]
    exact ⟨⟨⟨⟨⟨⟨⟨by decide, valueTold⟩, by decide⟩, templateTold⟩, by decide⟩, parameterTold⟩,
      by decide⟩, ⟨by decide, heading⟩, by decide⟩

/-- A rejection has its own words on one line. -/
theorem Told.message (told : rejection.Told) : OneLine rejection.message := by
  cases rejection with
  | unknownParameter name =>
    change OneLine ("unknown parameter " ++ name)
    exact oneLine_append.mpr ⟨by decide, told⟩
  | duplicateParameter name =>
    change OneLine ("duplicated parameter " ++ name)
    exact oneLine_append.mpr ⟨by decide, told⟩
  | missingRequired names =>
    exact oneLine_append.mpr ⟨by decide, told.names⟩
  | malformedValue parameter value template =>
    obtain ⟨parameterTold, valueTold, templateTold⟩ := told
    change OneLine ("value " ++ value ++ " of " ++ parameter ++ " does not match " ++ template)
    simp only [oneLine_append]
    exact ⟨⟨⟨⟨⟨by decide, valueTold⟩, by decide⟩, parameterTold⟩, by decide⟩, templateTold⟩

/-- A rejection is noted on one line, like the line that is rejected. -/
theorem Told.entry (told : rejection.Told) {line : String} (one : OneLine line) :
    OneLine (rejection.entry line) := by
  have kind : OneLine rejection.kind := by
    cases rejection with
    | unknownParameter => exact (by decide : OneLine "Unknown parameter")
    | duplicateParameter => exact (by decide : OneLine "Duplicated parameter")
    | missingRequired => exact (by decide : OneLine "Missing required parameters")
    | malformedValue => exact (by decide : OneLine "Malformed value")
  change OneLine (rejection.kind ++ " during command parsing: " ++ line ++ ". Error: " ++
    rejection.message)
  simp only [oneLine_append]
  exact ⟨⟨⟨⟨kind, by decide⟩, one⟩, by decide⟩, told.message⟩

end Rejection

/-- A value that does not convert is noted on one line, like the line that it is on. -/
theorem BindError.Told.entry {error : BindError} (told : error.Told) {line : String}
    (one : OneLine line) : OneLine (error.entry line) := by
  cases error with
  | unknownField => cases told
  | conversion field value expected =>
  obtain ⟨fieldTold, valueTold⟩ := told
  have label : OneLine expected.label := by cases expected <;> decide
  change OneLine ("Format error during command parsing: " ++ line ++ ". Error: " ++
    ("cannot convert '" ++ value ++ "' to " ++ expected.label ++ " for field " ++ field))
  simp only [oneLine_append]
  exact ⟨⟨⟨by decide, one⟩, by decide⟩,
    ⟨⟨⟨⟨by decide, valueTold⟩, by decide⟩, label⟩, by decide⟩, fieldTold⟩

/-! ## The texts of a template -/

/-- The texts of a parameter that faults repeat are on one line. -/
structure Parameter.Told (parameter : Parameter) : Prop where
  /-- The switch. -/
  name : OneLine parameter.name
  /-- The template of its value, if it takes one. -/
  value : ∀ template, parameter.kind = .valued template → OneLine template.source

/-- The texts of a template that faults repeat are on one line. -/
def Template.Told : Template → Prop
  | fixed template => OneLine template.written
  | switched template =>
    OneLine template.written ∧ ∀ parameter ∈ template.parameters, parameter.Told

/-- The heading of such a template is on one line. -/
theorem Template.Told.heading {template : Template} (told : template.Told) :
    OneLine template.heading := by
  cases template with
  | fixed template => exact OneLine.of_subset told (trim_subset template.written)
  | switched template => exact told.1.of_subset (trim_subset template.written)

namespace SwitchedTemplate

variable {template : SwitchedTemplate} {descriptor : Descriptor} {tokens : List String}
  {occurrences : List Occurrence} {ending : Option String}

/-- The values on a line are tokens of it, and so is the token that is no switch. -/
theorem Split.mem_tokens (split : template.Split tokens occurrences ending) :
    (∀ parameter value text, .valued parameter value text ∈ occurrences → text ∈ tokens) ∧
      ∀ token, ending = some token → token ∈ tokens := by
  induction split with
  | done | dangling => simp
  | unknown => simp
  | flag _ _ _ ih =>
    obtain ⟨values, ended⟩ := ih
    refine ⟨fun parameter value text member => ?_,
      fun token last => List.mem_cons_of_mem _ (ended token last)⟩
    rcases List.mem_cons.mp member with same | member
    · cases same
    · exact List.mem_cons_of_mem _ (values parameter value text member)
  | valued _ _ _ ih =>
    obtain ⟨values, ended⟩ := ih
    refine ⟨fun parameter value text member => ?_, fun token last =>
      List.mem_cons_of_mem _ (List.mem_cons_of_mem _ (ended token last))⟩
    rcases List.mem_cons.mp member with same | member
    · cases same
      exact List.mem_cons_of_mem _ List.mem_cons_self
    · exact List.mem_cons_of_mem _ (List.mem_cons_of_mem _ (values parameter value text member))

/-- What is wrong with an occurrence repeats texts of its parameter and of its value. -/
theorem wrong_told {occurrence : Occurrence} (consistent : occurrence.Consistent)
    (told : occurrence.parameter.Told)
    (each : ∀ parameter value text, occurrence = .valued parameter value text → OneLine text)
    {fault : Fault} (wrong : occurrence.Wrong descriptor fault) : fault.Told := by
  cases wrong with
  | @malformed parameter value text _ =>
    exact ⟨told.name, each parameter value text rfl, told.value value consistent⟩
  | @unconvertible parameter value text slot part before after type fit _ _ _ =>
    have among : (slot, part) ∈ before ++ (slot, part) :: after :=
      List.mem_append_right _ List.mem_cons_self
    constructor
    · have source := told.value value consistent
      exact source.of_subset (value.slots_subset slot (ValueTemplate.capture_mem fit _ among))
    · have whole := each parameter value text rfl
      exact whole.of_subset (ValueTemplate.capture_subset fit _ among)

/-- What is wrong with a line of a sound switched command repeats texts of the template and of the
line. -/
theorem readSwitches_told (sound : template.Sound descriptor)
    (told : ∀ parameter ∈ template.parameters, parameter.Told)
    (each : ∀ token ∈ tokens, OneLine token) {fault : Fault}
    (failed : template.readSwitches descriptor tokens = .error fault) : fault.Told := by
  have verdict : template.Verdict descriptor tokens (some fault) :=
    (readSwitches_verdict sound tokens _).mpr (by rw [failed]; rfl)
  cases verdict with
  | faulty split leftmost =>
    obtain ⟨before, occurrence, after, rfl, _, faulty⟩ := leftmost
    have among : occurrence ∈ before ++ occurrence :: after :=
      List.mem_append_right _ List.mem_cons_self
    obtain ⟨consistent, declared⟩ := split.consistent occurrence among
    have parameterTold := told occurrence.parameter declared
    cases faulty with
    | duplicate => exact parameterTold.name
    | wrong _ wrong =>
      refine wrong_told consistent parameterTold (fun parameter value text same => ?_) wrong
      exact each text (split.mem_tokens.1 parameter value text (same ▸ among))
  | unknown split => exact each _ (split.mem_tokens.2 _ rfl)
  | missing split =>
    intro name member
    obtain ⟨parameter, among, rfl⟩ := List.mem_map.mp member
    exact (told parameter (List.mem_filter.mp among).1).name

end SwitchedTemplate

/-- What is wrong with a line of an accepted command repeats texts of the template and of the
line; and it is never a field that the binder does not know. -/
theorem Command.read?_told {γ σ : Type} {command : Command γ σ} {tokens : List String}
    {reserved : Bool} {declarations : List Declaration}
    (accepted : Validation.defect? reserved declarations = none)
    (member : command.declaration ∈ declarations) (told : command.template.Told)
    (each : ∀ token ∈ tokens, OneLine token) {fault : Fault}
    (failed : command.read? tokens = some (.error fault)) : fault.Told := by
  rcases read?_error accepted member failed with
    ⟨template, captures, slot, text, kind, written, found, among, rfl⟩ |
    ⟨template, switches, written, rfl, sound, refused⟩
  · rw [written] at told
    constructor
    · have slots := FixedTemplate.capture_mem found (slot, text) among
      exact OneLine.of_subset told (template.slots_subset slot slots)
    · exact each text (FixedTemplate.capture_tokens found (slot, text) among)
  · rw [written] at told
    exact SwitchedTemplate.readSwitches_told sound told.2
      (fun token among => each token (List.mem_append_right _ among)) refused

end Switchboard
