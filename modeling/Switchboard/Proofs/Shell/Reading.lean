import Switchboard.Proofs.Switches.Verdict
/-!
# How a command reads a line

Whether a line is one of a command is a question of its template alone (`Command.read?_none`). What
can be wrong with the values on such a line is a question of the descriptor, and for an accepted
command the answer is short: a value does not convert (`Command.read?_malformed`).
-/
namespace Switchboard

/-! ## Fitting a template -/

/-- A word of a fixed template takes a token: a keyword in any letter case, a slot any token. -/
def FixedWord.Takes : FixedWord → String → Prop
  | literal text, token => Text.lowerCase text = Text.lowerCase token
  | slot _, _ => True

/-- Tokens fit a template. Those of a fixed command are one for each word; those of a switched
command begin with its keywords, letter by letter. -/
def Template.Fits (tokens : List String) : Template → Prop
  | fixed template => List.Forall₂ FixedWord.Takes template.words tokens
  | switched template => template.keywords <+: tokens

namespace FixedTemplate

/-- The program matches the words of a template with the tokens that they take. -/
theorem matchWords_isSome {words : List FixedWord} {tokens : List String} :
    (matchWords words tokens).isSome ↔ List.Forall₂ FixedWord.Takes words tokens := by
  fun_induction matchWords words tokens with
  | case1 => simp
  | case2 text words token tokens same ih =>
    rw [ih, List.forall₂_cons]
    exact ⟨fun later => ⟨same, later⟩, And.right⟩
  | case3 text words token tokens differ =>
    rw [List.forall₂_cons]
    exact ⟨fun absent => absurd absent Bool.false_ne_true, fun both => absurd both.1 differ⟩
  | case4 name words token tokens ih =>
    rw [Option.isSome_map, ih, List.forall₂_cons]
    exact ⟨fun later => ⟨trivial, later⟩, And.right⟩
  | case5 words tokens neither literals slots =>
    refine ⟨fun absent => absurd absent Bool.false_ne_true, fun taken => ?_⟩
    cases taken with
    | nil => exact absurd rfl (neither rfl)
    | @cons word token words tokens _ _ =>
      cases word with
      | literal text => exact (literals text words token tokens rfl rfl).elim
      | slot name => exact (slots name words token tokens rfl rfl).elim

end FixedTemplate

namespace Command

variable {γ σ : Type} {command : Command γ σ} {tokens : List String}

/-- A command passes a line over exactly when the tokens do not fit its template. -/
theorem read?_none : command.read? tokens = none ↔ ¬ command.template.Fits tokens := by
  unfold read?
  cases command.template with
  | fixed template =>
    rw [Option.map_eq_none_iff, Template.Fits, ← FixedTemplate.matchWords_isSome,
      FixedTemplate.capture]
    simp
  | switched template => exact SwitchedTemplate.read?_none_iff

/-- A command reads every line whose tokens fit its template. -/
theorem read?_isSome : (command.read? tokens).isSome ↔ command.template.Fits tokens := by
  rw [Option.isSome_iff_ne_none, Ne, read?_none, not_not]

end Command

/-! ## Values that do not convert -/

/-- A value is not of the form that its field needs. -/
def BindError.IsConversion (error : BindError) : Prop :=
  ∃ field value expected, error = conversion field value expected

namespace FixedTemplate

variable {template : FixedTemplate} {descriptor : Descriptor} {captures : List (String × String)}

/-- The captures of a fixed template whose slots are scalar fields are converted and written. -/
theorem writeAll_outcome (declared : ∀ slot ∈ template.slots, descriptor.Declares .scalar slot)
    {tokens : List String} (found : template.capture tokens = some captures) :
    (Descriptor.writeAll descriptor.setScalar .empty captures).outcome =
      match captures.mapM descriptor.convert with
      | .ok values => .ok (Record.empty.setAll values)
      | .error error => .error (.malformed error) := by
  have writes : ∀ capture ∈ captures, descriptor.Writes descriptor.setScalar
      (fun record value => record.set value.1 value.2) capture.1 := by
    intro capture member
    exact Descriptor.setScalar_writes (declared capture.1 (capture_mem found capture member))
  exact Descriptor.writeAll_outcome writes .empty id

/-- A line of a fixed command whose slots are scalar fields fails only on a token that does not
convert. -/
theorem writeAll_error (declared : ∀ slot ∈ template.slots, descriptor.Declares .scalar slot)
    {tokens : List String} (found : template.capture tokens = some captures) {fault : Fault}
    (failed : (Descriptor.writeAll descriptor.setScalar .empty captures).outcome = .error fault) :
    ∃ slot text kind, (slot, text) ∈ captures ∧
      fault = .malformed (.conversion slot text kind) := by
  rw [writeAll_outcome declared found] at failed
  cases converted : captures.mapM descriptor.convert with
  | ok values => simp [converted] at failed
  | error refused =>
    simp only [converted, Except.error.injEq] at failed
    have typed : ∀ capture ∈ captures, ∃ type, descriptor.scalarType? capture.1 = some type := by
      intro capture member
      exact (declared capture.1 (capture_mem found capture member)).scalarType? (.inl rfl)
    obtain ⟨before, slot, text, after, type, rfl, _, _, _, rfl⟩ :=
      (Descriptor.mapM_convert_error_iff typed).mp converted
    exact ⟨slot, text, type.kind, List.mem_append_right _ List.mem_cons_self, failed.symm⟩

end FixedTemplate

namespace SwitchedTemplate

variable {template : SwitchedTemplate} {descriptor : Descriptor}

/-- A line of a sound switched command is malformed only by a value that does not convert. -/
theorem malformed_isConversion (sound : template.Sound descriptor) {tokens : List String}
    {error : BindError}
    (failed : template.readSwitches descriptor tokens = .error (.malformed error)) :
    error.IsConversion := by
  have verdict : template.Verdict descriptor tokens (some (.malformed error)) :=
    (readSwitches_verdict sound tokens _).mpr (by rw [failed]; rfl)
  cases verdict with
  | faulty _ leftmost =>
    obtain ⟨_, occurrence, _, _, _, faulty⟩ := leftmost
    cases faulty with
    | wrong _ wrong =>
      cases wrong with
      | unconvertible => exact ⟨_, _, _, rfl⟩

end SwitchedTemplate

namespace Command

variable {γ σ : Type} {command : Command γ σ} {tokens : List String} {reserved : Bool}
  {declarations : List Declaration}
  (accepted : Validation.defect? reserved declarations = none)
  (member : command.declaration ∈ declarations)

include accepted member

/-- How a line of an accepted command fails: on a token of a fixed command that does not convert, or
on the switches of a switched command. -/
theorem read?_error {fault : Fault} (failed : command.read? tokens = some (.error fault)) :
    (∃ template captures slot text kind, command.template = .fixed template ∧
      template.capture tokens = some captures ∧ (slot, text) ∈ captures ∧
      fault = .malformed (.conversion slot text kind)) ∨
    ∃ template switches, command.template = .switched template ∧
      tokens = template.keywords ++ switches ∧ template.Sound command.descriptor ∧
      template.readSwitches command.descriptor switches = .error fault := by
  unfold read? at failed
  unfold declaration at member
  cases kind : command.template with
  | fixed template =>
    rw [kind] at member
    simp only [kind, Option.map_eq_some_iff] at failed
    obtain ⟨captures, found, outcome⟩ := failed
    have declared := Validation.fixed_sound accepted member
    obtain ⟨slot, text, expected, among, same⟩ :=
      FixedTemplate.writeAll_error declared found outcome
    exact .inl ⟨template, captures, slot, text, expected, rfl, found, among, same⟩
  | switched template =>
    rw [kind] at member
    simp only [kind] at failed
    have leads : template.keywords <+: tokens := by
      by_contra differs
      rw [SwitchedTemplate.read?_none_iff.mpr differs] at failed
      contradiction
    obtain ⟨switches, rfl⟩ := leads
    rw [SwitchedTemplate.read?_append] at failed
    exact .inr ⟨template, switches, rfl, rfl, Validation.switched_sound accepted member,
      Option.some.inj failed⟩

/-- A line of an accepted command is malformed only by a value that does not convert. -/
theorem read?_malformed {error : BindError}
    (failed : command.read? tokens = some (.error (.malformed error))) : error.IsConversion := by
  rcases read?_error accepted member failed with
    ⟨_, _, slot, text, kind, _, _, _, same⟩ | ⟨template, switches, _, _, sound, refused⟩
  · exact ⟨slot, text, kind, Fault.malformed.inj same⟩
  · exact SwitchedTemplate.malformed_isConversion sound refused

end Command

end Switchboard
