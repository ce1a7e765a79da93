import Switchboard.Proofs.Record.Members
import Switchboard.Proofs.Shell.Soundness
/-!
# Records of a registry

Whatever a line says, a command reads its record by writes through its descriptor alone
(`Command.read?_reaches`). A descriptor that is made of declared fields keeps records conforming to
them; so every record that a listed command of a registry is handed conforms to its declaration, and
the object that it prints repeats no key (`Registry.records_conform`).
-/
namespace Switchboard

/-! ## Records are read by writes -/

namespace Descriptor

variable {descriptor : Descriptor} {start record : Record}

/-- A record that writes make of another. -/
def Reaches (descriptor : Descriptor) (start record : Record) : Prop :=
  ∃ writes, descriptor.performAll start writes = record

/-- Without a write a record is reached from itself. -/
theorem Reaches.refl (descriptor : Descriptor) (record : Record) :
    descriptor.Reaches record record := ⟨[], rfl⟩

/-- One more write reaches what it leaves behind. -/
theorem Reaches.perform (reached : descriptor.Reaches start record) (write : Write) :
    descriptor.Reaches start (descriptor.perform record write).record := by
  obtain ⟨writes, rfl⟩ := reached
  refine ⟨writes ++ [write], ?_⟩
  rw [performAll, List.foldl_concat]
  rfl

/-- Writing captures to scalar fields reaches what it leaves behind. -/
theorem Reaches.setAll (reached : descriptor.Reaches start record)
    (captures : List (String × String)) :
    descriptor.Reaches start (writeAll descriptor.setScalar record captures).record :=
  writeAll_keeps (descriptor.Reaches start)
    (fun _ field text reached => reached.perform (.set field text)) captures reached

/-- Appending captures to lists of scalars reaches what it leaves behind. -/
theorem Reaches.pushAll (reached : descriptor.Reaches start record)
    (captures : List (String × String)) :
    descriptor.Reaches start (writeAll descriptor.pushScalar record captures).record :=
  writeAll_keeps (descriptor.Reaches start)
    (fun _ field text reached => reached.perform (.push field text)) captures reached

end Descriptor

/-- A write that succeeds comes to the record that it leaves behind. -/
theorem Written.record_of_outcome {written : Written} {record : Record}
    (succeeded : written.outcome = .ok record) : written.record = record := by
  unfold outcome at succeeded
  cases error : written.error with
  | none =>
    rw [error] at succeeded
    exact Except.ok.inj succeeded
  | some error' =>
    rw [error] at succeeded
    cases succeeded

section Switches

variable {descriptor : Descriptor} {start record : Record}

/-- Writing the captures of one occurrence reaches what it leaves behind. -/
theorem Parameter.bind_reaches (parameter : Parameter) (reached : descriptor.Reaches start record)
    (captures : List (String × String)) :
    descriptor.Reaches start (parameter.bind descriptor record captures).record := by
  unfold bind
  cases parameter.composite with
  | some field => exact reached.perform (.nested field captures)
  | none =>
    by_cases repeats : parameter.repeatable = true
    · simp only [if_pos repeats]
      exact reached.pushAll captures
    · simp only [if_neg repeats]
      exact reached.setAll captures

/-- Writing what an occurrence says reaches the record that it comes to. -/
theorem Occurrence.write_reaches (occurrence : Occurrence)
    (reached : descriptor.Reaches start record) {later : Record}
    (written : occurrence.write descriptor record = .ok later) :
    descriptor.Reaches start later := by
  cases occurrence with
  | flag parameter field =>
    rw [← Written.record_of_outcome written]
    exact reached.perform (.flag field)
  | valued parameter template value =>
    simp only [write] at written
    cases captured : template.capture value with
    | none =>
      rw [captured] at written
      cases written
    | some captures =>
      rw [captured] at written
      rw [← Written.record_of_outcome written]
      exact parameter.bind_reaches reached captures

/-- Binding an occurrence reaches the record that it comes to. -/
theorem Occurrence.bind_reaches (occurrence : Occurrence) {progress later : Progress}
    (reached : descriptor.Reaches start progress.record)
    (bound : occurrence.bind descriptor progress = .ok later) :
    descriptor.Reaches start later.record := by
  unfold bind at bound
  by_cases again : (occurrence.mustBeOnly &&
      progress.seen.contains occurrence.parameter.name) = true
  · simp only [if_pos again] at bound
    cases bound
  · simp only [if_neg again] at bound
    cases written : occurrence.write descriptor progress.record with
    | error fault =>
      rw [written] at bound
      cases bound
    | ok record =>
      rw [written] at bound
      cases bound
      exact occurrence.write_reaches reached written

/-- Binding occurrences one after the other reaches the record that they come to. -/
theorem Occurrence.bindAll_reaches (occurrences : List Occurrence) {progress later : Progress}
    (reached : descriptor.Reaches start progress.record)
    (bound : occurrences.foldlM (Occurrence.bind descriptor) progress = .ok later) :
    descriptor.Reaches start later.record := by
  induction occurrences generalizing progress with
  | nil =>
    cases bound
    exact reached
  | cons occurrence rest ih =>
    rw [List.foldlM_cons] at bound
    cases first : occurrence.bind descriptor progress with
    | error fault =>
      rw [first] at bound
      cases bound
    | ok next =>
      rw [first] at bound
      exact ih (occurrence.bind_reaches reached first) bound

/-- A line of a switched command is read by writes. -/
theorem SwitchedTemplate.readSwitches_reaches {template : SwitchedTemplate} {tokens : List String}
    (read : template.readSwitches descriptor tokens = .ok record) :
    descriptor.Reaches .empty record := by
  simp only [readSwitches] at read
  cases bound : (template.occurrences tokens).1.foldlM (Occurrence.bind descriptor)
      ⟨[], .empty⟩ with
  | error fault =>
    rw [bound] at read
    cases read
  | ok progress =>
    rw [bound] at read
    have reached : descriptor.Reaches .empty progress.record :=
      Occurrence.bindAll_reaches _ (.refl descriptor .empty) bound
    change template.conclude (template.occurrences tokens).2 progress = .ok record at read
    unfold conclude at read
    cases unknown : (template.occurrences tokens).2 with
    | some token =>
      rw [unknown] at read
      cases read
    | none =>
      rw [unknown] at read
      cases missing : template.missing progress.seen with
      | cons name names =>
        simp only [missing] at read
        cases read
      | nil =>
        simp only [missing, Except.ok.injEq] at read
        rw [← read]
        exact reached

end Switches

/-- Whatever a command reads is made by writes through its descriptor, from the record without
fields. -/
theorem Command.read?_reaches {σ : Type} {command : Command γ σ} {tokens : List String}
    {record : Record} (read : command.read? tokens = some (.ok record)) :
    command.descriptor.Reaches .empty record := by
  unfold read? at read
  cases written : command.template with
  | fixed template =>
    simp only [written, Option.map_eq_some_iff] at read
    obtain ⟨captures, _, outcome⟩ := read
    rw [← Written.record_of_outcome outcome]
    exact (Descriptor.Reaches.refl _ _).setAll captures
  | switched template =>
    simp only [written] at read
    unfold SwitchedTemplate.read? at read
    obtain ⟨_, read⟩ := Option.ite_none_right_eq_some.mp read
    exact SwitchedTemplate.readSwitches_reaches (Option.some.inj read)

/-! ## The commands of a registry -/

namespace Sample

/-- The fields of the command that starts a container. -/
def runFields : List (String × FieldSpec) := [
  ("Name", .scalar .text),
  ("Detached", .scalar .bool),
  ("Ports", .scalarList .uint),
  ("Image", .composite [("Name", .scalar .text), ("Tag", .scalar .text)]),
  ("Env", .compositeList [("Name", .scalar .text), ("Value", .scalar .text)])]

/-- A registry with a switched and a fixed command, a generated help and an exit command. -/
def registry : Registry where
  help := true
  exitCommand := some "exit"
  commands := [
    .switched "docker run" none runFields [
      { name := "--name", required := true, value := some "[[Name]]" },
      { name := "--detach", shorthand := some "-d", flag := some "Detached" },
      { name := "--port", repeatable := true, value := some "[[Ports]]" },
      { name := "--image", composite := some "Image", value := some "[[Name]]:[[Tag]]" },
      { name := "--env", shorthand := some "-e", repeatable := true, composite := some "Env",
        value := some "[[Name]]=[[Value]]" }],
    .fixed "wait [[Seconds]]" (some "Waits") [("Seconds", .scalar .float)]]

/-- The registry makes a shell. -/
theorem registry_builds : ∃ registration shell, registry.registration .off = .ok registration ∧
    registration.build = .ok shell := by
  have sound : (match registry.registration .off with
      | .ok registration => registration.defect?.isNone
      | .error _ => false) = true := by decide +kernel
  cases registered : registry.registration .off with
  | error ambiguous =>
    rw [registered] at sound
    cases sound
  | ok registration =>
    rw [registered] at sound
    exact ⟨registration, _, rfl,
      Registration.build_ok_iff.mpr ⟨Option.isNone_iff_eq_none.mp sound, rfl⟩⟩

/-- What the shell of the registry makes of something is found out from the commands alone: they
need not be validated once more. -/
theorem registry_evaluated {α : Type} (evaluate : Shell Unit Unit → α) (value : α)
    (evaluated : ((registry.registration .off).toOption.map fun registration =>
      evaluate ⟨registration.commands, registration.help ≠ .off,
        if registration.help = .generated then some registration.helpText else none⟩) =
      some value) :
    ∃ registration shell, registry.registration .off = .ok registration ∧
      registration.build = .ok shell ∧ evaluate shell = value := by
  obtain ⟨registration, shell, registered, built⟩ := registry_builds
  rw [registered] at evaluated
  refine ⟨registration, shell, registered, built, ?_⟩
  rw [(Registration.build_ok_iff.mp built).2]
  exact Option.some.inj evaluated

end Sample

/-- The fields of a command of a registry. -/
def CommandSpec.fields : CommandSpec → List (String × FieldSpec)
  | fixed _ _ fields => fields
  | switched _ _ fields _ => fields

/-- A command of a registry is bound to its fields, and prints its records. -/
theorem CommandSpec.command_eq {spec : CommandSpec} {command : Command Unit Unit}
    (made : spec.command = .ok command) :
    command.descriptor = FieldSpec.descriptor spec.title spec.fields ∧
      command.handler = printHandler spec.title := by
  cases spec with
  | fixed template description fields =>
    cases made
    exact ⟨rfl, rfl⟩
  | switched name description fields parameters =>
    simp only [CommandSpec.command] at made
    cases read : parameters.mapM (ParameterSpec.parameter name) with
    | error ambiguous =>
      rw [read] at made
      cases made
    | ok parameters =>
      rw [read] at made
      cases made
      exact ⟨rfl, rfl⟩

namespace Registry

variable {registry : Registry} {help : HelpSupport} {registration : Registration Unit Unit}

/-- The commands of a registry are those that it lists, and then the exit command. -/
theorem registration_commands (registered : registry.registration help = .ok registration) :
    ∃ commands, List.Forall₂ (fun spec command => CommandSpec.command spec = .ok command)
        registry.commands commands ∧
      registration.commands = commands ++ (registry.exitCommand.map exitCommandOf).toList := by
  unfold Registry.registration at registered
  cases made : registry.commands.mapM CommandSpec.command with
  | error ambiguous =>
    rw [made] at registered
    cases registered
  | ok commands =>
    rw [made] at registered
    cases registered
    exact ⟨commands, mapM_ok_iff.mp made, rfl⟩

/-- A command of a registry is made by its declaration at the same place, or it is the exit command
after all of these. -/
theorem command_cases (registered : registry.registration help = .ok registration) {place : Nat}
    {command : Command Unit Unit} (stands : registration.commands[place]? = some command) :
    (∃ spec, registry.commands[place]? = some spec ∧ spec.command = .ok command) ∨
      (place = registry.commands.length ∧
        ∃ template, registry.exitCommand = some template ∧ command = exitCommandOf template) := by
  obtain ⟨commands, made, same⟩ := registration_commands registered
  have length : registry.commands.length = commands.length := made.length_eq
  rw [same] at stands
  by_cases within : place < commands.length
  · have inside : place < registry.commands.length := length.symm ▸ within
    rw [List.getElem?_append_left within, List.getElem?_eq_getElem within,
      Option.some.injEq] at stands
    have pair := (List.forall₂_iff_get.mp made).2 place inside within
    refine .inl ⟨registry.commands[place], List.getElem?_eq_getElem inside, ?_⟩
    rw [← stands]
    exact pair
  · rw [List.getElem?_append_right (Nat.le_of_not_lt within)] at stands
    cases exit : registry.exitCommand with
    | none =>
      rw [exit] at stands
      cases stands
    | some template =>
      rw [exit] at stands
      obtain ⟨least, last⟩ := List.getElem?_eq_some_iff.mp stands
      change place - commands.length < 1 at least
      have first : place - commands.length = 0 := by omega
      simp only [first] at last
      exact .inr ⟨by omega, template, rfl, last.symm⟩

/-- Records conform to their declaration. Any writes through the descriptor of some fields, failing
ones among them, make a record that conforms to the fields, and whose groups have no key in common
at any level. So on every line of a shell that a registry makes, the record that a listed command is
handed conforms to the fields of the command, and what the output takes is of the text of an object
in which no key is repeated. -/
theorem records_conform {κ : Type} [Writer κ] :
    (∀ typeName fields writes,
      let record := (FieldSpec.descriptor typeName fields).performAll .empty writes
      record.Conforms fields ∧ record.Everywhere fun level => level.keys.Nodup) ∧
    ∀ (registry : Registry) help registration shell,
      registry.registration help = .ok registration → registration.build = .ok shell →
      ∀ line (session : Session κ Unit Unit), let step := shell.processLine line session
      ∀ dispatch ∈ step.trace.dispatches, ∀ spec,
      registry.commands[dispatch.command]? = some spec →
        dispatch.record.Conforms spec.fields ∧
        (dispatch.record.dispatchTree spec.title).Distinct ∧
        step.trace.output = (Writer.offerLine session.output
          (dispatch.record.dispatchTree spec.title).written).taken := by
  refine ⟨fun typeName fields writes => ?_, ?_⟩
  · have conforms := (Record.conforms_empty fields).performAll typeName writes
    exact ⟨conforms, conforms.keys_nodup⟩
  · intro registry help registration shell registered built line session step dispatch handed spec
      listed
    obtain ⟨command, stands, read, output⟩ := (shell.processLine_case line session).handed handed
    rw [(Registration.build_accepted built).2] at stands
    have made : spec.command = .ok command := by
      rcases command_cases registered stands with ⟨spec', listed', made⟩ | ⟨last, _⟩
      · rw [listed, Option.some.injEq] at listed'
        exact listed' ▸ made
      · rw [last, List.getElem?_length] at listed
        cases listed
    obtain ⟨descriptor, handler⟩ := CommandSpec.command_eq made
    have conforms : dispatch.record.Conforms spec.fields := by
      obtain ⟨writes, reached⟩ := Command.read?_reaches read
      rw [← reached, descriptor]
      exact (Record.conforms_empty spec.fields).performAll spec.title writes
    refine ⟨conforms, conforms.dispatchTree_distinct spec.title, ?_⟩
    rw [output, Session.performance, handler, printHandler, Reaction.writeLine_written,
      Record.dispatchLine_eq]
    rfl

/-- A line with fields of all four groups, and an element of a list with two values of its own. -/
theorem records_conform_run : ∃ registration shell record,
    Sample.registry.registration .off = .ok registration ∧ registration.build = .ok shell ∧
      let step := shell.processLine
        "docker run --name web -d --port 80 --port 443 --image nginx:1.25 -e HOME=/root"
        (shell.session () Sink.unlimited none ⟨[], false⟩)
      step.trace.dispatches = [⟨0, record⟩] ∧ record.Conforms Sample.runFields ∧
        (record.dispatchTree "docker run").Distinct ∧ step.trace.output =
          Text.bytesOf ((record.dispatchTree "docker run").written ++ "\n") := by
  let line := "docker run --name web -d --port 80 --port 443 --image nginx:1.25 -e HOME=/root"
  let dispatched := fun shell : Shell Unit Unit =>
    (shell.processLine line (shell.session () Sink.unlimited none ⟨[], false⟩)).trace.dispatches
  obtain ⟨registration, shell, registered, built, evaluated⟩ := Sample.registry_evaluated
    (fun shell => (dispatched shell).map Dispatch.command) [0] (by decide +kernel)
  obtain ⟨⟨place, record⟩, dispatched, first⟩ := List.map_eq_singleton_iff.mp evaluated
  cases first
  obtain ⟨conforms, distinct, output⟩ := records_conform.2 Sample.registry .off registration shell
    registered built line _ ⟨0, record⟩ (dispatched ▸ List.mem_singleton_self _) _ rfl
  have accepts : Writer.Accepts Sink.unlimited := Sink.accepts_iff.mpr rfl
  refine ⟨registration, shell, record, registered, built, dispatched, conforms, distinct, ?_⟩
  exact output.trans (congrArg Delivery.taken (accepts.offerLine _))

end Registry

end Switchboard
