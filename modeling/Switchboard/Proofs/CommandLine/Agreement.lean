import Switchboard.CommandLine.Report
import Switchboard.Proofs.Shell.Runs
/-!
# What check, help and run say of a registry

All three invocations load the registry and build its shell, so they accept the same registries: on
empty input, either none of them fails or all do (`Invocation.reports_agree`). Check and run fail
with the same failure. The help builds its shell from the registered commands, so a defect of these
is a failure of its own there (`Failure.bare`), which is told without the words that it makes the
registry invalid.
-/
namespace Switchboard

/-! ## Failures -/

namespace Failure

/-- The failure as the help tells it: a defect is one of the commands and not of the registry. -/
def bare : Failure → Failure
  | registry defect => commands defect
  | failure => failure

/-- The text of a defect of a registry. -/
theorem errorText_registry (defect : Defect) :
    (registry defect).errorText = "error: invalid registry: " ++ defect.message ++ "\n" := by
  have joined : "error: invalid registry: " ++ defect.message =
      "error: " ++ ("invalid registry: " ++ defect.message) := by
    rw [← String.append_assoc]
    rfl
  rw [joined]
  rfl

/-- The text of a defect of commands. -/
theorem errorText_commands (defect : Defect) :
    (commands defect).errorText = "error: " ++ defect.message ++ "\n" := rfl

/-- The help tells a failure in the same words exactly if it is no defect. -/
theorem errorText_bare_iff (failure : Failure) :
    failure.bare.errorText = failure.errorText ↔ ∀ defect, failure ≠ registry defect := by
  cases failure with
  | registry defect =>
    constructor
    · intro same
      -- The longer text has the words that the shorter one lacks.
      have lengths := congrArg String.length same
      rw [bare, errorText_registry, errorText_commands] at lengths
      simp only [String.length_append] at lengths
      have words : "error: invalid registry: ".length = "error: ".length + 18 := rfl
      omega
    · intro other
      exact absurd rfl (other defect)
  | load | log | parameter | commands | interrupted =>
    exact ⟨fun _ _ never => (by cases never), fun _ => rfl⟩

end Failure

/-! ## Reports -/

namespace Registry

/-- The help on a registry fails as its check does, and tells the failure barely. -/
theorem helpPage_failure (registry : Registry) :
    (Report.ofText registry.helpPage).failure =
      (Report.ofText registry.checkText).failure.map Failure.bare := by
  cases registered : registry.registration .off with
  | error ambiguous =>
    simp [helpPage, checkText, shell, register, registered, bind, Except.bind, Report.ofText,
      Failure.bare]
  | ok registration =>
    cases built : registration.build with
    | error defect =>
      simp [helpPage, checkText, shell, register, registered, built, bind, Except.bind,
        Report.ofText, Failure.bare]
    | ok shell =>
      simp [helpPage, checkText, Registry.shell, register, registered, built, bind, Except.bind,
        Report.ofText, pure, Except.pure]

/-- On empty input a run of a registry fails as its check does. -/
theorem runSession_failure (registry : Registry) :
    (Invocation.runSession registry none (.ofBytes [] false)).failure =
      (Report.ofText registry.checkText).failure := by
  cases built : registry.shell with
  | error failure =>
    simp [Invocation.runSession, session, checkText, built, bind, Except.bind, Report.ofText]
  | ok shell =>
    have ended : (shell.run (shell.session () Sink.unlimited none
        (.ofBytes [] false))).result = .ok () := by
      rw [Shell.run]
      exact congrArg Step.result (Shell.runLines_nil rfl)
    simp [Invocation.runSession, session, checkText, built, bind, Except.bind, Report.ofText,
      Report.ofStep, ended, pure, Except.pure]

end Registry

namespace Invocation

variable {surroundings : Surroundings}

/-- The help on a registry file fails as its check does, and tells the failure barely. -/
theorem help_failure (surroundings : Surroundings) (path : String) :
    (report surroundings (.help path)).failure =
      (report surroundings (.check path)).failure.map Failure.bare := by
  unfold report
  cases loaded : Registry.ofFile (surroundings.read path) with
  | error cause => simp [load, Invocation.registry, loaded, Except.mapError, Failure.bare]
  | ok registry =>
    simp only [load, Invocation.registry, loaded, Except.mapError]
    exact registry.helpPage_failure

/-- On empty input a run of a registry file without an error log fails as its check does. -/
theorem run_failure (silent : surroundings.input = .ofBytes [] false) (path : String) :
    (report surroundings (.run path none)).failure =
      (report surroundings (.check path)).failure := by
  unfold report
  cases loaded : Registry.ofFile (surroundings.read path) with
  | error cause => simp [load, Invocation.registry, loaded, Except.mapError]
  | ok registry =>
    simp only [load, Invocation.registry, loaded, Except.mapError, silent]
    exact registry.runSession_failure

/-- What the three invocations come to on a registry that none of them refuses. -/
structure Accept (check help run : Report) : Prop where
  /-- Each ends with the code of success. -/
  codes : check.code = 0 ∧ help.code = 0 ∧ run.code = 0

/-- What the three invocations come to on a registry that all of them refuse. -/
structure Refuse (check help run : Report) : Prop where
  /-- Each ends with the code of failure. -/
  codes : check.code = 1 ∧ help.code = 1 ∧ run.code = 1
  /-- The run prints the same as the check. -/
  run_text : run.errorText = check.errorText
  /-- The help prints the same as the check, except of a defect of the commands. -/
  help_text : help.errorText = check.errorText ↔ ∀ defect, check.failure ≠ some (.registry defect)
  /-- Of a defect of the commands, only the help does not say that it makes the registry invalid. -/
  defect_text : ∀ defect, check.failure = some (.registry defect) →
    check.errorText = "error: invalid registry: " ++ defect.message ++ "\n" ∧
      help.errorText = "error: " ++ defect.message ++ "\n"

/-- Reports that fail alike but for the bare failure of the help accept or refuse together. -/
theorem accept_or_refuse {check help run : Report}
    (helped : help.failure = check.failure.map Failure.bare) (ran : run.failure = check.failure) :
    Accept check help run ∨ Refuse check help run := by
  cases checked : check.failure with
  | none =>
    rw [checked] at helped ran
    exact .inl ⟨by simp [Report.code, checked, helped, ran]⟩
  | some failure =>
    rw [checked] at helped ran
    have check_text : check.errorText = failure.errorText := by simp [Report.errorText, checked]
    have help_text : help.errorText = failure.bare.errorText := by simp [Report.errorText, helped]
    exact .inr {
      codes := by simp [Report.code, checked, helped, ran]
      run_text := by simp [Report.errorText, checked, ran]
      help_text := by
        rw [check_text, help_text, failure.errorText_bare_iff, checked]
        simp
      defect_text := by
        intro defect found
        obtain rfl : failure = .registry defect := Option.some.inj (checked.symm.trans found)
        exact ⟨check_text.trans (Failure.errorText_registry defect), help_text⟩ }

/-- On empty input and without an error log, check, help and run either all end with code 0 or all
end with code 1 on a registry file, whatever is in the file. In the latter case the run prints the
same as the check, and so does the help, unless the commands of the registry have a defect. -/
theorem reports_agree (surroundings : Surroundings) (path : String)
    (silent : surroundings.input = .ofBytes [] false) :
    let check := report surroundings (.check path)
    let help := report surroundings (.help path)
    let run := report surroundings (.run path none)
    Accept check help run ∨ Refuse check help run :=
  accept_or_refuse (help_failure surroundings path) (run_failure silent path)

end Invocation

namespace Sample

/-- Surroundings in which every file holds a registry of two commands of the same template. -/
def twiceStopped : Surroundings where
  read _ := .ok {
    document := some (Document.ofEntries [("commands", .ofItems [
      .ofEntries [("template", .text "stop")], .ofEntries [("template", .text "stop")]])])
    complaint := "" }
  openLog _ := .error "Permission denied (os error 13)"
  input := .ofBytes [] false

/-- All three invocations refuse the registry of twice the same template. -/
theorem reports_agree_twiceStopped :
    twiceStopped.input = .ofBytes [] false ∧
      Invocation.Refuse (Invocation.report twiceStopped (.check "registry.yaml"))
        (Invocation.report twiceStopped (.help "registry.yaml"))
        (Invocation.report twiceStopped (.run "registry.yaml" none)) := by
  have failed : (Invocation.report twiceStopped (.check "registry.yaml")).code ≠ 0 := by
    decide +kernel
  obtain accepted | refused := Invocation.reports_agree twiceStopped "registry.yaml" rfl
  · exact absurd accepted.codes.1 failed
  · exact ⟨rfl, refused⟩

/-- Of twice the same template, the help prints another error than the check and the run. -/
theorem twiceStopped_told_apart :
    let check := Invocation.report twiceStopped (.check "registry.yaml")
    let help := Invocation.report twiceStopped (.help "registry.yaml")
    let run := Invocation.report twiceStopped (.run "registry.yaml" none)
    check.code = 1 ∧ help.code = 1 ∧ run.code = 1 ∧
      check.errorText = "error: invalid registry: duplicate input template: stop\n" ∧
      run.errorText = check.errorText ∧
      help.errorText = "error: duplicate input template: stop\n" ∧
      help.errorText ≠ check.errorText := by
  decide +kernel

end Sample

end Switchboard
