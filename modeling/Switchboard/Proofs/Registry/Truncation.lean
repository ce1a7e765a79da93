import Switchboard.Proofs.Registry.Records
import Switchboard.Proofs.Shell.Truncation
/-!
# Registries on sinks that run full

The commands of a registry write one line or nothing, so on sinks with limits each line of a session
comes to one of five things (`Step.Truncated`). From these it is told what a run comes to: its
output is a beginning of what it would be without limits, a refused reply or entry ends the run, and
a refused line of a handler is a failure of the handler that does not end the run
(`Registry.run_truncated`).
-/
namespace Switchboard

variable {γ σ : Type}

/-- What a run comes to on some sinks, told by what it comes to on sinks that accept all writes. -/
structure Shell.Truncates (shell : Shell γ σ) (session : Session Sink γ σ)
    (visits : List (Visit Sink γ σ)) (step whole : Step Sink γ σ Unit) : Prop where
  /-- The run processes the lines. -/
  runs : shell.Runs session visits step
  /-- The output is a beginning of what it is where all is accepted. -/
  begins : step.trace.output <+: whole.trace.output
  /-- The output is taken from the room of its sink. -/
  spends : session.output.Spends step.session.output step.trace.output
  /-- Each line comes to what it comes to where all is accepted, or what is refused decides. -/
  lines : ∀ visit ∈ visits, Step.Truncated visit.before.output visit.before.diagnostics visit.line
    (shell.processLine visit.line visit.before.opened) visit.step
  /-- With a line that is interrupted, the run ends, interrupted for the same cause. -/
  ends : ∀ earlier visit later interruption, visits = earlier ++ visit :: later →
    visit.step.result = .error interruption → later = [] ∧ step.result = .error interruption
  /-- After a line that has an outcome, the run goes on as it would begin in the session that the
  line leaves. -/
  goesOn : ∀ earlier visit later outcome, visits = earlier ++ visit :: later →
    visit.step.result = .ok outcome →
      shell.Runs visit.step.session later (shell.run visit.step.session) ∧
        step.result = (shell.run visit.step.session).result

namespace Registry

variable {registry : Registry} {help : HelpSupport} {registration : Registration Unit Unit}
  {shell : Shell Unit Unit}

/-- A command of a registry writes one line, or it cancels the session. -/
theorem dispatch_truncated (registered : registry.registration help = .ok registration)
    {place : Nat} {command : Command Unit Unit}
    (stands : registration.commands[place]? = some command) (session : Session Sink Unit Unit)
    (line : String) (record : Record) :
    Step.Truncated session.output session.diagnostics line
      (session.opened.dispatch line place command record)
      (session.dispatch line place command record) := by
  rw [Session.dispatch_eq, Session.dispatch_eq]
  rcases command_cases registered stands with ⟨spec, _, made⟩ | ⟨_, template, _, rfl⟩
  · let state := (session.common, session.states[place]?.getD command.start)
    simp only [Session.performance, (CommandSpec.command_eq made).2, printHandler,
      Reaction.writeLine_state]
    exact (session.leave place state).conclude_truncated line [⟨place, record⟩] state
      (dispatchLine spec.title record)
  · rw [Session.conclude_done rfl, Session.conclude_done rfl]
    exact .untouched rfl rfl session.output.takes_nil fun sink _ => sink.takes_nil

/-- Of what a line sends and notes where all is accepted, all is taken, or what is refused decides
what it comes to. -/
theorem line_truncated (registered : registry.registration help = .ok registration)
    (built : registration.build = .ok shell) (line : String) (session : Session Sink Unit Unit) :
    Step.Truncated session.output session.diagnostics line (shell.processLine line session.opened)
      (shell.processLine line session) := by
  rcases shell.dispatches_or_truncated line session with
    ⟨place, command, record, stands, whole, handed⟩ | truncated
  · rw [(Registration.build_accepted built).2] at stands
    rw [whole, handed]
    exact dispatch_truncated registered stands session line record
  · exact truncated

/-- Sinks with limits only truncate: of the shell of a registry, in any session, on any input and
whatever room the sinks have, the output of a run is a beginning of what it is on sinks that accept
all writes. A reply or an entry that is refused ends the run, and what a handler writes and is
refused makes the handler fail and does not. -/
theorem run_truncated (registered : registry.registration help = .ok registration)
    (built : registration.build = .ok shell) (session : Session Sink Unit Unit) :
    ∃ visits, shell.Truncates session visits (shell.run session) (shell.run session.opened) := by
  obtain ⟨visits, ran⟩ := shell.runs_run session
  refine ⟨visits, ran, ran.begins, ran.spends, ?lines, ?ends, ?goesOn⟩
  case lines =>
    intro visit member
    obtain ⟨earlier, later, split⟩ := List.append_of_mem member
    rw [(ran.at_visit split).1]
    exact line_truncated registered built visit.line visit.before
  case ends =>
    intro earlier visit later interruption split failed
    exact (ran.at_visit split).2.1 interruption failed
  case goesOn =>
    intro earlier visit later outcome split finished
    exact (ran.at_visit split).2.2 outcome finished

/-- An output that runs full in the second line of a handler, before a reply that is refused and a
line that is left unread. -/
theorem run_truncated_full : ∃ registration shell visits, ∃ step : Step Sink Unit Unit Unit,
    Sample.registry.registration .off = .ok registration ∧ registration.build = .ok shell ∧
      let session := shell.session () (⟨some 60, "full"⟩ : Sink) (some ⟨some 200, "full"⟩)
        (.ofBytes (Text.bytesOf "wait 1\nwait 2\n?\nwait 3\n") false)
      step = shell.run session ∧
        shell.Truncates session visits step (shell.run session.opened) ∧
        step.result = .error ⟨"full"⟩ ∧ step.trace.output.length = 60 ∧
        step.trace.dispatches.map Dispatch.command = [1, 1] ∧
        step.trace.diagnostics = Text.bytesOf
          "Unexpected error during command processing: wait 2. Error: full\n" := by
  let input := Input.ofBytes (Text.bytesOf "wait 1\nwait 2\n?\nwait 3\n") false
  let start := fun shell : Shell Unit Unit =>
    shell.session () (⟨some 60, "full"⟩ : Sink) (some ⟨some 200, "full"⟩) input
  let noted := Text.bytesOf "Unexpected error during command processing: wait 2. Error: full\n"
  obtain ⟨registration, shell, registered, built, evaluated⟩ := Sample.registry_evaluated
    (fun shell =>
      let step := shell.run (start shell)
      (step.result, step.trace.output.length, step.trace.dispatches.map Dispatch.command,
        step.trace.diagnostics))
    (.error ⟨"full"⟩, 60, [1, 1], noted) (by decide +kernel)
  obtain ⟨result, length, dispatched, diagnostics⟩ := by
    simpa only [Prod.mk.injEq] using evaluated
  obtain ⟨visits, truncates⟩ := run_truncated registered built (start shell)
  exact ⟨registration, shell, visits, shell.run (start shell), registered, built, rfl, truncates,
    result, length, dispatched, diagnostics⟩

end Registry

end Switchboard
