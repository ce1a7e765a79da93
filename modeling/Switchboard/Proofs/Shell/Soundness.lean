import Switchboard.Proofs.Shell.Processing
/-!
# What registration rules out

A field that the binder does not know is an error of its own, with a reply of its own. On a shell
that was built neither can occur: a line is malformed only by a value that does not convert, and
what the shell sends by itself does not even begin like that reply (`build_sound`).
-/
namespace Switchboard

variable {κ γ σ : Type} [Writer κ]

/-! ## What a step adds -/

namespace Session

/-- Noting a failure sends nothing and hands no record on. -/
theorem note_trace (session : Session κ γ σ) (entry : String) :
    (session.note entry).trace.output = [] ∧ (session.note entry).trace.dispatches = [] := by
  unfold note
  cases session.diagnostics with
  | none => exact ⟨rfl, rfl⟩
  | some sink => exact ⟨rfl, rfl⟩

/-- A reply comes to its outcome, unless it is interrupted. -/
theorem reply_result {session : Session κ γ σ} {text : String} {outcome found : LineOutcome}
    (result : (session.reply text outcome).result = .ok found) : found = outcome := by
  unfold reply Delivery.result at result
  cases refusal : (Writer.sendLine session.output text).refusal with
  | none =>
    simp only [refusal, Except.ok.injEq] at result
    exact result.symm
  | some cause => simp [refusal] at result

/-- A failure is noted and answered: no record is handed on, and what is sent is a beginning of the
answer. -/
theorem answer_trace (session : Session κ γ σ) (entry text : String) (outcome : LineOutcome) :
    let step := (session.note entry).andThen fun noted => noted.reply text outcome
    step.trace.dispatches = [] ∧ step.trace.output <+: Text.bytesOf (text ++ "\n") ∧
      ∀ found, step.result = .ok found → found = outcome := by
  obtain ⟨silent, idle⟩ := note_trace session entry
  unfold Step.andThen
  cases (session.note entry).result with
  | error interruption =>
    refine ⟨idle, ?_, fun found result => by contradiction⟩
    change (session.note entry).trace.output <+: _
    rw [silent]
    exact List.nil_prefix
  | ok done =>
    refine ⟨?_, ?_, fun found result => reply_result result⟩
    · change (session.note entry).trace.dispatches ++ [] = []
      rw [idle]
      rfl
    · change (session.note entry).trace.output ++ _ <+: _
      rw [silent]
      exact Writer.sendLine_begins _ _

/-- After a handler, what it wrote is all that is sent, and the line is not malformed. -/
theorem conclude_trace {τ : Type} (session : Session κ γ σ) (line : String)
    (dispatches : List Dispatch) (performance : Performance κ τ) :
    let step := session.conclude line dispatches performance
    step.trace.output = performance.written ∧ step.trace.dispatches = dispatches ∧
      ∀ error, step.result ≠ .ok (.malformed error) := by
  cases failed : performance.verdict.detail? with
  | none =>
    rw [conclude_done failed]
    exact ⟨rfl, rfl, fun error result => by cases result⟩
  | some detail =>
    obtain ⟨silent, idle⟩ :=
      note_trace (session.takeOver performance.console) (unexpectedEntry line detail)
    rw [conclude_failed failed]
    refine ⟨?_, ?_, fun error result => ?_⟩
    · change performance.written ++ _ = _
      rw [silent, List.append_nil]
    · change dispatches ++ _ = _
      rw [idle, List.append_nil]
    · change Except.map _ _ = _ at result
      cases noted : ((session.takeOver performance.console).note
        (unexpectedEntry line detail)).result with
      | ok done => simp [noted, Except.map] at result
      | error interruption => simp [noted, Except.map] at result

end Session

/-- A record that a line hands on is what its command reads in the tokens of this line, and what the
line sends is what the handler of the command writes. -/
theorem LineCase.handed {shell : Shell γ σ} {line : String} {session : Session κ γ σ}
    {step : Step κ γ σ LineOutcome} (done : LineCase shell line session step) {dispatch : Dispatch}
    (member : dispatch ∈ step.trace.dispatches) : ∃ command,
      shell.commands[dispatch.command]? = some command ∧
        command.read? (Line.tokens line) = some (.ok dispatch.record) ∧
        step.trace.output =
          (session.performance dispatch.command command dispatch.record).written := by
  cases done with
  | skipped | notFound => cases member
  | @dispatched place command record _ stands _ read =>
    rw [Session.dispatch_eq] at member ⊢
    obtain ⟨output, dispatches, _⟩ := Session.conclude_trace
      (session.leave place (session.performance place command record).state) line
      [⟨place, record⟩] (session.performance place command record)
    rw [dispatches] at member
    cases List.mem_singleton.mp member
    exact ⟨command, stands, read, output⟩
  | @rejected _ command rejection _ _ _ _ =>
    rw [(session.answer_trace (rejection.entry line) (rejection.reply command.template.heading)
      (.rejected rejection)).1] at member
    cases member
  | @malformed _ _ error _ _ _ _ =>
    rw [(session.answer_trace (error.entry line) error.reply (.malformed error)).1] at member
    cases member
  | @helped text _ _ _ =>
    rw [(session.conclude_trace line []
      ((Reaction.writeLine () text .done).perform session.console)).2.1] at member
    cases member

/-! ## What the shell says by itself -/

/-- The texts that a shell sends by itself: answers and the generated help. -/
inductive Shell.OwnText (shell : Shell γ σ) : String → Prop where
  | rejection (rejection : Rejection) (heading : String) : OwnText shell (rejection.reply heading)
  | format : OwnText shell "Incorrect command format."
  | notFound : OwnText shell (notFoundReply shell.hint)
  | help (entries : List HelpEntry) (generated : shell.help = some (helpText entries)) :
      OwnText shell (helpText entries)

/-- The first byte of a text is the first of its first character. -/
theorem Text.head?_bytesOf (text : String) : (bytesOf text).head? =
    text.toList.head?.bind fun first => (String.utf8EncodeChar first).head? := by
  unfold bytesOf
  cases text.toList with
  | nil => rfl
  | cons first rest =>
    rw [List.flatMap_cons, List.head?_append_of_ne_nil _ String.utf8EncodeChar_ne_nil]
    rfl

/-- A text begins like its first part. -/
theorem Text.head?_append {first : String} {character : Char}
    (begins : first.toList.head? = some character) (rest : String) :
    (first ++ rest).toList.head? = some character := by
  rw [String.toList_append, List.head?_append, begins]
  rfl

/-- The help on any commands begins with a line break, unless it is empty. -/
theorem helpText_head? (entries : List HelpEntry) :
    (helpText entries ++ "\n").toList.head? = some '\n' := by
  unfold helpText
  cases entries with
  | nil => rfl
  | cons entry rest =>
    simp only [List.map_cons, String.join_cons, HelpText.block, String.append_assoc]
    exact Text.head?_append (by decide) _

/-- The answer to a rejection begins with a word of its own. -/
theorem Rejection.reply_head? (rejection : Rejection) (heading : String) :
    ∃ first ∈ ['P', 'F', 'M', 'V'],
      (rejection.reply heading ++ "\n").toList.head? = some first := by
  cases rejection with
  | unknownParameter name =>
    refine ⟨'P', by decide, Text.head?_append ?_ _⟩
    change ("Parameter " ++ name ++ " is unknown for command " ++ heading ++ ".").toList.head? = _
    simp only [String.append_assoc]
    exact Text.head?_append (by decide) _
  | duplicateParameter name =>
    refine ⟨'F', by decide, Text.head?_append ?_ _⟩
    change ("Found duplicated parameter " ++ name ++ " for command " ++ heading ++ "."
      ).toList.head? = _
    simp only [String.append_assoc]
    exact Text.head?_append (by decide) _
  | missingRequired names =>
    refine ⟨'M', by decide, Text.head?_append (Text.head?_append (Text.head?_append ?_ _) _) _⟩
    decide
  | malformedValue parameter value template =>
    refine ⟨'V', by decide, Text.head?_append (Text.head?_append ?_ _) _⟩
    change ("Value " ++ value ++ " does not match template " ++ template ++ " of parameter " ++
      parameter ++ " ").toList.head? = _
    simp only [String.append_assoc]
    exact Text.head?_append (by decide) _

/-- A text of the shell itself begins with none of the letters of an error. -/
theorem Shell.OwnText.head? {shell : Shell γ σ} {text : String} (own : shell.OwnText text) :
    ∃ first ∈ ['P', 'F', 'M', 'V', 'I', 'C', '\n'], (text ++ "\n").toList.head? = some first := by
  cases own with
  | rejection rejection heading =>
    obtain ⟨first, member, begins⟩ := rejection.reply_head? heading
    exact ⟨first, List.mem_append_left ['I', 'C', '\n'] member, begins⟩
  | format => exact ⟨'I', by decide, Text.head?_append (by decide) _⟩
  | notFound =>
    exact ⟨'C', by decide, Text.head?_append (Text.head?_append (by decide) _) _⟩
  | help entries => exact ⟨'\n', by decide, helpText_head? entries⟩

/-- Nothing begins both a text of the shell itself and the answer to an unknown field. -/
theorem Shell.OwnText.apart {shell : Shell γ σ} {text : String} (own : shell.OwnText text)
    {sent : List UInt8} (begins : sent <+: Text.bytesOf (text ++ "\n"))
    (other : sent <+: Text.bytesOf "Error during command processing.") : sent = [] := by
  cases sent with
  | nil => rfl
  | cons byte later =>
    obtain ⟨first, member, starts⟩ := own.head?
    have spoken : (Text.bytesOf (text ++ "\n")).head? = some byte := by
      obtain ⟨rest, same⟩ := begins
      rw [← same]
      rfl
    have error : some byte = some 69 := by
      obtain ⟨rest, same⟩ := other
      have start : (Text.bytesOf "Error during command processing.").head? = some 69 := by decide
      rw [← same] at start
      exact start
    have differ : (['P', 'F', 'M', 'V', 'I', 'C', '\n'].all fun first =>
        (String.utf8EncodeChar first).head? != some 69) = true := by decide
    rw [Text.head?_bytesOf, starts, error] at spoken
    have unlike := List.all_eq_true.mp differ first member
    rw [bne_iff_ne] at unlike
    exact absurd spoken unlike

/-! ## Lines of a shell that was built -/

/-- What a line of a sound shell sends: what one handler wrote, or else nothing like the answer to
an unknown field. -/
def Visit.Sends (shell : Shell γ σ) (visit : Visit κ γ σ) : Prop :=
  (∃ place command record, shell.commands[place]? = some command ∧
    visit.step.trace.dispatches = [⟨place, record⟩] ∧
    visit.step.trace.output = (visit.before.performance place command record).written) ∨
  (visit.step.trace.dispatches = [] ∧ ∀ sent, sent <+: visit.step.trace.output →
    sent <+: Text.bytesOf "Error during command processing." → sent = [])

namespace Registration

variable {registration : Registration γ σ} {shell : Shell γ σ}

/-- The generated help of a shell that was built is a text of its own. -/
theorem build_ownText (built : registration.build = .ok shell) {tokens : List String}
    {text : String} (asked : shell.helpAnswer? tokens = some text) : shell.OwnText text := by
  obtain ⟨generated, _, rfl⟩ := (build_helpAnswer? built).mp asked
  obtain ⟨_, rfl⟩ := build_ok_iff.mp built
  exact .help _ (if_pos generated)

/-- Every line of a shell that was built is malformed only by a value that does not convert, and the
shell does not answer it like an unknown field. -/
theorem build_line (built : registration.build = .ok shell) {line : String}
    {session : Session κ γ σ} {step : Step κ γ σ LineOutcome}
    (done : LineCase shell line session step) :
    (∀ error, step.result = .ok (.malformed error) → error.IsConversion) ∧
      Visit.Sends shell ⟨line, session, step⟩ := by
  cases done with
  | skipped =>
    refine ⟨nofun, .inr ⟨rfl, fun sent begins _ => ?_⟩⟩
    exact List.prefix_nil.mp begins
  | @dispatched place command record _ stands _ _ =>
    rw [Session.dispatch_eq]
    obtain ⟨output, dispatches, sound⟩ := Session.conclude_trace
      (session.leave place (session.performance place command record).state) line
      [⟨place, record⟩] (session.performance place command record)
    refine ⟨fun error result => absurd result (sound error), .inl ?_⟩
    exact ⟨place, command, record, stands, dispatches, output⟩
  | @rejected _ command rejection _ _ _ _ =>
    obtain ⟨idle, output, only⟩ := session.answer_trace (rejection.entry line)
      (rejection.reply command.template.heading) (.rejected rejection)
    refine ⟨fun error result => ?_, .inr ⟨idle, fun sent begins other => ?_⟩⟩
    · cases only _ result
    · have own : shell.OwnText _ := .rejection rejection command.template.heading
      exact own.apart (begins.trans output) other
  | @malformed _ command error _ stands _ read =>
    obtain ⟨field, value, expected, rfl⟩ := build_read? built (List.mem_of_getElem? stands) read
    obtain ⟨idle, output, only⟩ := session.answer_trace
      ((BindError.conversion field value expected).entry line) "Incorrect command format."
      (.malformed (.conversion field value expected))
    refine ⟨fun error result => ?_, .inr ⟨idle, fun sent begins other => ?_⟩⟩
    · cases only _ result
      exact ⟨field, value, expected, rfl⟩
    · have own : shell.OwnText _ := .format
      exact own.apart (begins.trans output) other
  | @helped text _ _ asked =>
    obtain ⟨output, dispatches, sound⟩ := session.conclude_trace line []
      ((Reaction.writeLine () text .done).perform session.console)
    refine ⟨fun error result => absurd result (sound error), .inr ⟨dispatches, ?_⟩⟩
    intro sent begins other
    rw [Reaction.writeLine_written] at output
    have written := Writer.offerLine_begins session.console.output text
    rw [← output] at written
    exact (build_ownText built asked).apart (begins.trans written) other
  | notFound =>
    refine ⟨fun error result => ?_, .inr ⟨rfl, fun sent begins other => ?_⟩⟩
    · cases Session.reply_result result
    · exact Shell.OwnText.apart .notFound (begins.trans (Writer.sendLine_begins _ _)) other

/-- On a shell that was built, a command is malformed only by a value that does not convert; and so
is every line of every session, on which the shell by itself never begins to send the answer to an
unknown field. -/
theorem build_sound (built : registration.build = .ok shell) :
    (∀ command ∈ shell.commands, ∀ tokens error,
      command.read? tokens = some (.error (.malformed error)) → error.IsConversion) ∧
    ∀ lines (session : Session κ γ σ), ∀ visit ∈ shell.visits lines session,
      (∀ error, visit.step.result = .ok (.malformed error) → error.IsConversion) ∧
        visit.Sends shell := by
  refine ⟨fun command member tokens error => build_read? built member, ?_⟩
  intro lines session visit member
  have sound := build_line built (shell.processLine_case visit.line visit.before)
  rw [← Shell.visits_step member] at sound
  exact sound

end Registration

namespace Sample

/-- A writer that refuses the last of every three writes and flushes, and goes on after it; of a
write that it refuses it takes one half. -/
structure Flaky where
  /-- How many writes and flushes there were. -/
  uses : Nat

/-- Whether the next write or flush is refused. -/
def Flaky.refuses (flaky : Flaky) : Bool := flaky.uses % 3 = 2

instance : Writer Flaky where
  write flaky bytes := (⟨flaky.uses + 1⟩,
    if flaky.refuses then some ⟨bytes.length / 2, "try again"⟩ else none)
  flush flaky := (⟨flaky.uses + 1⟩, if flaky.refuses then some "try again" else none)

end Sample

/-- A session with lines of both commands, well and badly written, on writers that refuse now and
then. -/
theorem Registration.build_sound_session : ∃ shell, Sample.registration.build = .ok shell ∧
    ∀ visit ∈ shell.visits ["wait 10", "WAIT 256", "docker run --port x", "docker run -n web", "?"]
        (shell.session 0 (⟨0⟩ : Sample.Flaky) (some ⟨1⟩) ⟨[], false⟩),
      (∀ error, visit.step.result = .ok (.malformed error) → error.IsConversion) ∧
        visit.Sends shell := by
  obtain ⟨shell, built⟩ : ∃ shell, Sample.registration.build = .ok shell :=
    ⟨_, build_ok_iff.mpr ⟨Sample.registration_sound, rfl⟩⟩
  exact ⟨shell, built, (build_sound built).2 _ _⟩

end Switchboard
