import Switchboard.Proofs.Shell.Processing
/-!
# The dispatch of a line

With sinks that accept all writes, what a shell that was built makes of a line is said here in full
and without the program: which command decides, what it finds, what is answered and noted, which
handler runs and what it leaves (`Dispatches`). The program does this and nothing else
(`processLine_dispatches`), on every line of every session (`visits_dispatches`).
-/
namespace Switchboard

variable {κ γ σ : Type} [Writer κ]

/-! ## Sinks that accept all writes -/

/-- A session of a shell with a state for each of its commands and sinks that accept all writes. -/
structure Session.Open (session : Session κ γ σ) (shell : Shell γ σ) : Prop where
  /-- Every command has a state. -/
  states : session.states.length = shell.commands.length
  /-- The output accepts all writes. -/
  output : Writer.Accepts session.output
  /-- The diagnostics accept all writes, if there are any. -/
  diagnostics : ∀ sink, session.diagnostics = some sink → Writer.Accepts sink

/-- What one entry adds to the diagnostics, if there are any. -/
def Session.noted (session : Session κ γ σ) (entry : String) : List UInt8 :=
  if session.diagnostics.isSome then Text.bytesOf (entry ++ "\n") else []

/-- A session that begins with sinks that accept all writes is open. -/
theorem Shell.session_open (shell : Shell γ σ) (common : γ) {output : κ} {diagnostics : Option κ}
    (accepts : Writer.Accepts output)
    (noted : ∀ sink, diagnostics = some sink → Writer.Accepts sink) (input : Input) :
    (shell.session common output diagnostics input).Open shell :=
  ⟨List.length_map _, accepts, noted⟩

/-- A session that begins with sinks without a limit is open. -/
theorem Shell.session_unlimited (shell : Shell γ σ) (common : γ) (input : Input) :
    (shell.session common Sink.unlimited (some .unlimited) input).Open shell :=
  shell.session_open common (Sink.accepts_iff.mpr rfl)
    (fun _ same => Sink.accepts_iff.mpr (Option.some.inj same ▸ rfl)) input

namespace Session

variable {session : Session κ γ σ}

/-- Noting a failure on diagnostics that accept all writes adds one entry and changes nothing. -/
theorem note_open (accepts : ∀ sink, session.diagnostics = some sink → Writer.Accepts sink)
    (entry : String) :
    session.note entry = ⟨.ok (), session, { diagnostics := session.noted entry }⟩ := by
  obtain ⟨common, states, output, diagnostics, cancelled, input⟩ := session
  cases diagnostics with
  | none => rfl
  | some sink =>
    simp only [note, noted, (accepts sink rfl).sendLine]
    rfl

/-- Replying to an output that accepts all writes adds one line and changes nothing. -/
theorem reply_open (accepts : Writer.Accepts session.output) (text : String)
    (outcome : LineOutcome) : session.reply text outcome =
      ⟨.ok outcome, session, { output := Text.bytesOf (text ++ "\n") }⟩ := by
  simp only [reply, accepts.sendLine]
  rfl

/-- A failure is noted and answered with one entry and one line. -/
theorem answer_open {shell : Shell γ σ} (free : session.Open shell) (entry text : String)
    (outcome : LineOutcome) :
    ((session.note entry).andThen fun noted => noted.reply text outcome) =
      ⟨.ok outcome, session,
        { output := Text.bytesOf (text ++ "\n"), diagnostics := session.noted entry }⟩ := by
  simp only [Step.andThen, note_open free.diagnostics, reply_open free.output]
  change Step.mk _ _ (Trace.mk ([] ++ _) (_ ++ []) ([] ++ [])) = _
  rw [List.append_nil]
  rfl

end Session

/-- A verdict without a failure to tell of is that the handler is done. -/
theorem Verdict.detail?_none {verdict : Verdict} : verdict.detail? = none ↔ verdict = .done := by
  cases verdict <;> simp [detail?]

namespace Session

variable {shell : Shell γ σ} {session : Session κ γ σ} {line : String} {place : Nat}
  {command : Command γ σ} {record : Record} {state : σ}
  {performance : Performance κ (γ × σ)}

/-- A handler performs with the state of its command. -/
theorem performance_eq (held : session.states[place]? = some state)
    (performed :
      (command.handler (session.common, state) record).perform session.console = performance) :
    session.performance place command record = performance := by
  rw [Session.performance, held, Option.getD_some, performed]

/-- A handler that succeeds leaves its state, whether it cancelled, and what it wrote. -/
theorem dispatch_done (free : session.Open shell) (held : session.states[place]? = some state)
    (performed :
      (command.handler (session.common, state) record).perform session.console = performance)
    (succeeded : performance.verdict = .done) :
    session.dispatch line place command record = ⟨.ok .handled,
      { session with
        common := performance.state.1
        states := session.states.set place performance.state.2
        cancelled := performance.console.cancelled },
      { output := performance.written, dispatches := [⟨place, record⟩] }⟩ := by
  have kept : performance.console.output = session.output := by
    rw [← performed]
    exact Reaction.perform_open _ free.output
  have silent : performance.verdict.detail? = none := by rw [succeeded]; rfl
  rw [dispatch_eq, performance_eq held performed, conclude_done silent, takeOver, kept]
  rfl

/-- A handler that fails leaves the same, and the failure is noted. -/
theorem dispatch_failed (free : session.Open shell) (held : session.states[place]? = some state)
    (performed :
      (command.handler (session.common, state) record).perform session.console = performance)
    {detail : String} (failed : performance.verdict.detail? = some detail) :
    session.dispatch line place command record = ⟨.ok (.handlerFailed detail),
      { session with
        common := performance.state.1
        states := session.states.set place performance.state.2
        cancelled := performance.console.cancelled },
      { output := performance.written
        diagnostics := session.noted (unexpectedEntry line detail)
        dispatches := [⟨place, record⟩] }⟩ := by
  have kept : performance.console.output = session.output := by
    rw [← performed]
    exact Reaction.perform_open _ free.output
  rw [dispatch_eq, performance_eq held performed, conclude_failed failed, takeOver, kept]
  let after : Session κ γ σ := { session.leave place performance.state with
    cancelled := performance.console.cancelled }
  have noted : after.note (unexpectedEntry line detail) =
      ⟨.ok (), after, { diagnostics := session.noted (unexpectedEntry line detail) }⟩ :=
    @note_open κ γ σ _ after free.diagnostics _
  change Step.mk ((after.note _).result.map _) (after.note _).session
    (_ ++ (after.note _).trace) = _
  rw [noted]
  change Step.mk _ _ (Trace.mk (performance.written ++ []) ([] ++ _) (_ ++ [])) = _
  rw [List.append_nil, List.append_nil]
  rfl

/-- The generated help is written to an output without a limit and changes nothing. -/
theorem helped_open (free : session.Open shell) (text : String) :
    session.conclude line [] ((Reaction.writeLine () text .done).perform session.console) =
      ⟨.ok .handled, session, { output := Text.bytesOf (text ++ "\n") }⟩ := by
  rw [Reaction.writeLine_open _ _ _ free.output, conclude_done rfl]
  rfl

end Session

/-! ## The templates of a shell -/

/-- The templates that a shell tries, in order: those of its commands, and then that of the
generated help. -/
def Registration.templates (registration : Registration γ σ) : List Template :=
  registration.commands.map Command.template ++
    if registration.help = .generated then [.fixed helpTemplate] else []

/-- More templates at the end do not change which of the others is the first to fit. -/
theorem FirstFit.append_iff {templates more : List Template} {tokens : List String} {place : Nat}
    {template : Template} (inside : place < templates.length) :
    FirstFit (templates ++ more) tokens place template ↔
      FirstFit templates tokens place template := by
  have among : ∀ before, before ≤ place → (templates ++ more)[before]? = templates[before]? :=
    fun before within => List.getElem?_append_left (Nat.lt_of_le_of_lt within inside)
  constructor
  · intro first
    refine ⟨(among place (Nat.le_refl place)).symm.trans first.stands, first.fits, ?_⟩
    intro before other less found
    exact first.earlier before other less ((among before (Nat.le_of_lt less)).trans found)
  · intro first
    refine ⟨(among place (Nat.le_refl place)).trans first.stands, first.fits, ?_⟩
    intro before other less found
    exact first.earlier before other less ((among before (Nat.le_of_lt less)).symm.trans found)

/-! ## One line -/

/-- What a shell makes of a line, in a session with sinks that accept all writes: its outcome, the
session after it, and what it adds to the output, the diagnostics and the records handed on. -/
inductive Dispatches (registration : Registration γ σ) (line : String) (session : Session κ γ σ) :
    Step κ γ σ LineOutcome → Prop where
  /-- A line without tokens is skipped. -/
  | skipped (blank : Line.tokens line = []) :
      Dispatches registration line session ⟨.ok .skipped, session, {}⟩
  /-- A line that fits no template is answered, with the hint unless there is no help. -/
  | notFound (typed : Line.tokens line ≠ [])
      (unfit : ∀ template ∈ registration.templates, ¬ template.Fits (Line.tokens line)) :
      Dispatches registration line session ⟨.ok .notFound, session,
        { output := Text.bytesOf (notFoundReply (registration.help ≠ .off) ++ "\n") }⟩
  /-- The first command that the line fits refuses its switches: one entry, one reply. -/
  | rejected {place : Nat} {command : Command γ σ} {rejection : Rejection}
      (typed : Line.tokens line ≠ []) (stands : registration.commands[place]? = some command)
      (first : FirstFit registration.templates (Line.tokens line) place command.template)
      (read : command.read? (Line.tokens line) = some (.error (.rejected rejection))) :
      Dispatches registration line session ⟨.ok (.rejected rejection), session,
        { output := Text.bytesOf (rejection.reply command.template.heading ++ "\n")
          diagnostics := session.noted (rejection.entry line) }⟩
  /-- The first command that the line fits cannot hold its values: one entry, one reply. -/
  | malformed {place : Nat} {command : Command γ σ} {error : BindError}
      (typed : Line.tokens line ≠ []) (stands : registration.commands[place]? = some command)
      (first : FirstFit registration.templates (Line.tokens line) place command.template)
      (read : command.read? (Line.tokens line) = some (.error (.malformed error))) :
      Dispatches registration line session ⟨.ok (.malformed error), session,
        { output := Text.bytesOf "Incorrect command format.\n"
          diagnostics := session.noted
            (s!"Format error during command parsing: {line}. Error: {error.message}") }⟩
  /-- The handler of the first command that the line fits runs once, and succeeds. -/
  | handled {place : Nat} {command : Command γ σ} {record : Record} {state : σ}
      {performance : Performance κ (γ × σ)}
      (typed : Line.tokens line ≠ []) (stands : registration.commands[place]? = some command)
      (first : FirstFit registration.templates (Line.tokens line) place command.template)
      (read : command.read? (Line.tokens line) = some (.ok record))
      (held : session.states[place]? = some state)
      (performed :
        (command.handler (session.common, state) record).perform session.console = performance)
      (succeeded : performance.verdict = .done) :
      Dispatches registration line session ⟨.ok .handled,
        { session with
          common := performance.state.1
          states := session.states.set place performance.state.2
          cancelled := performance.console.cancelled },
        { output := performance.written, dispatches := [⟨place, record⟩] }⟩
  /-- The handler of the first command that the line fits runs once, and fails or panics: one
  entry, no reply. -/
  | failed {place : Nat} {command : Command γ σ} {record : Record} {state : σ}
      {performance : Performance κ (γ × σ)} {detail : String}
      (typed : Line.tokens line ≠ []) (stands : registration.commands[place]? = some command)
      (first : FirstFit registration.templates (Line.tokens line) place command.template)
      (read : command.read? (Line.tokens line) = some (.ok record))
      (held : session.states[place]? = some state)
      (performed :
        (command.handler (session.common, state) record).perform session.console = performance)
      (failed : performance.verdict.detail? = some detail) :
      Dispatches registration line session ⟨.ok (.handlerFailed detail),
        { session with
          common := performance.state.1
          states := session.states.set place performance.state.2
          cancelled := performance.console.cancelled },
        { output := performance.written
          diagnostics := session.noted (unexpectedEntry line detail)
          dispatches := [⟨place, record⟩] }⟩
  /-- A line that fits the template of the generated help, and no other, is answered with it. -/
  | helped (typed : Line.tokens line ≠ []) (generated : registration.help = .generated)
      (first : FirstFit registration.templates (Line.tokens line) registration.commands.length
        (.fixed helpTemplate)) :
      Dispatches registration line session ⟨.ok .handled, session,
        { output := Text.bytesOf (registration.helpText ++ "\n") }⟩

/-! ## The program and its account -/

namespace Registration

variable {registration : Registration γ σ} {shell : Shell γ σ} {session : Session κ γ σ}
  {line : String}

/-- Among the templates of a shell, a command is the first to fit where it is among the commands. -/
theorem firstFit_iff (registration : Registration γ σ) {tokens : List String} {place : Nat}
    {command : Command γ σ} (stands : registration.commands[place]? = some command) :
    FirstFit registration.templates tokens place command.template ↔
      FirstFit (registration.commands.map Command.template) tokens place command.template := by
  obtain ⟨inside, _⟩ := List.getElem?_eq_some_iff.mp stands
  refine FirstFit.append_iff ?_
  rw [List.length_map]
  exact inside

/-- The generated help is the first to fit where no command fits. -/
theorem firstFit_help (registration : Registration γ σ) {tokens : List String}
    (generated : registration.help = .generated) :
    FirstFit registration.templates tokens registration.commands.length (.fixed helpTemplate) ↔
      (∀ command ∈ registration.commands, ¬ command.template.Fits tokens) ∧
        (Template.fixed helpTemplate).Fits tokens := by
  have length : (registration.commands.map Command.template).length =
      registration.commands.length := List.length_map _
  have among : ∀ before, before < registration.commands.length →
      registration.templates[before]? = (registration.commands.map Command.template)[before]? :=
    fun before less => List.getElem?_append_left (length.symm ▸ less)
  constructor
  · intro first
    refine ⟨fun command member => ?_, first.fits⟩
    obtain ⟨before, stands⟩ := List.mem_iff_getElem?.mp member
    obtain ⟨inside, _⟩ := List.getElem?_eq_some_iff.mp stands
    refine first.earlier before command.template inside ?_
    rw [among before inside, List.getElem?_map, stands]
    rfl
  · rintro ⟨unfit, fits⟩
    refine ⟨?_, fits, fun before other less found => ?_⟩
    · rw [templates, if_pos generated, ← length, List.getElem?_append_right (Nat.le_refl _),
        Nat.sub_self]
      rfl
    · rw [among before less] at found
      obtain ⟨command, member, rfl⟩ := List.mem_map.mp (List.mem_of_getElem? found)
      exact unfit command member

/-- A line fits no template of a shell that was built exactly when it fits no command and does not
ask for the generated help. -/
theorem unfit_iff (built : registration.build = .ok shell) {tokens : List String} :
    (∀ template ∈ registration.templates, ¬ template.Fits tokens) ↔
      (∀ command ∈ shell.commands, ¬ command.template.Fits tokens) ∧
        shell.helpAnswer? tokens = none := by
  have silent : shell.helpAnswer? tokens = none ↔
      ¬ (registration.help = .generated ∧ (Template.fixed helpTemplate).Fits tokens) := by
    rw [Option.eq_none_iff_forall_ne_some]
    constructor
    · rintro unasked ⟨generated, fits⟩
      exact unasked _ ((build_helpAnswer? built).mpr ⟨generated, fits, rfl⟩)
    · rintro unfit text asked
      obtain ⟨generated, fits, _⟩ := (build_helpAnswer? built).mp asked
      exact unfit ⟨generated, fits⟩
  rw [silent, (build_accepted built).2, templates, List.forall_mem_append, List.forall_mem_map]
  refine and_congr_right fun _ => ?_
  by_cases generated : registration.help = .generated
  · simp [generated]
  · simp [generated]

/-- The program does what the account says. -/
theorem dispatches_of_case (built : registration.build = .ok shell) (free : session.Open shell)
    {step : Step κ γ σ LineOutcome} (done : LineCase shell line session step) :
    Dispatches registration line session step := by
  have commands : shell.commands = registration.commands := (build_accepted built).2
  have hint : shell.hint = decide (registration.help ≠ .off) := by
    rw [(build_ok_iff.mp built).2]
  cases done with
  | skipped blank => exact .skipped blank
  | @dispatched place command record typed stands first read =>
    obtain ⟨inside, _⟩ := List.getElem?_eq_some_iff.mp stands
    rw [← free.states] at inside
    have held : session.states[place]? = some session.states[place] :=
      List.getElem?_eq_getElem inside
    rw [commands] at stands first
    rw [← registration.firstFit_iff stands] at first
    cases failed : ((command.handler (session.common, session.states[place]) record).perform
        session.console).verdict.detail? with
    | none =>
      have succeeded := Verdict.detail?_none.mp failed
      rw [Session.dispatch_done free held rfl succeeded]
      exact .handled typed stands first read held rfl succeeded
    | some detail =>
      rw [Session.dispatch_failed free held rfl failed]
      exact .failed typed stands first read held rfl failed
  | rejected typed stands first read =>
    rw [commands] at stands first
    rw [Session.answer_open free]
    exact .rejected typed stands ((registration.firstFit_iff stands).mpr first) read
  | malformed typed stands first read =>
    obtain ⟨field, value, expected, rfl⟩ := build_read? built (List.mem_of_getElem? stands) read
    rw [commands] at stands first
    rw [Session.answer_open free]
    exact .malformed typed stands ((registration.firstFit_iff stands).mpr first) read
  | helped typed unfit asked =>
    obtain ⟨generated, fits, rfl⟩ := (build_helpAnswer? built).mp asked
    rw [commands] at unfit
    rw [Session.helped_open free]
    exact .helped typed generated ((registration.firstFit_help generated).mpr ⟨unfit, fits⟩)
  | notFound typed unfit unasked =>
    rw [Session.reply_open free.output, hint]
    exact .notFound typed ((unfit_iff built).mpr ⟨unfit, unasked⟩)

/-- The account says what the program does. -/
theorem case_of_dispatches (built : registration.build = .ok shell) (free : session.Open shell)
    {step : Step κ γ σ LineOutcome} (done : Dispatches registration line session step) :
    LineCase shell line session step := by
  have commands : shell.commands = registration.commands := (build_accepted built).2
  have hint : shell.hint = decide (registration.help ≠ .off) := by
    rw [(build_ok_iff.mp built).2]
  cases done with
  | skipped blank => exact .skipped blank
  | notFound typed unfit =>
    obtain ⟨unfit, unasked⟩ := (unfit_iff built).mp unfit
    rw [← hint, ← Session.reply_open free.output]
    exact .notFound typed unfit unasked
  | rejected typed stands first read =>
    rw [registration.firstFit_iff stands] at first
    rw [← commands] at stands first
    rw [← Session.answer_open free]
    exact .rejected typed stands first read
  | malformed typed stands first read =>
    rw [registration.firstFit_iff stands] at first
    rw [← commands] at stands first
    obtain ⟨field, value, expected, rfl⟩ := build_read? built (List.mem_of_getElem? stands) read
    have answered := session.answer_open free
      ((BindError.conversion field value expected).entry line) "Incorrect command format."
      (.malformed (.conversion field value expected))
    exact answered ▸ .malformed typed stands first read
  | handled typed stands first read held performed succeeded =>
    rw [registration.firstFit_iff stands] at first
    rw [← commands] at stands first
    rw [← Session.dispatch_done free held performed succeeded]
    exact .dispatched typed stands first read
  | failed typed stands first read held performed failed =>
    rw [registration.firstFit_iff stands] at first
    rw [← commands] at stands first
    rw [← Session.dispatch_failed free held performed failed]
    exact .dispatched typed stands first read
  | helped typed generated first =>
    obtain ⟨unfit, fits⟩ := (registration.firstFit_help generated).mp first
    rw [← commands] at unfit
    rw [← Session.helped_open free]
    exact .helped typed unfit ((build_helpAnswer? built).mpr ⟨generated, fits, rfl⟩)

/-- A line keeps the sinks open and a state for each command. -/
theorem open_of_dispatches (free : session.Open shell) {step : Step κ γ σ LineOutcome}
    (done : Dispatches registration line session step) : step.session.Open shell := by
  cases done with
  | skipped | notFound | rejected | malformed | helped => exact free
  | handled | failed =>
    refine ⟨?_, free.output, free.diagnostics⟩
    rw [List.length_set]
    exact free.states

/-- Of a line only its tokens matter, except that the diagnostics repeat it. -/
theorem dispatches_of_tokens {other : String} (same : Line.tokens other = Line.tokens line)
    {step : Step κ γ σ LineOutcome} (done : Dispatches registration line session step) :
    ∃ diagnostics, Dispatches registration other session
      { step with trace := { step.trace with diagnostics } } := by
  cases done with
  | skipped blank => exact ⟨_, .skipped (same.trans blank)⟩
  | notFound typed unfit => exact ⟨_, .notFound (same ▸ typed) (same ▸ unfit)⟩
  | rejected typed stands first read =>
    exact ⟨_, .rejected (same ▸ typed) stands (same ▸ first) (same ▸ read)⟩
  | malformed typed stands first read =>
    exact ⟨_, .malformed (same ▸ typed) stands (same ▸ first) (same ▸ read)⟩
  | handled typed stands first read held performed succeeded =>
    exact ⟨_, .handled (same ▸ typed) stands (same ▸ first) (same ▸ read) held performed succeeded⟩
  | failed typed stands first read held performed failed =>
    exact ⟨_, .failed (same ▸ typed) stands (same ▸ first) (same ▸ read) held performed failed⟩
  | helped typed generated first => exact ⟨_, .helped (same ▸ typed) generated (same ▸ first)⟩

/-- A shell that was built makes of a line exactly what the account says; and of lines with the same
tokens it makes the same, up to the diagnostics. -/
theorem processLine_dispatches (built : registration.build = .ok shell)
    (free : session.Open shell) (line : String) :
    (∀ step, Dispatches registration line session step ↔ step = shell.processLine line session) ∧
      ∀ other, Line.tokens other = Line.tokens line →
        ∃ diagnostics, shell.processLine other session =
          { shell.processLine line session with
            trace := { (shell.processLine line session).trace with diagnostics } } := by
  have account : ∀ line step, Dispatches registration line session step ↔
      step = shell.processLine line session := by
    refine fun line step => ⟨fun done => (case_of_dispatches built free done).unique, ?_⟩
    rintro rfl
    exact dispatches_of_case built free (shell.processLine_case line session)
  refine ⟨account line, fun other same => ?_⟩
  obtain ⟨diagnostics, done⟩ := dispatches_of_tokens same ((account line _).mpr rfl)
  exact ⟨diagnostics, ((account other _).mp done).symm⟩

/-- A line whose value does not convert, in two spellings with the same tokens. -/
theorem processLine_dispatches_wait : ∃ shell session,
    Sample.registration.build = .ok shell ∧
      session = shell.session 0 Sink.unlimited (some .unlimited) ⟨[], false⟩ ∧ session.Open shell ∧
      Dispatches Sample.registration "WAIT 256" session (shell.processLine "WAIT 256" session) ∧
      ∃ diagnostics, shell.processLine " WAIT  '256'" session =
        { shell.processLine "WAIT 256" session with
          trace := { (shell.processLine "WAIT 256" session).trace with diagnostics } } := by
  obtain ⟨shell, built⟩ : ∃ shell, Sample.registration.build = .ok shell :=
    ⟨_, build_ok_iff.mpr ⟨Sample.registration_sound, rfl⟩⟩
  have free := shell.session_unlimited 0 ⟨[], false⟩
  obtain ⟨account, relabel⟩ := processLine_dispatches built free "WAIT 256"
  exact ⟨shell, _, built, rfl, free, (account _).mpr rfl, relabel " WAIT  '256'" (by decide)⟩

/-- A line that a shell processes keeps the sinks open and a state for each command. -/
theorem open_processLine (built : registration.build = .ok shell) (free : session.Open shell)
    (line : String) : (shell.processLine line session).session.Open shell :=
  open_of_dispatches free (dispatches_of_case built free (shell.processLine_case line session))

/-- Every line of a session is dispatched so. -/
theorem visits_dispatches (built : registration.build = .ok shell) (free : session.Open shell)
    {lines : List String} {visit : Visit κ γ σ} (member : visit ∈ shell.visits lines session) :
    visit.before.Open shell ∧ Dispatches registration visit.line visit.before visit.step := by
  have kept : ∀ line (before : Session κ γ σ), before.Open shell →
      (shell.processLine line before).session.Open shell :=
    fun line before free => open_processLine built free line
  obtain ⟨processed, before⟩ := Shell.visits_invariant kept free visit member
  rw [processed]
  exact ⟨before, dispatches_of_case built before (shell.processLine_case _ _)⟩

end Registration

end Switchboard
