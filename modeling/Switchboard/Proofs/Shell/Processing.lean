import Switchboard.Proofs.Shell.Reading
import Switchboard.Proofs.Shell.Writers
import Switchboard.Shell.Session
/-!
# What a shell does on a line

The branches of `processLine` are read once, in `processLine_case`, for sinks of any kind; what is
proved of a line elsewhere is proved for each case. `Shell.visits` are the lines of a whole session.
-/
namespace Switchboard

variable {κ γ σ : Type} [Writer κ]

/-! ## The command that decides -/

/-- A template is the first of some that the tokens fit. -/
structure FirstFit (templates : List Template) (tokens : List String) (place : Nat)
    (template : Template) : Prop where
  /-- The template stands at the place. -/
  stands : templates[place]? = some template
  /-- The tokens fit it. -/
  fits : template.Fits tokens
  /-- They fit none before it. -/
  earlier : ∀ before other, before < place → templates[before]? = some other →
    ¬ other.Fits tokens

/-- Of some templates one at most is the first that the tokens fit. -/
theorem FirstFit.place_unique {templates : List Template} {tokens : List String}
    {place place' : Nat} {template template' : Template}
    (first : FirstFit templates tokens place template)
    (first' : FirstFit templates tokens place' template') : place = place' := by
  rcases Nat.lt_trichotomy place place' with less | same | greater
  · exact absurd first.fits (first'.earlier place template less first.stands)
  · exact same
  · exact absurd first'.fits (first.earlier place' template' greater first'.stands)

namespace Shell

variable {tokens : List String} {commands : List (Command γ σ)}

/-- The program finds the command whose template is the first that the tokens fit. -/
theorem firstMatch?_some {found : Match γ σ} (matched : firstMatch? tokens commands = some found) :
    commands[found.place]? = some found.command ∧
      found.command.read? tokens = some found.reading ∧
      FirstFit (commands.map Command.template) tokens found.place found.command.template := by
  induction commands generalizing found with
  | nil => cases matched
  | cons command rest ih =>
    unfold firstMatch? at matched
    cases read : command.read? tokens with
    | some reading =>
      simp only [read, Option.some.injEq] at matched
      subst matched
      have fits : command.template.Fits tokens := Command.read?_isSome.mp (by rw [read]; rfl)
      exact ⟨rfl, read, rfl, fits, fun before _ less => absurd less (Nat.not_lt_zero before)⟩
    | none =>
      simp only [read, Option.map_eq_some_iff] at matched
      obtain ⟨inner, later, rfl⟩ := matched
      obtain ⟨stands, reads, first⟩ := ih later
      refine ⟨stands, reads, first.stands, first.fits, fun before other less found => ?_⟩
      cases before with
      | zero =>
        cases found
        exact Command.read?_none.mp read
      | succ before => exact first.earlier before other (Nat.lt_of_succ_lt_succ less) found

/-- The program finds no command exactly when the tokens fit none. -/
theorem firstMatch?_none :
    firstMatch? tokens commands = none ↔
      ∀ command ∈ commands, ¬ command.template.Fits tokens := by
  induction commands with
  | nil => simp [firstMatch?]
  | cons command rest ih =>
    rw [firstMatch?, List.forall_mem_cons, ← ih, ← Command.read?_none]
    cases command.read? tokens with
    | some reading => simp
    | none => simp

/-- The program finds the command that is the first of its template to fit. -/
theorem firstMatch?_of_first {place : Nat} {command : Command γ σ} {reading : Except Fault Record}
    (stands : commands[place]? = some command) (read : command.read? tokens = some reading)
    (first : FirstFit (commands.map Command.template) tokens place command.template) :
    firstMatch? tokens commands = some ⟨place, command, reading⟩ := by
  cases matched : firstMatch? tokens commands with
  | none =>
    exact absurd first.fits (firstMatch?_none.mp matched command (List.mem_of_getElem? stands))
  | some found =>
    obtain ⟨place', command', reading'⟩ := found
    obtain ⟨stands', read', first'⟩ := firstMatch?_some matched
    have same : place' = place := first'.place_unique first
    change commands[place']? = some command' at stands'
    change command'.read? tokens = some reading' at read'
    rw [same, stands] at stands'
    cases stands'
    rw [read] at read'
    cases read'
    rw [same]

end Shell

/-! ## One line -/

/-- What a shell does on a line, in a session with sinks of any kind. -/
inductive LineCase (shell : Shell γ σ) (line : String) (session : Session κ γ σ) :
    Step κ γ σ LineOutcome → Prop where
  /-- A line without tokens is skipped. -/
  | skipped (blank : Line.tokens line = []) :
      LineCase shell line session ⟨.ok .skipped, session, {}⟩
  /-- The first command that the line fits is handed a record. -/
  | dispatched {place : Nat} {command : Command γ σ} {record : Record}
      (typed : Line.tokens line ≠ []) (stands : shell.commands[place]? = some command)
      (first : FirstFit (shell.commands.map Command.template) (Line.tokens line) place
        command.template)
      (read : command.read? (Line.tokens line) = some (.ok record)) :
      LineCase shell line session (session.dispatch line place command record)
  /-- The first command that the line fits refuses its switches. -/
  | rejected {place : Nat} {command : Command γ σ} {rejection : Rejection}
      (typed : Line.tokens line ≠ []) (stands : shell.commands[place]? = some command)
      (first : FirstFit (shell.commands.map Command.template) (Line.tokens line) place
        command.template)
      (read : command.read? (Line.tokens line) = some (.error (.rejected rejection))) :
      LineCase shell line session ((session.note (rejection.entry line)).andThen fun noted =>
        noted.reply (rejection.reply command.template.heading) (.rejected rejection))
  /-- The first command that the line fits cannot hold its values. -/
  | malformed {place : Nat} {command : Command γ σ} {error : BindError}
      (typed : Line.tokens line ≠ []) (stands : shell.commands[place]? = some command)
      (first : FirstFit (shell.commands.map Command.template) (Line.tokens line) place
        command.template)
      (read : command.read? (Line.tokens line) = some (.error (.malformed error))) :
      LineCase shell line session ((session.note (error.entry line)).andThen fun noted =>
        noted.reply error.reply (.malformed error))
  /-- The line fits no command and asks for the generated help. -/
  | helped {text : String} (typed : Line.tokens line ≠ [])
      (unfit : ∀ command ∈ shell.commands, ¬ command.template.Fits (Line.tokens line))
      (asked : shell.helpAnswer? (Line.tokens line) = some text) :
      LineCase shell line session (session.conclude line []
        ((Reaction.writeLine () text .done).perform session.console))
  /-- The line fits no command and asks for nothing. -/
  | notFound (typed : Line.tokens line ≠ [])
      (unfit : ∀ command ∈ shell.commands, ¬ command.template.Fits (Line.tokens line))
      (unasked : shell.helpAnswer? (Line.tokens line) = none) :
      LineCase shell line session (session.reply (notFoundReply shell.hint) .notFound)

/-- The program does what one of the cases says. -/
theorem Shell.processLine_case (shell : Shell γ σ) (line : String) (session : Session κ γ σ) :
    LineCase shell line session (shell.processLine line session) := by
  unfold processLine
  by_cases blank : Line.tokens line = []
  · simp only [blank, List.isEmpty_nil, if_true]
    exact .skipped blank
  · have typed : (Line.tokens line).isEmpty = false := by simpa using blank
    simp only [typed, Bool.false_eq_true, if_false]
    cases matched : firstMatch? (Line.tokens line) shell.commands with
    | some found =>
      obtain ⟨place, command, reading⟩ := found
      obtain ⟨stands, read, first⟩ := firstMatch?_some matched
      cases reading with
      | ok record => exact .dispatched blank stands first read
      | error fault =>
        cases fault with
        | rejected rejection => exact .rejected blank stands first read
        | malformed error => exact .malformed blank stands first read
    | none =>
      have unfit := firstMatch?_none.mp matched
      cases asked : shell.helpAnswer? (Line.tokens line) with
      | some text =>
        exact .helped blank unfit asked
      | none =>
        exact .notFound blank unfit asked

/-- One case at most applies to a line. -/
theorem LineCase.unique {shell : Shell γ σ} {line : String} {session : Session κ γ σ}
    {step : Step κ γ σ LineOutcome} (done : LineCase shell line session step) :
    step = shell.processLine line session := by
  unfold Shell.processLine
  cases done with
  | skipped blank => simp only [blank, List.isEmpty_nil, if_true]
  | dispatched typed stands first read | rejected typed stands first read
  | malformed typed stands first read =>
    have filled : (Line.tokens line).isEmpty = false := by simpa using typed
    simp only [filled, Bool.false_eq_true, if_false, Shell.firstMatch?_of_first stands read first]
  | helped typed unfit asked | notFound typed unfit asked =>
    have filled : (Line.tokens line).isEmpty = false := by simpa using typed
    simp only [filled, Bool.false_eq_true, if_false, Shell.firstMatch?_none.mpr unfit, asked]

/-! ## One step after another -/

/-- Nothing is added after a trace. -/
theorem Trace.append_empty (trace : Trace) : trace ++ ({} : Trace) = trace := by
  change Trace.mk (trace.output ++ []) (trace.diagnostics ++ []) (trace.dispatches ++ []) = trace
  rw [List.append_nil, List.append_nil, List.append_nil]

omit [Writer κ] in
/-- Giving a result after a step changes nothing but the result. -/
theorem Step.andThen_value {α β : Type} (step : Step κ γ σ α) (value : β) :
    step.andThen (fun after => ⟨.ok value, after, {}⟩) =
      ⟨step.result.map fun _ => value, step.session, step.trace⟩ := by
  obtain ⟨result, session, trace⟩ := step
  cases result with
  | error interruption => rfl
  | ok done =>
    change Step.mk _ _ (trace ++ {}) = _
    rw [Trace.append_empty]
    rfl

namespace Session

/-- What the handler of a command does with a record in a session. -/
def performance (session : Session κ γ σ) (place : Nat) (command : Command γ σ) (record : Record) :
    Performance κ (γ × σ) :=
  (command.handler (session.common, session.states[place]?.getD command.start) record).perform
    session.console

/-- Handing a record on is concluding what the handler does with it. -/
theorem dispatch_eq (session : Session κ γ σ) (line : String) (place : Nat) (command : Command γ σ)
    (record : Record) : session.dispatch line place command record =
      let performance := session.performance place command record
      (session.leave place performance.state).conclude line [⟨place, record⟩] performance := rfl

variable {τ : Type} {session : Session κ γ σ} {line : String} {dispatches : List Dispatch}
  {performance : Performance κ τ}

/-- The session when a handler is done with its console. -/
def takeOver (session : Session κ γ σ) (console : Console κ) : Session κ γ σ :=
  { session with output := console.output, cancelled := console.cancelled }

/-- A handler that succeeds leaves what it did. -/
theorem conclude_done (succeeded : performance.verdict.detail? = none) :
    session.conclude line dispatches performance = ⟨.ok .handled,
      session.takeOver performance.console, { output := performance.written, dispatches }⟩ := by
  simp only [conclude, Step.andThen, succeeded, Trace.append_empty]
  rfl

/-- A handler that fails leaves what it did, and the failure is noted. -/
theorem conclude_failed {detail : String} (failed : performance.verdict.detail? = some detail) :
    session.conclude line dispatches performance =
      let noted := (session.takeOver performance.console).note (unexpectedEntry line detail)
      ⟨noted.result.map fun _ => .handlerFailed detail, noted.session,
        { output := performance.written, dispatches } ++ noted.trace⟩ := by
  simp only [conclude, failed, Step.andThen_value]
  rfl

end Session

/-! ## A session of lines -/

/-- A line that a shell processed in a session, and what came of it. -/
structure Visit (κ γ σ : Type) where
  /-- The line. -/
  line : String
  /-- The session before the line. -/
  before : Session κ γ σ
  /-- What came of the line. -/
  step : Step κ γ σ LineOutcome

namespace Shell

/-- The lines that a shell processes one after the other, whatever comes of each of them. -/
def visits (shell : Shell γ σ) : List String → Session κ γ σ → List (Visit κ γ σ)
  | [], _ => []
  | line :: rest, session =>
    let step := shell.processLine line session
    ⟨line, session, step⟩ :: shell.visits rest step.session

variable {shell : Shell γ σ}

/-- What every line keeps is so before and after every line of a session. -/
theorem visits_invariant {Invariant : Session κ γ σ → Prop}
    (kept : ∀ line before, Invariant before → Invariant (shell.processLine line before).session)
    {lines : List String} {session : Session κ γ σ} (start : Invariant session) :
    ∀ visit ∈ shell.visits lines session,
      visit.step = shell.processLine visit.line visit.before ∧ Invariant visit.before := by
  induction lines generalizing session with
  | nil => simp [visits]
  | cons line rest ih =>
    intro visit member
    cases member with
    | head => exact ⟨rfl, start⟩
    | tail _ member => exact ih (kept line session start) visit member

/-- What came of a line of a session is what the program makes of the line. -/
theorem visits_step {lines : List String} {session : Session κ γ σ} {visit : Visit κ γ σ}
    (member : visit ∈ shell.visits lines session) :
    visit.step = shell.processLine visit.line visit.before := by
  have kept : ∀ line before, True → (fun _ : Session κ γ σ => True)
      (shell.processLine line before).session := fun _ _ _ => trivial
  exact (visits_invariant kept trivial visit member).1

end Shell

/-! ## Registrations that build -/

namespace Registration

variable {registration : Registration γ σ} {shell : Shell γ σ}

/-- A registration builds exactly when it has no defect, and it builds one shell. -/
theorem build_ok_iff :
    registration.build = .ok shell ↔ registration.defect? = none ∧
      shell = ⟨registration.commands, registration.help ≠ .off,
        if registration.help = .generated then some registration.helpText else none⟩ := by
  unfold build
  cases registration.defect? with
  | some defect => simp
  | none => simp [eq_comm]

/-- The commands of a shell were accepted. -/
theorem build_accepted (built : registration.build = .ok shell) :
    Validation.defect? (registration.help = .generated)
      (registration.commands.map Command.declaration) = none ∧
      shell.commands = registration.commands := by
  obtain ⟨sound, rfl⟩ := build_ok_iff.mp built
  exact ⟨sound, rfl⟩

/-- A command of a shell that was built finds a line malformed only by a value that does not
convert. -/
theorem build_read? (built : registration.build = .ok shell) {command : Command γ σ}
    (member : command ∈ shell.commands) {tokens : List String} {error : BindError}
    (failed : command.read? tokens = some (.error (.malformed error))) : error.IsConversion := by
  obtain ⟨accepted, same⟩ := build_accepted built
  rw [same] at member
  exact Command.read?_malformed accepted (List.mem_map_of_mem member) failed

/-- A shell that was built answers with the help exactly where help was generated and the line fits
its template. -/
theorem build_helpAnswer? (built : registration.build = .ok shell) {tokens : List String}
    {text : String} : shell.helpAnswer? tokens = some text ↔
      registration.help = .generated ∧ (Template.fixed helpTemplate).Fits tokens ∧
        text = registration.helpText := by
  obtain ⟨_, rfl⟩ := build_ok_iff.mp built
  rw [Template.Fits, ← FixedTemplate.matchWords_isSome, Shell.helpAnswer?, FixedTemplate.capture]
  by_cases fits : (FixedTemplate.matchWords helpTemplate.words tokens).isSome = true
  · by_cases generated : registration.help = .generated
    · simp [fits, generated, eq_comm]
    · simp [fits, generated]
  · simp [fits]

end Registration

namespace Sample

/-- A handler that says how many records it and all handlers have been handed, and fails at the
third of its own. -/
def counting : Handler Nat Nat := fun (all, own) _ =>
  .write (Text.bytesOf s!"{own + 1} of {all + 1}\n") fun _ =>
    .finish (all + 1, own + 1) (if own < 2 then .done else .failed "tired")

/-- A switched and a fixed command, with the generated help. -/
def registration : Registration Nat Nat where
  commands := [
    ⟨.switched run, runRecord, none, counting, 0⟩,
    ⟨.fixed ⟨"wait [[Seconds]]"⟩, ⟨"Wait", [("Seconds", .scalar (.unsigned 8))]⟩, none,
      counting, 0⟩]
  help := .generated

/-- The registration has no defect. -/
theorem registration_sound : registration.defect? = none := by decide +kernel

end Sample

end Switchboard
