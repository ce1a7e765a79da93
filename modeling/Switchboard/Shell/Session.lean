import Switchboard.Shell

/-!
# Sessions

A session is a shell at work: the states of its handlers, its output and its diagnostics, whether it
is cancelled, and the input not read yet. Each step tells its result, what it added to the output
and to the diagnostics, and which records it handed to handlers. Lines that are wrong are answered
and never end a session; only a writer that refuses a reply or a diagnostic, or input that breaks,
ends a run.
-/
namespace Switchboard

/-- What became of a line. -/
inductive LineOutcome where
  | skipped
  | notFound
  | rejected (rejection : Rejection)
  | malformed (error : BindError)
  | handled
  | handlerFailed (detail : String)
  deriving DecidableEq, Repr

/-- Why a step could not be carried through. -/
structure Interruption where
  /-- The cause, in words. -/
  cause : String
  deriving DecidableEq, Repr

/-- The interruption in words. -/
def Interruption.message (interruption : Interruption) : String :=
  "shell I/O error: " ++ interruption.cause

/-- Input that is not read yet. -/
structure Input where
  /-- The lines, each with the line break that ends it; only the last can be without one. -/
  lines : List (List UInt8)
  /-- Whether reading on after the last byte fails instead of finding the end. -/
  breaks : Bool := false

namespace Input

/-- The first line of bytes, and the lines after it. -/
def cutLines : List UInt8 → List (List UInt8)
  | [] => []
  | byte :: rest =>
    if byte = 10 then [byte] :: cutLines rest
    else match cutLines rest with
      | [] => [[byte]]
      | line :: lines => (byte :: line) :: lines

/-- The input that some bytes make. -/
def ofBytes (bytes : List UInt8) (breaks : Bool) : Input := ⟨cutLines bytes, breaks⟩

/-- Whether a line has its line break. -/
def isEnded (line : List UInt8) : Bool := line.getLast? = some 10

/-- Why reading fails. -/
def breakage : String := "input broke"

/-- The text of a line, without the line break and the carriage returns at its end. -/
def lineText (line : List UInt8) : String :=
  String.ofList ((Text.textOf line).toList.reverse.dropWhile
    fun character => character = '\r' || character = '\n').reverse

end Input

/-- A record that was handed to a handler. -/
structure Dispatch where
  /-- The place of the command among the commands of the shell. -/
  command : Nat
  /-- The record. -/
  record : Record

/-- What a step adds. -/
structure Trace where
  /-- Bytes that the output took. -/
  output : List UInt8 := []
  /-- Bytes that the diagnostics took. -/
  diagnostics : List UInt8 := []
  /-- Records that were handed to handlers. -/
  dispatches : List Dispatch := []

/-- One trace after another. -/
def Trace.append (first second : Trace) : Trace :=
  ⟨first.output ++ second.output, first.diagnostics ++ second.diagnostics,
    first.dispatches ++ second.dispatches⟩

instance : Append Trace := ⟨Trace.append⟩

/-- A shell at work, on writers of the type `κ`. -/
structure Session (κ γ σ : Type) where
  /-- What all handlers share. -/
  common : γ
  /-- The state of each handler, in the order of the commands. -/
  states : List σ
  /-- Where handlers and replies go. -/
  output : κ
  /-- Where failures are noted, if anywhere. -/
  diagnostics : Option κ
  /-- Whether the session is cancelled. -/
  cancelled : Bool := false
  /-- The input not read yet. -/
  input : Input

/-- What a step of a session comes to. -/
structure Step (κ γ σ α : Type) where
  /-- The result, or why there is none. -/
  result : Except Interruption α
  /-- The session afterwards. -/
  session : Session κ γ σ
  /-- What the step added. -/
  trace : Trace := {}

variable {κ γ σ : Type}

/-- Go on after a step, unless it was interrupted. -/
def Step.andThen {α β : Type} (step : Step κ γ σ α) (next : Session κ γ σ → Step κ γ σ β) :
    Step κ γ σ β :=
  match step.result with
  | .error interruption => ⟨.error interruption, step.session, step.trace⟩
  | .ok _ =>
    let later := next step.session
    { later with trace := step.trace ++ later.trace }

/-- Begin a session of a shell. -/
def Shell.session (shell : Shell γ σ) (common : γ) (output : κ) (diagnostics : Option κ)
    (input : Input) : Session κ γ σ :=
  { common, states := shell.commands.map Command.start, output, diagnostics, input }

/-- What a step that sends a line to a writer comes to, if the writer takes it. -/
def Delivery.result {α : Type} (delivery : Delivery κ) (value : α) : Except Interruption α :=
  match delivery.refusal with
  | none => .ok value
  | some cause => .error ⟨cause⟩

/-- What the diagnostics note of a rejected line. -/
def Rejection.entry (line : String) (rejection : Rejection) : String :=
  s!"{rejection.kind} during command parsing: {line}. Error: {rejection.message}"

/-- What the diagnostics note of a line that failed for no fault of its own. -/
def unexpectedEntry (line detail : String) : String :=
  s!"Unexpected error during command processing: {line}. Error: {detail}"

/-- What the diagnostics note of a line whose values could not be bound. -/
def BindError.entry (line : String) (error : BindError) : String :=
  match error with
  | conversion _ _ _ => s!"Format error during command parsing: {line}. Error: {error.message}"
  | unknownField _ _ => unexpectedEntry line error.message

/-- What the user is told of a line whose values could not be bound. -/
def BindError.reply : BindError → String
  | conversion _ _ _ => "Incorrect command format."
  | unknownField _ _ => "Error during command processing."

/-- What the user is told of a line that no command fits. -/
def notFoundReply (hint : Bool) : String :=
  "Command not found." ++ if hint then " Type 'help' for getting available commands." else ""

variable [Writer κ]

namespace Session

/-- Note a failure in the diagnostics, if there are any. -/
def note (session : Session κ γ σ) (entry : String) : Step κ γ σ Unit :=
  match session.diagnostics with
  | none => ⟨.ok (), session, {}⟩
  | some sink =>
    let delivery := Writer.sendLine sink entry
    ⟨delivery.result (), { session with diagnostics := some delivery.sink },
      { diagnostics := delivery.taken }⟩

/-- Answer a line. -/
def reply (session : Session κ γ σ) (text : String) (outcome : LineOutcome) :
    Step κ γ σ LineOutcome :=
  let delivery := Writer.sendLine session.output text
  ⟨delivery.result outcome, { session with output := delivery.sink },
    { output := delivery.taken }⟩

/-- What a handler on this session can act on. -/
def console (session : Session κ γ σ) : Console κ := ⟨session.output, session.cancelled⟩

/-- Take over what a handler did to its console, and note how it failed, if it did. -/
def conclude {τ : Type} (session : Session κ γ σ) (line : String) (dispatches : List Dispatch)
    (performance : Performance κ τ) : Step κ γ σ LineOutcome :=
  let acted : Step κ γ σ Unit := ⟨.ok (),
    { session with
      output := performance.console.output, cancelled := performance.console.cancelled },
    { output := performance.written, dispatches }⟩
  acted.andThen fun after => match performance.verdict.detail? with
    | none => ⟨.ok .handled, after, {}⟩
    | some detail =>
      (after.note (unexpectedEntry line detail)).andThen fun noted =>
        ⟨.ok (.handlerFailed detail), noted, {}⟩

/-- Leave what all handlers share and the state of one of them as this handler left them. -/
def leave (session : Session κ γ σ) (place : Nat) (state : γ × σ) : Session κ γ σ :=
  { session with common := state.1, states := session.states.set place state.2 }

/-- Hand a record to the handler of a command. -/
def dispatch (session : Session κ γ σ) (line : String) (place : Nat) (command : Command γ σ)
    (record : Record) : Step κ γ σ LineOutcome :=
  let state := (session.common, session.states[place]?.getD command.start)
  let performance := (command.handler state record).perform session.console
  let left := session.leave place performance.state
  left.conclude line [⟨place, record⟩] performance

end Session

namespace Shell

/-- Read a line and do what it says. -/
def processLine (shell : Shell γ σ) (line : String) (session : Session κ γ σ) :
    Step κ γ σ LineOutcome :=
  let tokens := Line.tokens line
  if tokens.isEmpty then ⟨.ok .skipped, session, {}⟩
  else match firstMatch? tokens shell.commands with
    | some ⟨place, command, .ok record⟩ => session.dispatch line place command record
    | some ⟨_, command, .error (.rejected rejection)⟩ =>
      (session.note (rejection.entry line)).andThen fun noted =>
        noted.reply (rejection.reply command.template.heading) (.rejected rejection)
    | some ⟨_, _, .error (.malformed error)⟩ =>
      (session.note (error.entry line)).andThen fun noted =>
        noted.reply error.reply (.malformed error)
    | none => match shell.helpAnswer? tokens with
      | some text =>
        session.conclude line [] ((Reaction.writeLine () text .done).perform session.console)
      | none => session.reply (notFoundReply shell.hint) .notFound

/-- Process lines until the session is cancelled or the input ends. The session is asked before
each line is read, so that a cancelled session leaves the rest of its input unread. -/
def runLines (shell : Shell γ σ) : List (List UInt8) → Session κ γ σ → Step κ γ σ Unit
  | [], session =>
    let session := { session with input.lines := [] }
    if session.cancelled || !session.input.breaks then ⟨.ok (), session, {}⟩
    else ⟨.error ⟨Input.breakage⟩, session, {}⟩
  | line :: rest, session =>
    if session.cancelled then ⟨.ok (), { session with input.lines := line :: rest }, {}⟩
    else
      let session := { session with input.lines := rest }
      if session.input.breaks && !Input.isEnded line then
        ⟨.error ⟨Input.breakage⟩, session, {}⟩
      else (shell.processLine (Input.lineText line) session).andThen fun after =>
        shell.runLines rest after

/-- Process what is left of the input. -/
def run (shell : Shell γ σ) (session : Session κ γ σ) : Step κ γ σ Unit :=
  shell.runLines session.input.lines session

end Shell

end Switchboard
