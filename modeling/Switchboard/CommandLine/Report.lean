import Switchboard.CommandLine.Request
import Switchboard.Registry.Commands
import Switchboard.Registry.Loading
import Switchboard.Shell.Session

/-!
# Reports

What an invocation comes to is worked out from what is in the file of the registry, from what the
error log takes, if it can be opened, and from the input. An invocation fails at the first thing
that is wrong, with one line that says what it is. Of a file that is no registry this line repeats
what the reader of documents says, in its own words.
-/
namespace Switchboard

/-- Why a file is no registry. -/
inductive LoadFailure where
  | unreadable (cause : String)
  | unfit (complaint : String)
  deriving DecidableEq, Repr

/-- What is in a file that can be read. -/
structure RegistryFile where
  /-- The document in the file, if it holds one. -/
  document : Option Document
  /-- What the reader of documents says of the file if no registry can be made of it. -/
  complaint : String

/-- Why an invocation fails. -/
inductive Failure where
  | load (path : String) (cause : LoadFailure)
  | log (path cause : String)
  | parameter (ambiguous : AmbiguousParameter)
  | registry (defect : Defect)
  | commands (defect : Defect)
  | interrupted (interruption : Interruption)
  deriving DecidableEq, Repr

/-- The cause in words. -/
def LoadFailure.message : LoadFailure → String
  | unreadable cause => s!"IO error: {cause}"
  | unfit complaint => s!"YAML error: {complaint}"

/-- The failure in words. -/
def Failure.message : Failure → String
  | load path cause => s!"Failed to load registry '{path}': {cause.message}"
  | log path cause => s!"Failed to open '{path}': {cause}"
  | parameter ambiguous => ambiguous.message
  | registry defect => s!"invalid registry: {defect.message}"
  | commands defect => defect.message
  | interrupted interruption => interruption.message

/-- What is printed of a failure. -/
def Failure.errorText (failure : Failure) : String := s!"error: {failure.message}\n"

namespace Registry

/-- The registry of a file, of which it is given what is in it, or why it cannot be read. -/
def ofFile (file : Except String RegistryFile) : Except LoadFailure Registry :=
  match file with
  | .error cause => .error (.unreadable cause)
  | .ok file => match file.document.bind load with
    | none => .error (.unfit file.complaint)
    | some registry => .ok registry

/-- The registration of a registry, with no more help than the registry itself asks for. -/
def register (registry : Registry) : Except Failure (Registration Unit Unit) :=
  match registry.registration .off with
  | .error ambiguous => .error (.parameter ambiguous)
  | .ok registration => .ok registration

/-- The shell of a registry. -/
def shell (registry : Registry) : Except Failure (Shell Unit Unit) := do
  let registration ← registry.register
  match registration.build with
  | .error defect => .error (.registry defect)
  | .ok shell => .ok shell

/-- The shell of a registry at the beginning of its session, with an error log or without. -/
def session (registry : Registry) (log : Option Sink) (input : Input) :
    Except Failure (Shell Unit Unit × Session Sink Unit Unit) := do
  let shell ← registry.shell
  pure (shell, shell.session () .unlimited log input)

/-- What the check of a registry prints. -/
def checkText (registry : Registry) : Except Failure String := do
  let _ ← registry.shell
  pure s!"ok: {registry.commandCount} commands\n"

/-- What the help on a registry prints. -/
def helpPage (registry : Registry) : Except Failure String := do
  let registration ← registry.register
  match registration.build with
  | .error defect => .error (.commands defect)
  | .ok _ => pure (registration.helpText ++ "\n")

end Registry

/-- What an invocation depends on. -/
structure Surroundings where
  /-- What is in the file at a path, or why it cannot be read. -/
  read : String → Except String RegistryFile
  /-- What takes the text for the error log at a path, or why the log cannot be opened. -/
  openLog : String → Except String Sink
  /-- The input of a session. -/
  input : Input

/-- What an invocation comes to. -/
structure Report where
  /-- What it prints. -/
  output : List UInt8 := []
  /-- Whether the error log was opened, which creates it. -/
  logOpened : Bool := false
  /-- What it appends to the error log. -/
  logged : List UInt8 := []
  /-- Why it failed, if it did. -/
  failure : Option Failure := none

namespace Report

/-- The report of a text or a failure. -/
def ofText : Except Failure String → Report
  | .ok text => { output := Text.bytesOf text }
  | .error failure => { failure := some failure }

/-- The report of a step of a session, with an error log or without. -/
def ofStep (logOpened : Bool) (step : Step Sink Unit Unit Unit) : Report where
  output := step.trace.output
  logOpened := logOpened
  logged := step.trace.diagnostics
  failure := match step.result with
    | .ok () => none
    | .error interruption => some (.interrupted interruption)

/-- The exit code of an invocation. -/
def code (report : Report) : Nat := if report.failure.isSome then 1 else 0

/-- What an invocation prints for errors. -/
def errorText (report : Report) : String :=
  match report.failure with
  | none => ""
  | some failure => failure.errorText

end Report

namespace Invocation

/-- The path of the registry. -/
def registry : Invocation → String
  | check path => path
  | help path => path
  | run path _ => path

/-- The registry of an invocation, of which it is given what is in its file. -/
def load (invocation : Invocation) (file : Except String RegistryFile) : Except Failure Registry :=
  (Registry.ofFile file).mapError (.load invocation.registry)

/-- The session of a registry on some input, with an error log or without. -/
def runSession (registry : Registry) (log : Option Sink) (input : Input) : Report :=
  match registry.session log input with
  | .error failure => { logOpened := log.isSome, failure := some failure }
  | .ok (shell, session) => .ofStep log.isSome (shell.run session)

/-- What an invocation comes to. The error log is opened before the registry is validated. -/
def report (surroundings : Surroundings) (invocation : Invocation) : Report :=
  match invocation.load (surroundings.read invocation.registry) with
  | .error failure => { failure := some failure }
  | .ok registry => match invocation with
    | check _ => .ofText registry.checkText
    | help _ => .ofText registry.helpPage
    | run _ none => runSession registry none surroundings.input
    | run _ (some path) => match surroundings.openLog path with
      | .error cause => { failure := some (.log path cause) }
      | .ok log => runSession registry (some log) surroundings.input

end Invocation

end Switchboard
