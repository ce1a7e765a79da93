import Switchboard.CommandLine.Report
import Switchboard.Registry.Yaml.Reading

/-!
# Program

The outer layer of the program: it reads files and the standard input, and prints. A session reads
its input as it comes, line by line, which comes to running on all of it: `Shell.feed_runLines`.
-/
namespace Switchboard.Program

/-- The cause of a failed file operation, in words. -/
def causeOf : IO.Error → String
  | .noFileOrDirectory _ code details => s!"{details} (os error {code})"
  | .permissionDenied _ code details => s!"{details} (os error {code})"
  | .inappropriateType _ code details => s!"{details} (os error {code})"
  | .invalidArgument _ code details => s!"{details} (os error {code})"
  | .resourceExhausted _ code details => s!"{details} (os error {code})"
  | error => toString error

/-- What the program says of a file that is no registry. -/
def complaint : String := "the document does not describe a registry"

/-- What is in the file at a path. A file that opens holds no document if it cannot be read to its
end or is no text. -/
def readRegistry (path : String) : IO (Except String RegistryFile) := do
  match ← (IO.FS.Handle.mk path .read).toBaseIO with
  | .error error => return .error (causeOf error)
  | .ok handle => match ← handle.readBinToEnd.toBaseIO with
    | .error _ => return .ok ⟨none, complaint⟩
    | .ok bytes => return .ok ⟨(String.fromUTF8? bytes).bind Yaml.read?, complaint⟩

/-- The next line of the input and the bytes that are read beyond it. -/
partial def nextLine (input : IO.FS.Stream) (pending : List UInt8) :
    IO (List UInt8 × List UInt8) := do
  match pending.span (· ≠ 10) with
  | (before, lineBreak :: after) => return (before ++ [lineBreak], after)
  | (before, []) =>
    let block ← input.read 4096
    if block.isEmpty then return (before, []) else nextLine input (before ++ block.toList)

/-- Print bytes at once. -/
def emit (output : IO.FS.Stream) (bytes : List UInt8) : IO Unit := do
  output.write ⟨bytes.toArray⟩
  output.flush

/-- Append bytes to the error log at once, and tell why it does not take them, if it does not. -/
def append (log : IO.FS.Handle) (bytes : List UInt8) : IO (Option Failure) := do
  match ← (do log.write ⟨bytes.toArray⟩; log.flush : IO Unit).toBaseIO with
  | .ok () => return none
  | .error error => return some (.interrupted ⟨causeOf error⟩)

/-- Open the error log at a path to append to it. -/
def openLog (path : String) : IO (Except Failure IO.FS.Handle) := do
  match ← (IO.FS.Handle.mk path .append).toBaseIO with
  | .error error => return .error (.log path (causeOf error))
  | .ok handle => return .ok handle

/-- Run a session on the input as it comes, and append its diagnostics to a log. A line is answered
once its failure is noted. -/
partial def converse (shell : Shell Unit Unit) (log : Option IO.FS.Handle) (pending : List UInt8)
    (session : Session Sink Unit Unit) : IO (Option Failure) := do
  if session.cancelled then return none
  let (line, after) ← nextLine (← IO.getStdin) pending
  if line.isEmpty then return none
  let step := shell.runLines [line] session
  let report := Report.ofStep log.isSome step
  if let some handle := log then
    if let some failure ← append handle report.logged then return some failure
  emit (← IO.getStdout) report.output
  if report.failure.isSome then return report.failure
  converse shell log after step.session

/-- Run a session of a registry. -/
def runSession (registry : Registry) (errorLog : Option String) : IO (Option Failure) := do
  let mut log : Option IO.FS.Handle := none
  if let some path := errorLog then
    match ← openLog path with
    | .error failure => return some failure
    | .ok handle => log := some handle
  match registry.session (log.map fun _ => .unlimited) ⟨[], false⟩ with
  | .error failure => return some failure
  | .ok (shell, session) => converse shell log [] session

/-- Do what an invocation asks for, and tell why it failed, if it did. Only a run needs more than
what is in the file of the registry. -/
def perform (invocation : Invocation) : IO (Option Failure) := do
  let file ← readRegistry invocation.registry
  match invocation, invocation.load file with
  | .run _ errorLog, .ok registry => runSession registry errorLog
  | _, _ =>
    let report := invocation.report {
      read := fun _ => file
      openLog := fun _ => .ok .unlimited
      input := ⟨[], false⟩ }
    emit (← IO.getStdout) report.output
    return report.failure

end Switchboard.Program

open Switchboard in
/-- The program: 0 if it did what it was asked for, 1 if it could not, 2 if it was not told what. -/
def main (arguments : List String) : IO UInt32 := do
  match Request.read arguments with
  | .misuse =>
    Program.emit (← IO.getStderr) (Text.bytesOf Request.overview)
    return 2
  | .guide subcommand =>
    Program.emit (← IO.getStdout) (Text.bytesOf (Request.guideText subcommand))
    return 0
  | .perform invocation => match ← Program.perform invocation with
    | none => return 0
    | some failure =>
      Program.emit (← IO.getStderr) (Text.bytesOf (failure.errorText))
      return 1
