import Switchboard.Record
import Switchboard.Sink

/-!
# Handlers

A handler does the work of a command. It receives the record of a line, its own state and what it
shares with the other handlers, and reacts step by step: it writes to the output or flushes it,
cancels the session or asks whether it is cancelled, and at last gives a verdict and the new states.
It learns of each write and each flush whether the output refused.
-/
namespace Switchboard

/-- How a handler ends. -/
inductive Verdict where
  | done
  | failed (message : String)
  | panicked (message : Option String)
  deriving DecidableEq, Repr

/-- What went wrong in a handler, in words; nothing if it succeeded. -/
def Verdict.detail? : Verdict → Option String
  | done => none
  | failed message => some message
  | panicked message => some ("handler panicked: " ++ message.getD "handler panicked")

/-- What a handler does with one record, its states being a `σ`. -/
inductive Reaction (σ : Type) where
  | finish (state : σ) (verdict : Verdict)
  | write (bytes : List UInt8) (next : Option String → Reaction σ)
  | flush (next : Option String → Reaction σ)
  | cancel (next : Reaction σ)
  | askCancelled (next : Bool → Reaction σ)

/-- The work of a command: a reaction to each record, which may depend on what all handlers share,
a `γ`, and on the state of this one, a `σ`. -/
abbrev Handler (γ σ : Type) := γ × σ → Record → Reaction (γ × σ)

/-- What a handler can act on. -/
structure Console (κ : Type) where
  /-- Where the handler writes. -/
  output : κ
  /-- Whether the session is cancelled. -/
  cancelled : Bool

/-- What one run of a handler leaves behind. -/
structure Performance (κ σ : Type) where
  /-- The states of the handler. -/
  state : σ
  /-- How the handler ended. -/
  verdict : Verdict
  /-- What the handler acted on. -/
  console : Console κ
  /-- The bytes that the output took. -/
  written : List UInt8

namespace Reaction

variable {κ γ σ : Type} [Writer κ]

/-- Write a text and then a line break, and end: with the refusal if the output refuses, and else
with the given verdict. -/
def writeLine (state : σ) (text : String) (verdict : Verdict) : Reaction σ :=
  write (Text.bytesOf text) fun refusal => match refusal with
    | some reason => finish state (.failed reason)
    | none => write (Text.bytesOf "\n") fun refusal => match refusal with
      | some reason => finish state (.failed reason)
      | none => finish state verdict

/-- Go through a reaction on a console. -/
def perform : Reaction σ → Console κ → Performance κ σ
  | finish state verdict, console => ⟨state, verdict, console, []⟩
  | write bytes next, console =>
    let delivery := Writer.offer console.output bytes
    let performance := (next delivery.refusal).perform { console with output := delivery.sink }
    { performance with written := delivery.taken ++ performance.written }
  | flush next, console =>
    let delivery := Writer.settle console.output
    (next delivery.refusal).perform { console with output := delivery.sink }
  | cancel next, console => next.perform { console with cancelled := true }
  | askCancelled next, console => (next console.cancelled).perform console

/-- The same reaction with another state of the handler itself at its end. -/
def restate (state : σ) : Reaction (γ × σ) → Reaction (γ × σ)
  | finish (common, _) verdict => finish (common, state) verdict
  | write bytes next => write bytes fun refusal => (next refusal).restate state
  | flush next => flush fun refusal => (next refusal).restate state
  | cancel next => cancel (next.restate state)
  | askCancelled next => askCancelled fun cancelled => (next cancelled).restate state

end Reaction

/-- A handler made afresh for every line: each of its runs begins in the same state of its own. -/
def Handler.perLine {γ σ : Type} (start : σ) (handler : Handler γ σ) : Handler γ σ :=
  fun (common, state) record => (handler (common, start) record).restate state

end Switchboard
