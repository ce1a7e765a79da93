import Switchboard.Handler
/-!
# Writers

A line is handed to a writer in two pieces, and the writer can refuse each of them. So what it takes
of a line is a beginning of the line (`Writer.sendLine_begins`). A writer that accepts all writes
takes the whole line, and a sink does so exactly when it has no limit (`Sink.accepts_iff`).
-/
namespace Switchboard

/-- The bytes of a text after another come after its bytes. -/
theorem Text.bytesOf_append (first second : String) :
    bytesOf (first ++ second) = bytesOf first ++ bytesOf second := by
  rw [bytesOf, String.toList_append, List.flatMap_append]
  rfl

variable {κ : Type} [Writer κ]

namespace Writer

/-! ## What is taken -/

/-- What a writer takes of some bytes is their beginning. -/
theorem offer_begins (sink : κ) (bytes : List UInt8) : (offer sink bytes).taken <+: bytes := by
  unfold offer
  by_cases nothing : bytes.isEmpty = true
  · rw [if_pos nothing]
    exact List.nil_prefix
  · rw [if_neg nothing]
    cases write sink bytes with
    | mk after refused =>
      cases refused with
      | none => exact List.prefix_rfl
      | some refusal => exact List.take_prefix refusal.taken bytes

/-- A writer that does not refuse any of some bytes takes them all. -/
theorem offer_whole {sink : κ} {bytes : List UInt8} (accepted : (offer sink bytes).refusal = none) :
    (offer sink bytes).taken = bytes := by
  unfold offer at accepted ⊢
  by_cases nothing : bytes.isEmpty = true
  · rw [if_pos nothing]
    exact (List.isEmpty_iff.mp nothing).symm
  · rw [if_neg nothing] at accepted ⊢
    cases written : write sink bytes with
    | mk after refused =>
      cases refused with
      | none => rfl
      | some refusal => simp [written] at accepted

/-- What a writer takes of a line is a beginning of it. -/
theorem offerLine_begins (sink : κ) (text : String) :
    (offerLine sink text).taken <+: Text.bytesOf (text ++ "\n") := by
  rw [Text.bytesOf_append, offerLine, Delivery.andThen]
  cases first : (offer sink (Text.bytesOf text)).refusal with
  | some reason => exact (offer_begins sink _).trans (List.prefix_append _ _)
  | none =>
    change (offer sink _).taken ++ _ <+: _
    rw [offer_whole first]
    exact (List.prefix_append_right_inj _).mpr (offer_begins _ _)

/-- Flushing a line takes nothing more. -/
theorem sendLine_taken (sink : κ) (text : String) :
    (sendLine sink text).taken = (offerLine sink text).taken := by
  rw [sendLine, Delivery.andThen]
  cases (offerLine sink text).refusal with
  | some reason => rfl
  | none => exact List.append_nil _

/-- What a writer takes of a line that is flushed is a beginning of it. -/
theorem sendLine_begins (sink : κ) (text : String) :
    (sendLine sink text).taken <+: Text.bytesOf (text ++ "\n") := by
  rw [sendLine_taken]
  exact offerLine_begins sink text

/-! ## Writers that accept all writes -/

/-- A writer accepts all writes, and they do not change it. -/
structure Accepts (sink : κ) : Prop where
  /-- It takes all bytes. -/
  write : ∀ bytes, Writer.write sink bytes = (sink, none)
  /-- It can always be flushed. -/
  flush : Writer.flush sink = (sink, none)

section Accepts

variable {sink : κ} (accepts : Accepts sink)

include accepts

/-- Bytes are taken by a writer that accepts all writes. -/
theorem Accepts.offer (bytes : List UInt8) : Writer.offer sink bytes = ⟨bytes, sink, none⟩ := by
  unfold Writer.offer
  by_cases nothing : bytes.isEmpty = true
  · rw [if_pos nothing, List.isEmpty_iff.mp nothing]
  · rw [if_neg nothing, accepts.write]

/-- A flush changes nothing in a writer that accepts all writes. -/
theorem Accepts.settle : Writer.settle sink = ⟨[], sink, none⟩ := by
  rw [Writer.settle, accepts.flush]

/-- A line is taken by a writer that accepts all writes. -/
theorem Accepts.offerLine (text : String) :
    Writer.offerLine sink text = ⟨Text.bytesOf (text ++ "\n"), sink, none⟩ := by
  simp only [Writer.offerLine, Delivery.andThen, accepts.offer, Text.bytesOf_append]

/-- A line that is flushed is taken by a writer that accepts all writes. -/
theorem Accepts.sendLine (text : String) :
    Writer.sendLine sink text = ⟨Text.bytesOf (text ++ "\n"), sink, none⟩ := by
  simp only [Writer.sendLine, Delivery.andThen, accepts.offerLine, accepts.settle, List.append_nil]

end Accepts

end Writer

/-- A sink accepts all writes exactly when it has no limit. -/
theorem Sink.accepts_iff {sink : Sink} : Writer.Accepts sink ↔ sink.room = none := by
  obtain ⟨limit, refusal⟩ := sink
  constructor
  · intro accepts
    cases limit with
    | none => rfl
    | some room =>
      -- One byte more than there is room for would be refused.
      have refused := congrArg Prod.snd (accepts.write (List.replicate (room + 1) 0))
      simp [Writer.write] at refused
  · rintro unlimited
    cases unlimited
    exact ⟨fun _ => rfl, rfl⟩

/-! ## Handlers that write one line -/

namespace Reaction

/-- What a handler that writes one line comes to on a console: the output takes the line, or it
refuses and the handler fails. -/
theorem writeLine_perform {τ : Type} (state : τ) (text : String) (verdict : Verdict)
    (console : Console κ) : (writeLine state text verdict).perform console =
      let line := Writer.offerLine console.output text
      ⟨state, (line.refusal.map Verdict.failed).getD verdict, { console with output := line.sink },
        line.taken⟩ := by
  simp only [writeLine, perform, Writer.offerLine, Delivery.andThen]
  cases first : (Writer.offer console.output (Text.bytesOf text)).refusal with
  | some reason =>
    simp only [perform, List.append_nil, first, Option.map_some, Option.getD_some]
  | none =>
    simp only [perform]
    cases (Writer.offer (Writer.offer console.output (Text.bytesOf text)).sink
        (Text.bytesOf "\n")).refusal with
    | some reason => simp only [perform, List.append_nil, Option.map_some, Option.getD_some]
    | none => simp only [perform, List.append_nil, Option.map_none, Option.getD_none]

/-- A handler that writes one line leaves the state that it names. -/
theorem writeLine_state {τ : Type} (state : τ) (text : String) (verdict : Verdict)
    (console : Console κ) : ((writeLine state text verdict).perform console).state = state := by
  rw [writeLine_perform]

/-- What a handler that writes one line writes is what the output takes of the line. -/
theorem writeLine_written {τ : Type} (state : τ) (text : String) (verdict : Verdict)
    (console : Console κ) : ((writeLine state text verdict).perform console).written =
      (Writer.offerLine console.output text).taken := by
  rw [writeLine_perform]

/-- A handler that writes a line to an output that accepts all writes ends as it says. -/
theorem writeLine_open {τ : Type} (state : τ) (text : String) (verdict : Verdict)
    {console : Console κ} (accepts : Writer.Accepts console.output) :
    (writeLine state text verdict).perform console =
      ⟨state, verdict, console, Text.bytesOf (text ++ "\n")⟩ := by
  simp only [writeLine_perform, accepts.offerLine, Option.map_none, Option.getD_none]

/-- A handler leaves an output that accepts all writes as it is. -/
theorem perform_open {τ : Type} (reaction : Reaction τ) {console : Console κ}
    (accepts : Writer.Accepts console.output) :
    (reaction.perform console).console.output = console.output := by
  induction reaction generalizing console with
  | finish state verdict => rfl
  | write bytes next ih =>
    simp only [perform, accepts.offer]
    exact ih none accepts
  | flush next ih =>
    simp only [perform, accepts.settle]
    exact ih none accepts
  | cancel next ih =>
    have kept : (next.perform { console with cancelled := true }).console.output =
        console.output := ih accepts
    rw [perform, kept]
  | askCancelled next ih => exact ih console.cancelled accepts

end Reaction

end Switchboard
