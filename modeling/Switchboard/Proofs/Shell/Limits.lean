import Switchboard.Proofs.Shell.Failures
/-!
# Lines on sinks with limits

A sink with a limit takes what it has room for and refuses the rest. What a line comes to on such
sinks is told by what it comes to on sinks that accept all writes: for any commands, it sends a
beginning of the same, and it sends the same and leaves the same session unless a sink refuses
(`Shell.processLine_curbed`). For a line that is answered, or whose handler writes one text, it is
told in full (`Step.Truncated`).
-/
namespace Switchboard

variable {γ σ : Type}

/-! ## Sinks with limits -/

namespace Sink

/-- A sink takes all of some bytes. -/
def Takes (sink : Sink) (bytes : List UInt8) : Prop :=
  ∀ room, sink.room = some room → bytes.length ≤ room

/-- A sink takes the first bytes, for which it has room, and refuses the others. -/
def Cuts (sink : Sink) (bytes taken : List UInt8) : Prop :=
  ∃ room, sink.room = some room ∧ room < bytes.length ∧ taken = bytes.take room

/-- A sink when it has taken all that it takes. -/
def spent (sink : Sink) : Sink := { sink with room := some 0 }

/-- Of the room of a sink, some bytes and the room of the other sink are all. -/
def Spends (sink after : Sink) (bytes : List UInt8) : Prop :=
  ∀ room, sink.room = some room → ∃ left, after.room = some left ∧ bytes.length + left = room

/-- A sink always takes nothing. -/
theorem takes_nil (sink : Sink) : sink.Takes [] := fun room _ => Nat.zero_le room

/-- What comes of offering bytes to a sink. -/
theorem offer_eq (sink : Sink) (bytes : List UInt8) : Writer.offer sink bytes =
    match sink.room with
    | none => ⟨bytes, sink, none⟩
    | some room => ⟨bytes.take room, { sink with room := some (room - bytes.length) },
        if bytes.length ≤ room then none else some sink.refusal⟩ := by
  obtain ⟨limit, refusal⟩ := sink
  cases bytes with
  | nil =>
    cases limit with
    | none => rfl
    | some room => simp [Writer.offer]
  | cons byte bytes =>
    cases limit with
    | none => rfl
    | some room =>
      by_cases fits : (byte :: bytes).length ≤ room
      · simp only [Writer.offer, Writer.write, if_pos fits, List.take_of_length_le fits]
        rfl
      · simp only [Writer.offer, Writer.write, if_neg fits]
        rfl

/-- Offering bytes and then others comes to offering them together. -/
theorem offer_append (sink : Sink) (first second : List UInt8) :
    Writer.offer sink (first ++ second) =
      (Writer.offer sink first).andThen fun after => Writer.offer after second := by
  obtain ⟨limit, refusal⟩ := sink
  cases limit with
  | none => simp only [offer_eq, Delivery.andThen]
  | some room =>
    simp only [offer_eq, Delivery.andThen, List.length_append, List.take_append]
    by_cases fits : first.length ≤ room
    · have left : room - (first.length + second.length) = room - first.length - second.length := by
        omega
      have both : first.length + second.length ≤ room ↔ second.length ≤ room - first.length := by
        omega
      simp only [if_pos fits, left, both]
    · have nothing : room - first.length = 0 := by omega
      have neither : ¬ first.length + second.length ≤ room := by omega
      have left : room - (first.length + second.length) = 0 := by omega
      simp only [if_neg fits, if_neg neither, nothing, left, List.take_zero, List.append_nil]

/-- Offering a line in pieces comes to offering it as a whole. -/
theorem offerLine_eq (sink : Sink) (text : String) :
    Writer.offerLine sink text = Writer.offer sink (Text.bytesOf (text ++ "\n")) := by
  rw [Text.bytesOf_append, offer_append, Writer.offerLine]

/-- Sending a line comes to offering it as a whole. -/
theorem sendLine_eq (sink : Sink) (text : String) :
    Writer.sendLine sink text = Writer.offer sink (Text.bytesOf (text ++ "\n")) := by
  rw [← offerLine_eq, Writer.sendLine]
  generalize Writer.offerLine sink text = line
  obtain ⟨taken, after, refusal⟩ := line
  cases refusal with
  | some reason => rfl
  | none =>
    change Delivery.mk (taken ++ []) after none = _
    rw [List.append_nil]

/-- A sink takes all of some bytes, or refuses some of them and has no room left. -/
theorem offer_cases (sink : Sink) (bytes : List UInt8) :
    (sink.Takes bytes ∧ ∃ after, Writer.offer sink bytes = ⟨bytes, after, none⟩) ∨
      ∃ taken, sink.Cuts bytes taken ∧
        Writer.offer sink bytes = ⟨taken, sink.spent, some sink.refusal⟩ := by
  rw [offer_eq]
  obtain ⟨limit, refusal⟩ := sink
  cases limit with
  | none => exact .inl ⟨nofun, _, rfl⟩
  | some room =>
    by_cases fits : bytes.length ≤ room
    · refine .inl ⟨fun _ same => Option.some.inj same ▸ fits,
        ⟨some (room - bytes.length), refusal⟩, ?_⟩
      simp only [List.take_of_length_le fits, if_pos fits]
    · have none_left : room - bytes.length = 0 := by omega
      refine .inr ⟨bytes.take room, ⟨room, rfl, by omega, rfl⟩, ?_⟩
      simp only [none_left, if_neg fits, spent]

/-- What a sink refuses in part it takes a beginning of. -/
theorem Cuts.begins {sink : Sink} {bytes taken : List UInt8} (cuts : sink.Cuts bytes taken) :
    taken <+: bytes := by
  obtain ⟨room, _, _, rfl⟩ := cuts
  exact List.take_prefix room bytes

/-- No bytes take no room. -/
theorem Spends.refl (sink : Sink) : sink.Spends sink [] :=
  fun room limit => ⟨room, limit, Nat.zero_add room⟩

/-- Bytes after others take their room together. -/
theorem Spends.trans {sink between after : Sink} {first second : List UInt8}
    (spends : sink.Spends between first) (later : between.Spends after second) :
    sink.Spends after (first ++ second) := by
  intro room limit
  obtain ⟨middle, limit, sum⟩ := spends room limit
  obtain ⟨left, limit, rest⟩ := later middle limit
  refine ⟨left, limit, ?_⟩
  rw [List.length_append]
  omega

/-- What a sink takes is taken from its room. -/
theorem offer_spends (sink : Sink) (bytes : List UInt8) :
    sink.Spends (Writer.offer sink bytes).sink (Writer.offer sink bytes).taken := by
  intro room limit
  refine ⟨room - bytes.length, ?_, ?_⟩
  · simp only [offer_eq, limit]
  · simp only [offer_eq, limit, List.length_take]
    omega

/-- Of a sink without room nothing is taken, and it stays so. -/
theorem Spends.nothing {sink after : Sink} {bytes : List UInt8} (spends : sink.Spends after bytes)
    (full : sink.room = some 0) : bytes = [] ∧ after.room = some 0 := by
  obtain ⟨left, limit, sum⟩ := spends 0 full
  have empty : bytes.length = 0 := by omega
  have zero : left = 0 := by omega
  exact ⟨List.length_eq_zero_iff.mp empty, zero ▸ limit⟩

end Sink

/-! ## Sessions without limits -/

/-- A console whose output accepts all writes. -/
def Console.opened (console : Console Sink) : Console Sink := { console with output := .unlimited }

/-- A session whose sinks accept all writes. -/
def Session.opened (session : Session Sink γ σ) : Session Sink γ σ :=
  { session with
    output := .unlimited, diagnostics := session.diagnostics.map fun _ => .unlimited }

/-! ## Handlers -/

/-- What a handler does, beside what it does on an output that accepts all writes. -/
inductive Performance.Curbed {τ : Type} (free : Performance Sink τ) :
    Performance Sink τ → Prop where
  /-- The output has no room left. -/
  | spent {performance : Performance Sink τ} (begins : performance.written <+: free.written)
      (full : performance.console.output.room = some 0) : Curbed free performance
  /-- The same is done. -/
  | alike {performance : Performance Sink τ}
      (same : free = { performance with console := performance.console.opened }) :
      Curbed free performance

/-- What is written alike before does not matter. -/
theorem Performance.Curbed.prepend {τ : Type} {free performance : Performance Sink τ}
    (curbed : Curbed free performance) (bytes : List UInt8) :
    Curbed { free with written := bytes ++ free.written }
      { performance with written := bytes ++ performance.written } := by
  cases curbed with
  | spent begins full => exact .spent ((List.prefix_append_right_inj bytes).mpr begins) full
  | alike same =>
    refine .alike ?_
    rw [same]

namespace Reaction

/-- What a handler writes is taken from the room of the output. -/
theorem perform_spends (reaction : Reaction σ) (console : Console Sink) :
    console.output.Spends (reaction.perform console).console.output
      (reaction.perform console).written := by
  induction reaction generalizing console with
  | finish state verdict => exact .refl console.output
  | write bytes next ih =>
    let delivery := Writer.offer console.output bytes
    have later := ih delivery.refusal { console with output := delivery.sink }
    exact (console.output.offer_spends bytes).trans later
  | flush next ih => exact ih none console
  | cancel next ih => exact ih { console with cancelled := true }
  | askCancelled next ih => exact ih console.cancelled console

/-- A handler does the same where all is accepted, until the output has no room left. -/
theorem perform_curbed (reaction : Reaction σ) (console : Console Sink) :
    Performance.Curbed (reaction.perform console.opened) (reaction.perform console) := by
  induction reaction generalizing console with
  | finish state verdict => exact .alike rfl
  | cancel next ih => exact ih { console with cancelled := true }
  | askCancelled next ih => exact ih console.cancelled console
  | flush next ih => exact ih none console
  | write bytes next ih =>
    have free : Writer.offer Sink.unlimited bytes = ⟨bytes, .unlimited, none⟩ :=
      Sink.offer_eq .unlimited bytes
    rcases console.output.offer_cases bytes with ⟨_, after, takes⟩ | ⟨taken, cuts, refuses⟩
    · simp only [perform, Console.opened, free, takes]
      exact (ih none { console with output := after }).prepend bytes
    · -- Whatever the handler does when it learns of the refusal, no more is taken.
      let told := some console.output.refusal
      have later := (next told).perform_spends { console with output := console.output.spent }
      obtain ⟨nothing, full⟩ := later.nothing rfl
      simp only [perform, Console.opened, free, refuses]
      refine .spent ?_ full
      change taken ++ ((next told).perform _).written <+: _
      rw [nothing, List.append_nil]
      exact cuts.begins.trans (List.prefix_append _ _)

end Reaction

/-! ## One line -/

/-- What a line comes to, beside what it comes to on sinks that accept all writes. -/
inductive Step.Curbed {α : Type} (free : Step Sink γ σ α) : Step Sink γ σ α → Prop where
  /-- The line is interrupted. -/
  | interrupted {step : Step Sink γ σ α} {interruption : Interruption}
      (begins : step.trace.output <+: free.trace.output)
      (failed : step.result = .error interruption) : Curbed free step
  /-- The output has no room left. -/
  | spent {step : Step Sink γ σ α} (begins : step.trace.output <+: free.trace.output)
      (full : step.session.output.room = some 0) : Curbed free step
  /-- The line has an outcome, and sends the same. -/
  | alike {step : Step Sink γ σ α} {value : α} (result : free.result = .ok value)
      (sent : free.trace.output = step.trace.output) (after : free.session = step.session.opened) :
      Curbed free step

/-- What a curbed line sends is a beginning of what it sends where all is accepted. -/
theorem Step.Curbed.begins {α : Type} {free step : Step Sink γ σ α} (curbed : Curbed free step) :
    step.trace.output <+: free.trace.output := by
  cases curbed with
  | interrupted begins | spent begins => exact begins
  | alike _ sent _ => exact sent ▸ List.prefix_rfl

namespace Trace

/-- What is noted and what is sent after it are added together. -/
theorem noted_sent (diagnostics output : List UInt8) :
    ({ diagnostics } : Trace) ++ { output } = { output, diagnostics } := by
  change Trace.mk ([] ++ output) (diagnostics ++ []) ([] ++ []) = _
  rw [List.append_nil]
  rfl

/-- What a handler does and what is noted after it are added together. -/
theorem done_noted (output diagnostics : List UInt8) (dispatches : List Dispatch) :
    ({ output, dispatches } : Trace) ++ { diagnostics } = { output, diagnostics, dispatches } := by
  change Trace.mk (output ++ []) ([] ++ diagnostics) (dispatches ++ []) = _
  rw [List.append_nil, List.append_nil]
  rfl

end Trace

namespace Session

/-- The diagnostics take an entry, or they take a beginning of it and the step is interrupted. -/
theorem note_cases (session : Session Sink γ σ) (entry : String) :
    ((∀ sink, session.diagnostics = some sink → sink.Takes (Text.bytesOf (entry ++ "\n"))) ∧
      ∃ after, session.note entry = ⟨.ok (), { session with diagnostics := after },
          { diagnostics := session.noted entry }⟩ ∧
        ({ session with diagnostics := after } : Session Sink γ σ).opened = session.opened) ∨
    ∃ sink taken, session.diagnostics = some sink ∧
      sink.Cuts (Text.bytesOf (entry ++ "\n")) taken ∧
      session.note entry = ⟨.error ⟨sink.refusal⟩, { session with diagnostics := some sink.spent },
        { diagnostics := taken }⟩ := by
  obtain ⟨common, states, output, diagnostics, cancelled, input⟩ := session
  cases diagnostics with
  | none => exact .inl ⟨nofun, none, rfl, rfl⟩
  | some sink =>
    rcases sink.offer_cases (Text.bytesOf (entry ++ "\n")) with
      ⟨takes, after, taken⟩ | ⟨taken, cuts, refuses⟩
    · refine .inl ⟨fun _ same => Option.some.inj same ▸ takes, some after, ?_, rfl⟩
      simp only [note, Sink.sendLine_eq, taken]
      rfl
    · refine .inr ⟨sink, taken, rfl, cuts, ?_⟩
      simp only [note, Sink.sendLine_eq, refuses]
      rfl

/-- The output takes a reply, or it takes a beginning of it and the step is interrupted. -/
theorem reply_cases (session : Session Sink γ σ) (text : String) (outcome : LineOutcome) :
    (session.output.Takes (Text.bytesOf (text ++ "\n")) ∧
      ∃ after, session.reply text outcome = ⟨.ok outcome, { session with output := after },
        { output := Text.bytesOf (text ++ "\n") }⟩) ∨
    ∃ taken, session.output.Cuts (Text.bytesOf (text ++ "\n")) taken ∧
      session.reply text outcome = ⟨.error ⟨session.output.refusal⟩,
        { session with output := session.output.spent }, { output := taken }⟩ := by
  rcases session.output.offer_cases (Text.bytesOf (text ++ "\n")) with
    ⟨takes, after, taken⟩ | ⟨taken, cuts, refuses⟩
  · refine .inl ⟨takes, after, ?_⟩
    simp only [reply, Sink.sendLine_eq, taken]
    rfl
  · refine .inr ⟨taken, cuts, ?_⟩
    simp only [reply, Sink.sendLine_eq, refuses]
    rfl

/-- An entry is all that is noted of a failure, if there are diagnostics. -/
theorem noted_held {session : Session Sink γ σ} {sink : Sink}
    (held : session.diagnostics = some sink) (entry : String) :
    session.noted entry = Text.bytesOf (entry ++ "\n") := by
  rw [noted, held]
  rfl

/-- A session without limits notes as much. -/
theorem opened_noted (session : Session Sink γ σ) (entry : String) :
    session.opened.noted entry = session.noted entry := by
  rw [noted, noted, opened, Option.isSome_map]

/-- The output of a session without limits accepts all writes. -/
theorem opened_output (session : Session Sink γ σ) : Writer.Accepts session.opened.output :=
  Sink.accepts_iff.mpr rfl

/-- The diagnostics of a session without limits accept all writes. -/
theorem opened_diagnostics (session : Session Sink γ σ) {sink : Sink}
    (held : session.opened.diagnostics = some sink) : Writer.Accepts sink := by
  obtain ⟨_, _, rfl⟩ := Option.map_eq_some_iff.mp held
  exact Sink.accepts_iff.mpr rfl

/-- A session without limits notes an entry and stays as it is. -/
theorem opened_note (session : Session Sink γ σ) (entry : String) : session.opened.note entry =
    ⟨.ok (), session.opened, { diagnostics := session.noted entry }⟩ := by
  rw [note_open fun _ held => session.opened_diagnostics held, opened_noted]

/-- A session without limits notes and answers a failure and stays as it is. -/
theorem opened_answer (session : Session Sink γ σ) (entry text : String) (outcome : LineOutcome) :
    ((session.opened.note entry).andThen fun noted => noted.reply text outcome) =
      ⟨.ok outcome, session.opened,
        { output := Text.bytesOf (text ++ "\n"), diagnostics := session.noted entry }⟩ := by
  simp only [opened_note, Step.andThen, reply_open session.opened_output, Trace.noted_sent]

end Session

/-- What a line comes to on some sinks, told by what it comes to on sinks that accept all writes:
of what it sends and notes there, all is taken, or what is refused decides. -/
inductive Step.Truncated (output : Sink) (diagnostics : Option Sink) (line : String)
    (whole : Step Sink γ σ LineOutcome) : Step Sink γ σ LineOutcome → Prop where
  /-- All is taken: the line comes to the same. -/
  | untouched {outcome : LineOutcome} {after : Session Sink γ σ}
      (result : whole.result = .ok outcome) (session : whole.session = after.opened)
      (sent : output.Takes whole.trace.output)
      (noted : ∀ sink, diagnostics = some sink → sink.Takes whole.trace.diagnostics) :
      Truncated output diagnostics line whole ⟨.ok outcome, after, whole.trace⟩
  /-- The diagnostics refuse an entry: the line is interrupted and not answered. -/
  | entry {outcome : LineOutcome} {after : Session Sink γ σ} {sink : Sink} {taken : List UInt8}
      (result : whole.result = .ok outcome) (idle : outcome.isIdle = true)
      (held : diagnostics = some sink) (cuts : sink.Cuts whole.trace.diagnostics taken) :
      Truncated output diagnostics line whole
        ⟨.error ⟨sink.refusal⟩, after, { diagnostics := taken }⟩
  /-- The output refuses a reply: the line is interrupted. -/
  | reply {outcome : LineOutcome} {after : Session Sink γ σ} {taken : List UInt8}
      (result : whole.result = .ok outcome) (idle : outcome.isIdle = true)
      (noted : ∀ sink, diagnostics = some sink → sink.Takes whole.trace.diagnostics)
      (cuts : output.Cuts whole.trace.output taken) :
      Truncated output diagnostics line whole
        ⟨.error ⟨output.refusal⟩, after, { whole.trace with output := taken }⟩
  /-- The output refuses what a handler writes: the handler fails, which is noted, and the line has
  an outcome. -/
  | handler {after : Session Sink γ σ} {taken : List UInt8} (result : whole.result = .ok .handled)
      (cuts : output.Cuts whole.trace.output taken) (spent : after.output = output.spent)
      (noted : ∀ sink, diagnostics = some sink →
        sink.Takes (Text.bytesOf (unexpectedEntry line output.refusal ++ "\n"))) :
      Truncated output diagnostics line whole ⟨.ok (.handlerFailed output.refusal), after,
        { whole.trace with
          output := taken
          diagnostics := if diagnostics.isSome
            then Text.bytesOf (unexpectedEntry line output.refusal ++ "\n") else [] }⟩
  /-- The output refuses what a handler writes, and the diagnostics refuse to note that the handler
  fails: the line is interrupted. -/
  | handlerEntry {after : Session Sink γ σ} {sink : Sink} {taken noted : List UInt8}
      (result : whole.result = .ok .handled) (cuts : output.Cuts whole.trace.output taken)
      (held : diagnostics = some sink)
      (refused : sink.Cuts (Text.bytesOf (unexpectedEntry line output.refusal ++ "\n")) noted) :
      Truncated output diagnostics line whole ⟨.error ⟨sink.refusal⟩, after,
        { whole.trace with output := taken, diagnostics := noted }⟩

/-- A truncated line is curbed. -/
theorem Step.Truncated.curbed {output : Sink} {diagnostics : Option Sink} {line : String}
    {whole step : Step Sink γ σ LineOutcome}
    (truncated : Truncated output diagnostics line whole step) : Step.Curbed whole step := by
  cases truncated with
  | untouched result session => exact .alike result rfl session
  | entry => exact .interrupted List.nil_prefix rfl
  | reply _ _ _ cuts => exact .interrupted cuts.begins rfl
  | handler _ cuts spent _ => exact .spent cuts.begins (by rw [spent]; rfl)
  | handlerEntry _ cuts _ _ => exact .interrupted cuts.begins rfl

namespace Session

variable (session : Session Sink γ σ) (line : String)

/-- A reply is all that a line that fits no command is answered with. -/
theorem reply_truncated (text : String) {outcome : LineOutcome} (idle : outcome.isIdle = true) :
    Step.Truncated session.output session.diagnostics line (session.opened.reply text outcome)
      (session.reply text outcome) := by
  rw [reply_open session.opened_output]
  rcases session.reply_cases text outcome with ⟨takes, after, replied⟩ | ⟨taken, cuts, refused⟩
  · rw [replied]
    exact .untouched rfl rfl takes fun sink _ => sink.takes_nil
  · rw [refused]
    exact .reply rfl idle (fun sink _ => sink.takes_nil) cuts

/-- A line that is refused is noted and answered. -/
theorem answer_truncated (entry text : String) {outcome : LineOutcome}
    (idle : outcome.isIdle = true) :
    Step.Truncated session.output session.diagnostics line
      ((session.opened.note entry).andThen fun noted => noted.reply text outcome)
      ((session.note entry).andThen fun noted => noted.reply text outcome) := by
  rw [opened_answer]
  rcases session.note_cases entry with
    ⟨fits, after, noted, kept⟩ | ⟨sink, taken, held, cuts, refused⟩
  · have noting : ∀ sink, session.diagnostics = some sink → sink.Takes (session.noted entry) :=
      fun sink held => (noted_held held entry).symm ▸ fits sink held
    rw [noted]
    rcases ({ session with diagnostics := after } : Session Sink γ σ).reply_cases text outcome with
      ⟨takes, later, replied⟩ | ⟨taken, cuts, refused⟩
    · simp only [Step.andThen, replied, Trace.noted_sent]
      exact .untouched rfl kept.symm takes noting
    · simp only [Step.andThen, refused, Trace.noted_sent]
      exact .reply rfl idle noting cuts
  · rw [refused]
    exact .entry rfl idle held ((noted_held held entry).symm ▸ cuts)

/-- A handler that writes one line is truncated, and the failure is noted. -/
theorem conclude_truncated {τ : Type} (dispatches : List Dispatch) (state : τ) (text : String) :
    let reaction := Reaction.writeLine state text .done
    Step.Truncated session.output session.diagnostics line
      (session.opened.conclude line dispatches (reaction.perform session.opened.console))
      (session.conclude line dispatches (reaction.perform session.console)) := by
  intro reaction
  have whole : session.opened.conclude line dispatches (reaction.perform session.opened.console) =
      ⟨.ok .handled, session.opened, { output := Text.bytesOf (text ++ "\n"), dispatches }⟩ := by
    have free : Writer.Accepts session.opened.console.output := session.opened_output
    rw [Reaction.writeLine_open _ _ _ free, conclude_done rfl]
    rfl
  rw [whole]
  rcases session.output.offer_cases (Text.bytesOf (text ++ "\n")) with
    ⟨takes, after, taken⟩ | ⟨taken, cuts, refused⟩
  · have performed : reaction.perform session.console =
        ⟨state, .done, ⟨after, session.cancelled⟩, Text.bytesOf (text ++ "\n")⟩ := by
      simp only [reaction, Reaction.writeLine_perform, Sink.offerLine_eq, console, taken,
        Option.map_none, Option.getD_none]
    rw [performed, conclude_done rfl]
    exact .untouched rfl rfl takes fun sink _ => sink.takes_nil
  · have performed : reaction.perform session.console =
        ⟨state, .failed session.output.refusal, ⟨session.output.spent, session.cancelled⟩,
          taken⟩ := by
      simp only [reaction, Reaction.writeLine_perform, Sink.offerLine_eq, console, refused,
        Option.map_some, Option.getD_some]
    rw [performed, conclude_failed rfl]
    let left := session.takeOver ⟨session.output.spent, session.cancelled⟩
    rcases left.note_cases (unexpectedEntry line session.output.refusal) with
      ⟨fits, after, noted, _⟩ | ⟨sink, entry, held, full, unnoted⟩
    · simp only [left] at noted
      simp only [noted, Trace.done_noted]
      exact .handler rfl cuts rfl fits
    · simp only [left] at unnoted
      simp only [unnoted, Trace.done_noted]
      exact .handlerEntry rfl cuts held full

/-- Noting a failure leaves the output as it is. -/
theorem note_output (entry : String) : (session.note entry).session.output = session.output := by
  unfold note
  cases session.diagnostics with
  | none => rfl
  | some sink => rfl

/-- A handler leaves the output as its console has it. -/
theorem conclude_output {τ : Type} (dispatches : List Dispatch) (performance : Performance Sink τ) :
    (session.conclude line dispatches performance).session.output = performance.console.output := by
  cases failed : performance.verdict.detail? with
  | none =>
    rw [conclude_done failed]
    rfl
  | some detail =>
    rw [conclude_failed failed]
    exact note_output _ _

/-- What is done alike is concluded alike, unless the diagnostics refuse to note a failure. -/
theorem conclude_alike {τ : Type} (dispatches : List Dispatch) (performance : Performance Sink τ) :
    Step.Curbed
      (session.opened.conclude line dispatches
        { performance with console := performance.console.opened })
      (session.conclude line dispatches performance) := by
  let free : Performance Sink τ := { performance with console := performance.console.opened }
  change Step.Curbed (session.opened.conclude line dispatches free) _
  cases failed : performance.verdict.detail? with
  | none =>
    have freely : free.verdict.detail? = none := failed
    rw [conclude_done failed, conclude_done freely]
    exact .alike rfl rfl rfl
  | some detail =>
    have freely : free.verdict.detail? = some detail := failed
    rw [conclude_failed failed, conclude_failed freely]
    let left := session.takeOver performance.console
    have opens : session.opened.takeOver free.console = left.opened := rfl
    rcases left.note_cases (unexpectedEntry line detail) with
      ⟨_, after, noted, kept⟩ | ⟨sink, entry, _, _, unnoted⟩
    · simp only [left] at noted
      simp only [opens, opened_note, noted, Trace.done_noted]
      exact .alike rfl rfl kept.symm
    · simp only [left] at unnoted
      simp only [opens, opened_note, unnoted, Trace.done_noted]
      exact .interrupted List.prefix_rfl rfl

/-- A record that is handed to a handler is handled alike until a sink refuses. -/
theorem dispatch_curbed (place : Nat) (command : Command γ σ) (record : Record) :
    Step.Curbed (session.opened.dispatch line place command record)
      (session.dispatch line place command record) := by
  rw [dispatch_eq, dispatch_eq]
  have curbed : Performance.Curbed (session.opened.performance place command record)
      (session.performance place command record) := Reaction.perform_curbed _ session.console
  generalize session.opened.performance place command record = free at curbed
  generalize session.performance place command record = performance at curbed
  cases curbed with
  | spent begins full =>
    refine .spent ?_ ?_
    · rw [(conclude_trace _ _ _ _).1, (conclude_trace _ _ _ _).1]
      exact begins
    · rw [conclude_output]
      exact full
  | alike same =>
    rw [same]
    exact conclude_alike (session.leave place performance.state) line [⟨place, record⟩]
      performance

end Session

namespace Shell

variable (shell : Shell γ σ) (line : String) (session : Session Sink γ σ)

/-- A line that is handed to no handler of a command is truncated, and a line that is handed to one
is handed to the same where all is accepted. -/
theorem dispatches_or_truncated :
    (∃ place command record, shell.commands[place]? = some command ∧
      shell.processLine line session.opened = session.opened.dispatch line place command record ∧
      shell.processLine line session = session.dispatch line place command record) ∨
    Step.Truncated session.output session.diagnostics line (shell.processLine line session.opened)
      (shell.processLine line session) := by
  have done := shell.processLine_case line session
  generalize shell.processLine line session = step at done
  cases done with
  | skipped blank =>
    have whole : LineCase shell line session.opened _ := .skipped blank
    rw [← whole.unique]
    exact .inr (.untouched rfl rfl session.output.takes_nil fun sink _ => sink.takes_nil)
  | @dispatched place command record typed stands first read =>
    have whole : LineCase shell line session.opened _ := .dispatched typed stands first read
    exact .inl ⟨place, command, record, stands, whole.unique.symm, rfl⟩
  | rejected typed stands first read =>
    have whole : LineCase shell line session.opened _ := .rejected typed stands first read
    rw [← whole.unique]
    exact .inr (session.answer_truncated line _ _ rfl)
  | malformed typed stands first read =>
    have whole : LineCase shell line session.opened _ := .malformed typed stands first read
    rw [← whole.unique]
    exact .inr (session.answer_truncated line _ _ rfl)
  | helped typed unfit asked =>
    have whole : LineCase shell line session.opened _ := .helped typed unfit asked
    rw [← whole.unique]
    exact .inr (session.conclude_truncated line [] () _)
  | notFound typed unfit unasked =>
    have whole : LineCase shell line session.opened _ := .notFound typed unfit unasked
    rw [← whole.unique]
    exact .inr (session.reply_truncated line _ rfl)

/-- A line comes to the same where all is accepted, until a sink refuses. -/
theorem processLine_curbed :
    Step.Curbed (shell.processLine line session.opened) (shell.processLine line session) := by
  rcases shell.dispatches_or_truncated line session with
    ⟨place, command, record, _, whole, handed⟩ | truncated
  · rw [whole, handed]
    exact session.dispatch_curbed line place command record
  · exact truncated.curbed

end Shell

namespace Session

variable (session : Session Sink γ σ)

/-- What a reply sends is taken from the room of the output. -/
theorem reply_spends (text : String) (outcome : LineOutcome) :
    let step := session.reply text outcome
    session.output.Spends step.session.output step.trace.output := by
  rw [reply, Sink.sendLine_eq]
  exact session.output.offer_spends _

/-- What a line that is noted and answered sends is taken from the room of the output. -/
theorem answer_spends (entry text : String) (outcome : LineOutcome) :
    let step := (session.note entry).andThen fun noted => noted.reply text outcome
    session.output.Spends step.session.output step.trace.output := by
  have kept := session.note_output entry
  have silent := (session.note_trace entry).1
  unfold Step.andThen
  generalize session.note entry = noted at kept silent
  cases noted.result with
  | error interruption =>
    change session.output.Spends noted.session.output noted.trace.output
    rw [kept, silent]
    exact .refl session.output
  | ok done =>
    change session.output.Spends _ (noted.trace.output ++ _)
    rw [silent, ← kept]
    exact noted.session.reply_spends text outcome

/-- What a handler sends is taken from the room of the output. -/
theorem conclude_spends {τ : Type} (line : String) (dispatches : List Dispatch)
    (reaction : Reaction τ) :
    let step := session.conclude line dispatches (reaction.perform session.console)
    session.output.Spends step.session.output step.trace.output := by
  intro step
  rw [conclude_output, (conclude_trace _ _ _ _).1]
  exact reaction.perform_spends session.console

end Session

/-- What a line sends is taken from the room of the output. -/
theorem Shell.processLine_spends (shell : Shell γ σ) (line : String) (session : Session Sink γ σ) :
    let step := shell.processLine line session
    session.output.Spends step.session.output step.trace.output := by
  have done := shell.processLine_case line session
  generalize shell.processLine line session = step at done
  cases done with
  | skipped => exact .refl session.output
  | @dispatched place command record =>
    let state := (session.common, session.states[place]?.getD command.start)
    let reaction := command.handler state record
    let left := session.leave place (reaction.perform session.console).state
    exact left.conclude_spends line [⟨place, record⟩] reaction
  | rejected | malformed => exact session.answer_spends _ _ _
  | helped => exact session.conclude_spends line [] _
  | notFound => exact session.reply_spends _ _

/-- A step is the beginning of what is done after it. -/
theorem Step.andThen_begins {α β : Type} (step : Step Sink γ σ α)
    (next : Session Sink γ σ → Step Sink γ σ β) :
    step.trace.output <+: (step.andThen next).trace.output := by
  unfold Step.andThen
  cases step.result with
  | error interruption => exact List.prefix_rfl
  | ok value => exact List.prefix_append _ _

end Switchboard
