import Mathlib.Data.List.DropRight
import Switchboard.Proofs.Shell.Processing
/-!
# Runs

A run reads line after line until its token is cancelled, the input ends or a line is interrupted.
What a line does never depends on the input (`processLine_withInput`), so a run can be told in terms
of single calls: it calls the lines that it takes from the input, one after the other, and leaves
the others (`Shell.Refines`). Over any number of runs, with a token for each, no line is lost,
repeated or called out of turn (`Shell.Resumes`).
-/
namespace Switchboard

variable {κ γ σ : Type} [Writer κ]

/-! ## The lines of the input -/

namespace Input

/-- Lines cut some bytes after every line break. -/
structure Cuts (bytes : List UInt8) (lines : List (List UInt8)) : Prop where
  /-- Together the lines are the bytes. -/
  whole : lines.flatten = bytes
  /-- No line is empty. -/
  filled : [] ∉ lines
  /-- In a line, a line break can only come last. -/
  inside : ∀ line ∈ lines, 10 ∉ line.dropLast
  /-- Every line has its line break, except perhaps the last. -/
  ended : ∀ line ∈ lines.dropLast, isEnded line = true

/-- A line break before the bytes is a line of its own. -/
theorem Cuts.lineBreak {bytes : List UInt8} {lines : List (List UInt8)} (cuts : Cuts bytes lines) :
    Cuts (10 :: bytes) ([10] :: lines) where
  whole := by
    rw [List.flatten_cons, cuts.whole]
    rfl
  filled := by simpa using cuts.filled
  inside := by simpa using cuts.inside
  ended := by
    cases lines with
    | nil => simp
    | cons line later => exact List.forall_mem_cons.mpr ⟨rfl, cuts.ended⟩

/-- Any other byte before the bytes joins their first line. -/
theorem Cuts.join {byte : UInt8} {bytes line : List UInt8} {later : List (List UInt8)}
    (other : byte ≠ 10) (cuts : Cuts bytes (line :: later)) :
    Cuts (byte :: bytes) ((byte :: line) :: later) := by
  have filled : line ≠ [] := fun empty => cuts.filled (empty ▸ List.mem_cons_self)
  obtain ⟨inside, insides⟩ := List.forall_mem_cons.mp cuts.inside
  constructor
  · rw [← cuts.whole]
    rfl
  · simpa using fun member => cuts.filled (List.mem_cons_of_mem line member)
  · refine List.forall_mem_cons.mpr ⟨?_, insides⟩
    rw [List.dropLast_cons_of_ne_nil filled, List.mem_cons, not_or]
    exact ⟨other.symm, inside⟩
  · cases later with
    | nil => simp
    | cons next later =>
      obtain ⟨ended, endeds⟩ := List.forall_mem_cons.mp cuts.ended
      refine List.forall_mem_cons.mpr ⟨?_, endeds⟩
      rw [isEnded, List.getLast?_cons_of_ne_nil filled]
      exact ended

/-- The program cuts bytes so. -/
theorem cuts_cutLines (bytes : List UInt8) : Cuts bytes (cutLines bytes) := by
  induction bytes with
  | nil => exact ⟨rfl, List.not_mem_nil, by simp [cutLines], by simp [cutLines]⟩
  | cons byte rest ih =>
    unfold cutLines
    by_cases breaks : byte = 10
    · rw [if_pos breaks, breaks]
      exact ih.lineBreak
    · rw [if_neg breaks]
      cases lines : cutLines rest with
      | nil =>
        rw [lines] at ih
        refine ⟨?_, by simp, by simp, by simp⟩
        rw [← ih.whole]
        rfl
      | cons line later =>
        rw [lines] at ih
        exact ih.join breaks

/-- The program cuts off a line that has its line break, or that is the last. -/
theorem cutLines_append {line rest : List UInt8} (filled : line ≠ []) (inside : 10 ∉ line.dropLast)
    (ends : isEnded line = true ∨ rest = []) : cutLines (line ++ rest) = line :: cutLines rest := by
  induction line with
  | nil => exact absurd rfl filled
  | cons byte line ih =>
    rw [List.cons_append, cutLines]
    cases line with
    | nil =>
      by_cases breaks : byte = 10
      · rw [if_pos breaks]
        rfl
      · have unended : ¬ isEnded [byte] = true := by simpa [isEnded] using breaks
        rw [if_neg breaks, ends.resolve_left unended]
        rfl
    | cons next line =>
      rw [List.dropLast_cons_of_ne_nil (List.cons_ne_nil next line), List.mem_cons,
        not_or] at inside
      have ends' : isEnded (next :: line) = true ∨ rest = [] := ends
      rw [if_neg (Ne.symm inside.1), ih (List.cons_ne_nil next line) inside.2 ends']

/-- There is no other way to cut bytes so. -/
theorem Cuts.eq_cutLines {bytes : List UInt8} {lines : List (List UInt8)}
    (cuts : Cuts bytes lines) : lines = cutLines bytes := by
  induction lines generalizing bytes with
  | nil => exact congrArg cutLines cuts.whole
  | cons line later ih =>
    obtain ⟨rfl, filled, inside, ended⟩ := cuts
    rw [List.mem_cons, not_or] at filled
    obtain ⟨nonempty, others⟩ := filled
    obtain ⟨first, insides⟩ := List.forall_mem_cons.mp inside
    cases later with
    | nil => exact (cutLines_append (Ne.symm nonempty) first (.inr rfl)).symm
    | cons next later =>
      obtain ⟨last, endeds⟩ := List.forall_mem_cons.mp ended
      have cut : Cuts (next :: later).flatten (next :: later) := ⟨rfl, others, insides, endeds⟩
      rw [List.flatten_cons, cutLines_append (Ne.symm nonempty) first (.inl last), ← ih cut]

/-- A text without the line breaks and the carriage returns at its end. -/
structure Trims (text trimmed : String) : Prop where
  /-- Nothing else is left out. -/
  ending : ∃ ending, text.toList = trimmed.toList ++ ending ∧
    ∀ character ∈ ending, character = '\r' ∨ character = '\n'
  /-- All of them are left out. -/
  bare : ∀ character, trimmed.toList.getLast? = some character →
    character ≠ '\r' ∧ character ≠ '\n'

/-- What is processed of a line is its text without the line break and the carriage returns. -/
theorem lineText_trims (line : List UInt8) : Trims (Text.textOf line) (lineText line) := by
  let isEnding : Char → Bool := fun character => character = '\r' || character = '\n'
  have trimmed : (lineText line).toList = (Text.textOf line).toList.rdropWhile isEnding :=
    String.toList_ofList
  constructor
  · refine ⟨(Text.textOf line).toList.rtakeWhile isEnding, ?_, fun character member => ?_⟩
    · rw [trimmed, List.rdropWhile_append_rtakeWhile]
    · simpa [isEnding] using List.mem_rtakeWhile_imp member
  · intro character last
    rw [trimmed] at last
    have filled : (Text.textOf line).toList.rdropWhile isEnding ≠ [] := by
      intro empty
      simp [empty] at last
    rw [List.getLast?_eq_getLast_of_ne_nil filled, Option.some.injEq] at last
    have other := List.rdropWhile_last_not isEnding _ filled
    rw [last] at other
    simpa [isEnding] using other

end Input

/-! ## Lines do not depend on the input -/

/-- A session with other input. -/
def Session.withInput (session : Session κ γ σ) (input : Input) : Session κ γ σ :=
  { session with input }

/-- A step on a session with other input. -/
def Step.withInput {α : Type} (step : Step κ γ σ α) (input : Input) : Step κ γ σ α :=
  { step with session := step.session.withInput input }

omit [Writer κ] in
/-- What goes on alike with other input does so after a step. -/
theorem Step.andThen_withInput {α β : Type} {input : Input} {next : Session κ γ σ → Step κ γ σ β}
    (alike : ∀ session, next (session.withInput input) = (next session).withInput input)
    (step : Step κ γ σ α) :
    (step.withInput input).andThen next = (step.andThen next).withInput input := by
  obtain ⟨result, session, trace⟩ := step
  cases result with
  | error interruption => rfl
  | ok value =>
    change { next (session.withInput input) with
      trace := trace ++ (next (session.withInput input)).trace } = _
    rw [alike]
    rfl

namespace Session

variable (session : Session κ γ σ) (input : Input)

/-- Noting a failure does not depend on the input. -/
theorem note_withInput (entry : String) :
    (session.withInput input).note entry = (session.note entry).withInput input := by
  obtain ⟨common, states, output, diagnostics, cancelled, old⟩ := session
  cases diagnostics with
  | none => rfl
  | some sink => rfl

/-- Noting a failure and answering the line does not depend on the input. -/
theorem answer_withInput (entry text : String) (outcome : LineOutcome) :
    (((session.withInput input).note entry).andThen fun noted => noted.reply text outcome) =
      ((session.note entry).andThen fun noted => noted.reply text outcome).withInput input := by
  rw [note_withInput]
  exact Step.andThen_withInput (fun _ => rfl) _

/-- Concluding what a handler did does not depend on the input. -/
theorem conclude_withInput {τ : Type} (line : String) (dispatches : List Dispatch)
    (performance : Performance κ τ) :
    (session.withInput input).conclude line dispatches performance =
      (session.conclude line dispatches performance).withInput input := by
  cases failed : performance.verdict.detail? with
  | none =>
    rw [conclude_done failed, conclude_done failed]
    rfl
  | some detail =>
    rw [conclude_failed failed, conclude_failed failed]
    have noted : ((session.withInput input).takeOver performance.console).note
        (unexpectedEntry line detail) = _ :=
      note_withInput (session.takeOver performance.console) input _
    simp only [noted]
    rfl

/-- Handing a record on does not depend on the input. -/
theorem dispatch_withInput (line : String) (place : Nat) (command : Command γ σ) (record : Record) :
    (session.withInput input).dispatch line place command record =
      (session.dispatch line place command record).withInput input := by
  rw [dispatch_eq, dispatch_eq]
  let performance := session.performance place command record
  exact conclude_withInput (session.leave place performance.state) input line [⟨place, record⟩]
    performance

end Session

/-- What a shell does on a line does not depend on the input, nor does it change the input. -/
theorem Shell.processLine_withInput (shell : Shell γ σ) (line : String) (session : Session κ γ σ)
    (input : Input) : shell.processLine line (session.withInput input) =
      (shell.processLine line session).withInput input := by
  have done := shell.processLine_case line session
  generalize shell.processLine line session = step at done
  have alike : LineCase shell line (session.withInput input) (step.withInput input) := by
    cases done with
    | skipped blank => exact .skipped blank
    | dispatched typed stands first read =>
      rw [← Session.dispatch_withInput]
      exact .dispatched typed stands first read
    | rejected typed stands first read =>
      rw [← Session.answer_withInput]
      exact .rejected typed stands first read
    | malformed typed stands first read =>
      rw [← Session.answer_withInput]
      exact .malformed typed stands first read
    | helped typed unfit asked =>
      rw [← Session.conclude_withInput]
      exact .helped typed unfit asked
    | notFound typed unfit unasked => exact .notFound typed unfit unasked
  exact alike.unique.symm

/-- A line leaves the input as it is. -/
theorem Shell.processLine_input (shell : Shell γ σ) (line : String) (session : Session κ γ σ) :
    (shell.processLine line session).session.input = session.input := by
  have alike : shell.processLine line session =
      (shell.processLine line session).withInput session.input :=
    shell.processLine_withInput line session session.input
  rw [alike]
  rfl

/-! ## Lines called one after the other -/

/-- A session with another token, which is cancelled already or not. -/
def Session.withToken (session : Session κ γ σ) (cancelled : Bool) : Session κ γ σ :=
  { session with cancelled }

/-- A session without its input, as lines are called in it. -/
def Session.unfed (session : Session κ γ σ) : Session κ γ σ := session.withInput ⟨[], false⟩

/-- The lines that are called in a session one after the other, each with a fresh token. -/
def Shell.calls (shell : Shell γ σ) : List String → Session κ γ σ → List (Visit κ γ σ)
  | [], _ => []
  | line :: rest, session =>
    let before := session.withToken false
    let step := shell.processLine line before
    ⟨line, before, step⟩ :: shell.calls rest step.session

/-- The calls of some lines of the input. -/
def Shell.callLines (shell : Shell γ σ) (lines : List (List UInt8)) (session : Session κ γ σ) :
    List (Visit κ γ σ) :=
  shell.calls (lines.map Input.lineText) session.unfed

@[simp]
theorem Shell.callLines_nil (shell : Shell γ σ) (session : Session κ γ σ) :
    shell.callLines [] session = [] := rfl

/-- A session after some lines were called in it. -/
def Session.after (session : Session κ γ σ) (visits : List (Visit κ γ σ)) : Session κ γ σ :=
  visits.foldl (fun _ visit => visit.step.session) session

omit [Writer κ] in
/-- After some lines the token matters only if there were none. -/
theorem Session.after_withToken (session : Session κ γ σ) (visits : List (Visit κ γ σ))
    (cancelled : Bool) :
    ((session.withToken cancelled).after visits).withToken false =
      (session.after visits).withToken false := by
  cases visits with
  | nil => rfl
  | cons visit rest => rfl

/-- What some lines added, one after the other. -/
def Visit.traces (visits : List (Visit κ γ σ)) : Trace :=
  visits.foldr (fun visit later => visit.step.trace ++ later) {}

/-- Traces can be joined in any grouping. -/
theorem Trace.append_assoc (first second third : Trace) :
    first ++ second ++ third = first ++ (second ++ third) := by
  change Trace.mk (_ ++ _ ++ _) (_ ++ _ ++ _) (_ ++ _ ++ _) = _
  rw [List.append_assoc, List.append_assoc, List.append_assoc]
  rfl

omit [Writer κ] in
/-- What two lists of lines added is joined. -/
theorem Visit.traces_append (first second : List (Visit κ γ σ)) :
    traces (first ++ second) = traces first ++ traces second := by
  induction first with
  | nil => rfl
  | cons visit rest ih =>
    change visit.step.trace ++ traces (rest ++ second) = visit.step.trace ++ traces rest ++ _
    rw [ih, Trace.append_assoc]

namespace Shell

variable (shell : Shell γ σ)

/-- Lines are called in the same way with any token. -/
theorem calls_withToken (lines : List String) (session : Session κ γ σ) (cancelled : Bool) :
    shell.calls lines (session.withToken cancelled) = shell.calls lines session := by
  cases lines with
  | nil => rfl
  | cons line rest => rfl

/-- Lines called after others are called in the session that these leave. -/
theorem calls_append (first second : List String) (session : Session κ γ σ) :
    shell.calls (first ++ second) session = shell.calls first session ++
      shell.calls second (session.after (shell.calls first session)) := by
  induction first generalizing session with
  | nil => rfl
  | cons line rest ih =>
    rw [List.cons_append, calls, ih]
    rfl

end Shell

/-! ## One run -/

/-- After a line, a run goes on: the line was not interrupted, and its token is not cancelled. -/
def Visit.GoesOn (visit : Visit κ γ σ) : Prop :=
  (∃ outcome, visit.step.result = .ok outcome) ∧ visit.step.session.cancelled = false

/-- Why a run stops after some lines. -/
inductive Stops (visits : List (Visit κ γ σ)) (unread : List (List UInt8))
    (step : Step κ γ σ Unit) : Prop where
  /-- Its token is cancelled before it reads on. -/
  | cancelled (asked : step.session.cancelled = true)
      (finished : ∀ visit ∈ visits, ∃ outcome, visit.step.result = .ok outcome)
      (result : step.result = .ok ())
  /-- The input has ended. -/
  | ended (unasked : step.session.cancelled = false) (exhausted : unread = [])
      (finished : ∀ visit ∈ visits, ∃ outcome, visit.step.result = .ok outcome)
      (result : step.result = .ok ())
  /-- The last line was interrupted. -/
  | interrupted {earlier : List (Visit κ γ σ)} {visit : Visit κ γ σ} {interruption : Interruption}
      (last : visits = earlier ++ [visit]) (failed : visit.step.result = .error interruption)
      (result : step.result = .error interruption)

/-- A run from a session is told by calls: it calls the lines that it handles, goes on after each of
them but the last, and leaves the unread lines. -/
structure Shell.Refines (shell : Shell γ σ) (session : Session κ γ σ)
    (handled unread : List (List UInt8)) (step : Step κ γ σ Unit) : Prop where
  /-- With a cancelled token no line is handled. -/
  idle : session.cancelled = true → handled = []
  /-- The run goes on after each line but the last. -/
  goesOn : ∀ visit ∈ (shell.callLines handled session).dropLast, visit.GoesOn
  /-- It stops for a reason. -/
  stops : Stops (shell.callLines handled session) unread step
  /-- It leaves the unread lines as input. -/
  input : step.session.input = ⟨unread, false⟩
  /-- Apart from that, it leaves the session that the calls leave. -/
  leaves : step.session.unfed = session.unfed.after (shell.callLines handled session)
  /-- It adds what the calls add. -/
  trace : step.trace = Visit.traces (shell.callLines handled session)

/-- Run on the lines of the input as they come, with one line at a time. -/
def Shell.feed (shell : Shell γ σ) : List (List UInt8) → Session κ γ σ → Step κ γ σ Unit
  | [], session => ⟨.ok (), session, {}⟩
  | line :: rest, session => (shell.runLines [line] session).andThen (shell.feed rest)

namespace Shell

variable {shell : Shell γ σ} {session : Session κ γ σ}

/-- A run that handles nothing leaves the session and the lines as they are. -/
theorem Refines.nothing {lines : List (List UInt8)}
    (stops : Stops [] lines (⟨.ok (), session.withInput ⟨lines, false⟩, {}⟩ : Step κ γ σ Unit)) :
    shell.Refines session [] lines ⟨.ok (), session.withInput ⟨lines, false⟩, {}⟩ where
  idle _ := rfl
  goesOn := by simp
  stops := stops
  input := rfl
  leaves := rfl
  trace := rfl

section Read

variable (unasked : session.cancelled = false) {line : List UInt8}
  {rest : List (List UInt8)} {first : Step κ γ σ LineOutcome}
  (read : shell.processLine (Input.lineText line) (session.withInput ⟨rest, false⟩) = first)

include read in
/-- What a run reads is taken from the input, and the line leaves the rest. -/
theorem input_read : first.session.input = ⟨rest, false⟩ := by
  rw [← read]
  exact processLine_input _ _ _

include unasked read

/-- What a run reads with a token that is not cancelled is the first call, and what it handles then
is called in the session that this leaves. -/
theorem calls_read (handled : List (List UInt8)) : ∃ visit : Visit κ γ σ,
    visit.step = first.withInput ⟨[], false⟩ ∧
      shell.callLines (line :: handled) session =
        visit :: shell.callLines handled first.session := by
  have fresh : session.unfed.withToken false = session.unfed := by
    rw [Session.withToken, ← unasked]
    rfl
  have alike : shell.processLine (Input.lineText line) session.unfed =
      first.withInput ⟨[], false⟩ := by
    rw [← read, ← processLine_withInput]
    rfl
  refine ⟨⟨Input.lineText line, session.unfed, first.withInput ⟨[], false⟩⟩, rfl, ?_⟩
  rw [callLines, List.map_cons, calls, fresh, alike]
  rfl

/-- A run ends with a line that is interrupted. -/
theorem Refines.interrupted {interruption : Interruption}
    (failed : first.result = .error interruption) :
    shell.Refines session [line] rest ⟨.error interruption, first.session, first.trace⟩ := by
  obtain ⟨visit, same, called⟩ := calls_read unasked read []
  rw [callLines_nil] at called
  constructor
  · intro asked
    rw [unasked] at asked
    exact absurd asked Bool.false_ne_true
  · rw [called]
    simp
  · rw [called]
    refine .interrupted (List.nil_append _).symm ?_ rfl
    rw [same]
    exact failed
  · exact input_read read
  · rw [called]
    change first.session.unfed = visit.step.session
    rw [same]
    rfl
  · rw [called]
    change first.trace = visit.step.trace ++ {}
    rw [same, Trace.append_empty]
    rfl

/-- A run that reads a line goes on in the session that the line leaves. -/
theorem Refines.next {outcome : LineOutcome} (finished : first.result = .ok outcome)
    {handled unread : List (List UInt8)} {step : Step κ γ σ Unit}
    (later : shell.Refines first.session handled unread step) :
    shell.Refines session (line :: handled) unread
      { step with trace := first.trace ++ step.trace } := by
  obtain ⟨visit, same, called⟩ := calls_read unasked read handled
  have succeeded : ∃ outcome, visit.step.result = .ok outcome := ⟨outcome, same ▸ finished⟩
  constructor
  · intro asked
    rw [unasked] at asked
    exact absurd asked Bool.false_ne_true
  · rw [called]
    cases handled with
    | nil => simp
    | cons next handled =>
      -- Since the run handles another line, its token was not cancelled by this one.
      have unasked : visit.step.session.cancelled = false := by
        rw [same]
        refine eq_false_of_ne_true fun asked => ?_
        exact List.cons_ne_nil _ _ (later.idle asked)
      have further : shell.callLines (next :: handled) first.session ≠ [] :=
        List.cons_ne_nil _ _
      rw [List.dropLast_cons_of_ne_nil further]
      exact List.forall_mem_cons.mpr ⟨⟨succeeded, unasked⟩, later.goesOn⟩
  · rw [called]
    cases later.stops with
    | cancelled asked others result =>
      exact .cancelled asked (List.forall_mem_cons.mpr ⟨succeeded, others⟩) result
    | ended unasked exhausted others result =>
      exact .ended unasked exhausted (List.forall_mem_cons.mpr ⟨succeeded, others⟩) result
    | @interrupted earlier other interruption last failed result =>
      rw [last]
      exact .interrupted List.cons_append.symm failed result
  · exact later.input
  · rw [called]
    change step.session.unfed = visit.step.session.after _
    rw [same]
    exact later.leaves
  · rw [called]
    change first.trace ++ step.trace = visit.step.trace ++ _
    rw [same, later.trace]
    rfl

end Read

section Lines

variable (sound : session.input.breaks = false)

include sound

/-- A run stops where the input has ended. -/
theorem runLines_nil :
    shell.runLines [] session = ⟨.ok (), session.withInput ⟨[], false⟩, {}⟩ := by
  rw [Session.withInput, ← sound, runLines]
  simp [sound]

/-- A run stops before it reads on with a cancelled token. -/
theorem runLines_cancelled (asked : session.cancelled = true) (lines : List (List UInt8)) :
    shell.runLines lines session = ⟨.ok (), session.withInput ⟨lines, false⟩, {}⟩ := by
  cases lines with
  | nil => exact runLines_nil sound
  | cons line rest =>
    rw [Session.withInput, ← sound, runLines, if_pos asked]

/-- A run with a token that is not cancelled processes the next line, and goes on after it. -/
theorem runLines_cons (unasked : session.cancelled = false) (line : List UInt8)
    (rest : List (List UInt8)) : shell.runLines (line :: rest) session =
      (shell.processLine (Input.lineText line) (session.withInput ⟨rest, false⟩)).andThen
        (shell.runLines rest) := by
  rw [Session.withInput, ← sound, runLines, unasked]
  simp [sound]

/-- What a run does with some lines does not depend on the input before them. -/
theorem runLines_withInput (lines unread : List (List UInt8)) :
    shell.runLines lines (session.withInput ⟨unread, false⟩) = shell.runLines lines session := by
  have sound' : (session.withInput ⟨unread, false⟩).input.breaks = false := rfl
  cases lines with
  | nil =>
    rw [runLines_nil sound, runLines_nil sound']
    rfl
  | cons line rest =>
    cases token : session.cancelled with
    | true =>
      rw [runLines_cancelled sound token, runLines_cancelled sound' token]
      rfl
    | false =>
      rw [runLines_cons sound token, runLines_cons sound' token]
      rfl

/-- A run goes on in the session that a line with an outcome leaves. -/
theorem runLines_next (unasked : session.cancelled = false) (line : List UInt8)
    (rest : List (List UInt8)) {step : Step κ γ σ LineOutcome}
    (processed : shell.processLine (Input.lineText line) session = step) {outcome : LineOutcome}
    (finished : step.result = .ok outcome) : shell.runLines (line :: rest) session =
      { shell.runLines rest step.session with
        trace := step.trace ++ (shell.runLines rest step.session).trace } := by
  have kept : step.session.input.breaks = false := by
    rw [← processed, processLine_input]
    exact sound
  rw [runLines_cons sound unasked, processLine_withInput, processed]
  have fed := @runLines_withInput κ γ σ _ shell step.session kept rest rest
  obtain ⟨result, after, trace⟩ := step
  cases finished
  change { shell.runLines rest (after.withInput ⟨rest, false⟩) with
    trace := trace ++ (shell.runLines rest (after.withInput ⟨rest, false⟩)).trace } = _
  rw [fed]

/-- Some lines are handled and the others are left. -/
theorem runLines_refines (lines : List (List UInt8)) : ∃ handled unread,
    lines = handled ++ unread ∧
      shell.Refines session handled unread (shell.runLines lines session) := by
  induction lines generalizing session with
  | nil =>
    rw [runLines_nil sound]
    cases token : session.cancelled with
    | true => exact ⟨[], [], rfl, .nothing (.cancelled token (List.forall_mem_nil _) rfl)⟩
    | false => exact ⟨[], [], rfl, .nothing (.ended token rfl (List.forall_mem_nil _) rfl)⟩
  | cons line rest ih =>
    cases token : session.cancelled with
    | true =>
      rw [runLines_cancelled sound token]
      exact ⟨[], line :: rest, rfl, .nothing (.cancelled token (List.forall_mem_nil _) rfl)⟩
    | false =>
      rw [runLines_cons sound token]
      cases read : shell.processLine (Input.lineText line) (session.withInput ⟨rest, false⟩) with
      | mk result after trace =>
        cases result with
        | error interruption =>
          exact ⟨[line], rest, rfl, .interrupted token read rfl⟩
        | ok outcome =>
          have kept : after.input = ⟨rest, false⟩ := input_read read
          obtain ⟨handled, unread, same, later⟩ := @ih after (by rw [kept])
          exact ⟨line :: handled, unread, by rw [same]; rfl, .next token read rfl later⟩

/-- Going on as the lines come comes to running on all of them, up to the lines left unread. -/
theorem feed_runLines (lines : List (List UInt8)) :
    (shell.feed lines session).withInput ⟨[], false⟩ =
      (shell.runLines lines session).withInput ⟨[], false⟩ := by
  induction lines generalizing session with
  | nil =>
    rw [runLines_nil sound]
    rfl
  | cons line rest ih =>
    cases token : session.cancelled with
    | true =>
      have later := @ih (session.withInput ⟨[line], false⟩) rfl
      rw [runLines_withInput sound, runLines_cancelled sound token] at later
      rw [feed, runLines_cancelled sound token, runLines_cancelled sound token]
      exact later
    | false =>
      cases processed : shell.processLine (Input.lineText line) session with
      | mk result after trace =>
      cases result with
      | error interruption =>
        rw [feed, runLines_cons sound token, runLines_cons sound token, processLine_withInput,
          processLine_withInput, processed]
        rfl
      | ok outcome =>
        have kept : after.input.breaks = false := by
          have same := shell.processLine_input (Input.lineText line) session
          rw [processed] at same
          exact same ▸ sound
        have later := @ih (after.withInput ⟨[], false⟩) rfl
        rw [runLines_withInput kept] at later
        rw [feed, runLines_next sound token line [] processed rfl,
          runLines_next sound token line rest processed rfl, runLines_nil kept,
          Trace.append_empty]
        exact congrArg (fun step : Step κ γ σ Unit =>
          { step with trace := trace ++ step.trace }) later

end Lines

/-- A run with a cancelled token changes nothing. -/
theorem run_cancelled (sound : session.input.breaks = false) (asked : session.cancelled = true) :
    shell.run session = ⟨.ok (), session, {}⟩ := by
  rw [run, runLines_cancelled sound asked, ← sound]
  rfl

end Shell

/-! ## One run after the other -/

/-- A run of a shell. -/
structure Run (κ γ σ : Type) where
  /-- The session in which the run begins. -/
  before : Session κ γ σ
  /-- What the run comes to. -/
  step : Step κ γ σ Unit

namespace Run

/-- The lines that a run leaves unread. -/
def unread (run : Run κ γ σ) : List (List UInt8) := run.step.session.input.lines

/-- The lines that a run handles: those that it takes from the input. -/
def handled (run : Run κ γ σ) : List (List UInt8) :=
  run.before.input.lines.take (run.before.input.lines.length - run.unread.length)

/-- The calls of the lines that a run handles. -/
def calls (shell : Shell γ σ) (run : Run κ γ σ) : List (Visit κ γ σ) :=
  shell.callLines run.handled run.before

end Run

/-- A session after some runs. -/
def Session.afterRuns (session : Session κ γ σ) (runs : List (Run κ γ σ)) : Session κ γ σ :=
  runs.foldl (fun _ run => run.step.session) session

/-- What some runs added, one after the other. -/
def Run.traces (runs : List (Run κ γ σ)) : Trace :=
  runs.foldr (fun run later => run.step.trace ++ later) {}

namespace Shell

/-- The runs of a shell one after the other, each with a token that is cancelled already or not. -/
def runs (shell : Shell γ σ) : List Bool → Session κ γ σ → List (Run κ γ σ)
  | [], _ => []
  | cancelled :: rest, session =>
    let before := session.withToken cancelled
    let step := shell.run before
    ⟨before, step⟩ :: shell.runs rest step.session

/-- Some runs go on where the one before stopped: together they are told by calling the lines that
they handle, one after the other, from the beginning. -/
structure Resumes (shell : Shell γ σ) (start : Session κ γ σ) (runs : List (Run κ γ σ)) : Prop where
  /-- Each run handles the next lines and leaves the others. -/
  splits : ∀ run ∈ runs, run.before.input.lines = run.handled ++ run.unread
  /-- Each run is told by calls. -/
  refines : ∀ run ∈ runs, shell.Refines run.before run.handled run.unread run.step
  /-- A run with a cancelled token changes nothing. -/
  idle : ∀ run ∈ runs, run.before.cancelled = true → run.step = ⟨.ok (), run.before, {}⟩
  /-- No line is lost, repeated or handled out of turn. -/
  complete : start.input.lines = runs.flatMap Run.handled ++ (start.afterRuns runs).input.lines
  /-- The calls of each run are those of all lines, one after the other. -/
  calls : runs.flatMap (Run.calls shell) = shell.callLines (runs.flatMap Run.handled) start
  /-- The runs add what the calls add. -/
  trace : Run.traces runs = Visit.traces (runs.flatMap (Run.calls shell))
  /-- They leave the states and the sinks as the calls do. -/
  leaves : (start.afterRuns runs).unfed.withToken false =
    (start.unfed.after (runs.flatMap (Run.calls shell))).withToken false

variable {shell : Shell γ σ} {session : Session κ γ σ}

/-- A run handles the next lines of the input and leaves the others. -/
theorem run_refines (sound : session.input.breaks = false) {run : Run κ γ σ}
    (begun : run.before = session) (ran : run.step = shell.run session) :
    run.before.input.lines = run.handled ++ run.unread ∧
      shell.Refines run.before run.handled run.unread run.step := by
  obtain ⟨handled, unread, same, refines⟩ := runLines_refines sound session.input.lines
  have left : run.unread = unread := by
    rw [Run.unread, ran, Shell.run, refines.input]
  have taken : run.handled = handled := by
    rw [Run.handled, begun, left, same, List.length_append, Nat.add_sub_cancel, List.take_left]
  rw [taken, left, begun, ran]
  exact ⟨same, refines⟩

/-- Runs go on where a run before them stopped. -/
theorem Resumes.cons {run : Run κ γ σ} {later : List (Run κ γ σ)} {cancelled : Bool}
    (begun : run.before = session.withToken cancelled)
    (split : run.before.input.lines = run.handled ++ run.unread)
    (refines : shell.Refines run.before run.handled run.unread run.step)
    (idle : run.before.cancelled = true → run.step = ⟨.ok (), run.before, {}⟩)
    (resumed : shell.Resumes run.step.session later) : shell.Resumes session (run :: later) := by
  have called : run.calls shell = shell.callLines run.handled session := by
    rw [Run.calls, begun]
    exact shell.calls_withToken _ session.unfed cancelled
  have left : run.step.session.unfed = (session.unfed.withToken cancelled).after
      (run.calls shell) := by
    rw [refines.leaves, ← Run.calls, begun]
    rfl
  have called_later : later.flatMap (Run.calls shell) =
      shell.calls ((later.flatMap Run.handled).map Input.lineText)
        (session.unfed.after (run.calls shell)) := by
    rw [resumed.calls, callLines, left, ← shell.calls_withToken _ _ false,
      Session.after_withToken, shell.calls_withToken]
  constructor
  · exact List.forall_mem_cons.mpr ⟨split, resumed.splits⟩
  · exact List.forall_mem_cons.mpr ⟨refines, resumed.refines⟩
  · exact List.forall_mem_cons.mpr ⟨idle, resumed.idle⟩
  · rw [begun] at split
    rw [List.flatMap_cons, List.append_assoc]
    change session.input.lines =
      run.handled ++ (_ ++ (run.step.session.afterRuns later).input.lines)
    rw [← resumed.complete]
    exact split
  · rw [List.flatMap_cons, List.flatMap_cons, callLines, List.map_append, calls_append, ← callLines,
      ← called, called_later]
  · rw [List.flatMap_cons, Visit.traces_append, ← resumed.trace]
    change run.step.trace ++ Run.traces later = _
    rw [refines.trace]
    rfl
  · rw [List.flatMap_cons]
    change (run.step.session.afterRuns later).unfed.withToken false = _
    rw [resumed.leaves, left, Session.after, Session.after, ← List.foldl_append]
    exact Session.after_withToken _ _ _

/-- On input that does not break, each run goes on where the one before stopped. -/
theorem resumes_runs (tokens : List Bool) (sound : session.input.breaks = false) :
    shell.Resumes session (shell.runs tokens session) := by
  induction tokens generalizing session with
  | nil => exact ⟨by simp [runs], by simp [runs], by simp [runs], rfl, rfl, rfl, rfl⟩
  | cons cancelled rest ih =>
    let before := session.withToken cancelled
    let first : Run κ γ σ := ⟨before, shell.run before⟩
    obtain ⟨split, refines⟩ := @run_refines κ γ σ _ shell before sound first rfl rfl
    have kept : first.step.session.input.breaks = false := by rw [refines.input]
    exact .cons rfl split refines (run_cancelled sound) (ih kept)

/-- Running refines processing line by line and loses no input: whatever the bytes, the commands and
the tokens of the runs, the lines are cut after every line break and processed without the line
breaks and carriage returns at their end, each run handles the next of them until it stops for one
of three reasons, and all the runs together come to what calling the handled lines comes to. -/
theorem runs_resume (shell : Shell γ σ) (session : Session κ γ σ) (bytes : List UInt8)
    (tokens : List Bool) :
    let start := session.withInput (.ofBytes bytes false)
    Input.Cuts bytes start.input.lines ∧
      (∀ line, Input.Trims (Text.textOf line) (Input.lineText line)) ∧
      shell.Resumes start (shell.runs tokens start) :=
  ⟨Input.cuts_cutLines bytes, Input.lineText_trims, resumes_runs tokens rfl⟩

end Shell

end Switchboard
