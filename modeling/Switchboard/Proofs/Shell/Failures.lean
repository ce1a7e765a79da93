import Switchboard.Proofs.Shell.Dispatch
import Switchboard.Proofs.Shell.Runs
import Switchboard.Proofs.Shell.Soundness
/-!
# Lines that come to nothing

A line that is blank, fits no command, or is refused reaches no handler. With sinks that accept all
writes it leaves the session exactly as it was, so a session goes on as if the line had not been
there: the other lines are processed in the same sessions, with the same outcomes, records and
traces (`turns_prune`). The same is so of the lines of a run (`run_prune`).
-/
namespace Switchboard

variable {κ γ σ : Type} [Writer κ]

/-- An outcome without a handler: the line was blank, fits no command, or was refused. -/
def LineOutcome.isIdle : LineOutcome → Bool
  | skipped | notFound | rejected _ | malformed _ => true
  | handled | handlerFailed _ => false

/-- Whether a line came to nothing. -/
def Visit.isIdle (visit : Visit κ γ σ) : Bool :=
  match visit.step.result with
  | .ok outcome => outcome.isIdle
  | .error _ => false

/-- Of some lines, any that came to nothing are left out. -/
inductive Pruned : List (Visit κ γ σ) → List (Visit κ γ σ) → Prop where
  | nil : Pruned [] []
  | keep (visit : Visit κ γ σ) {whole rest : List (Visit κ γ σ)} (later : Pruned whole rest) :
      Pruned (visit :: whole) (visit :: rest)
  | drop {visit : Visit κ γ σ} (idle : visit.isIdle = true) {whole rest : List (Visit κ γ σ)}
      (later : Pruned whole rest) : Pruned (visit :: whole) rest

/-! ## One line -/

namespace Dispatches

variable {registration : Registration γ σ} {line : String} {session : Session κ γ σ}
  {step : Step κ γ σ LineOutcome}

/-- A line that comes to nothing changes nothing, and hands on no record. -/
theorem idle_frame (done : Dispatches registration line session step)
    (idle : (Visit.mk line session step).isIdle = true) :
    step.session = session ∧ step.trace.dispatches = [] := by
  cases done with
  | skipped | notFound | rejected | malformed => exact ⟨rfl, rfl⟩
  | handled | failed | helped => cases idle

/-- No line changes the diagnostics where they accept all writes. -/
theorem diagnostics_kept (done : Dispatches registration line session step) :
    step.session.diagnostics = session.diagnostics := by
  cases done <;> rfl

/-- Every line has an outcome. -/
theorem finishes (done : Dispatches registration line session step) :
    ∃ outcome, step.result = .ok outcome := by
  cases done <;> exact ⟨_, rfl⟩

end Dispatches

/-! ## Leaving lines out -/

/-- A trace that adds nothing to another is empty. -/
theorem Trace.eq_empty {trace later : Trace} (same : trace ++ later = trace) : later = {} := by
  obtain ⟨noOutput, noDiagnostics, noDispatches⟩ := Trace.mk.inj same
  obtain ⟨output, diagnostics, dispatches⟩ := later
  rw [Trace.mk.injEq]
  exact ⟨List.append_right_eq_self.mp noOutput, List.append_right_eq_self.mp noDiagnostics,
    List.append_right_eq_self.mp noDispatches⟩

namespace Pruned

omit [Writer κ]

variable {whole rest : List (Visit κ γ σ)}

/-- A line that is left stands among all lines, and what stands before it is pruned. -/
theorem split {earlier later : List (Visit κ γ σ)} {visit : Visit κ γ σ}
    (pruned : Pruned whole (earlier ++ visit :: later)) :
    ∃ before after, whole = before ++ visit :: after ∧ Pruned before earlier := by
  generalize parts : earlier ++ visit :: later = rest at pruned
  induction pruned generalizing earlier with
  | nil => cases earlier <;> cases parts
  | @keep first whole rest left ih =>
    cases earlier with
    | nil =>
      cases parts
      exact ⟨[], whole, rfl, .nil⟩
    | cons _ earlier =>
      cases parts
      obtain ⟨before, after, rfl, among⟩ := ih rfl
      exact ⟨first :: before, after, rfl, .keep first among⟩
  | drop idle _ ih =>
    obtain ⟨before, after, rfl, among⟩ := ih parts
    exact ⟨_ :: before, after, rfl, .drop idle among⟩

/-- All lines that came to nothing can be left out. -/
theorem busy (whole : List (Visit κ γ σ)) : Pruned whole (whole.filter (!·.isIdle)) := by
  induction whole with
  | nil => exact .nil
  | cons visit whole ih =>
    cases idle : visit.isIdle with
    | true => simpa [idle] using .drop idle ih
    | false => simpa [idle] using .keep visit ih

/-- No line is left of none. -/
theorem of_nil (pruned : Pruned [] rest) : rest = [] := by
  cases pruned
  rfl

/-- Where lines that come to nothing hand on no record, the records handed on are the same without
them. -/
theorem dispatches (pruned : Pruned whole rest)
    (frame : ∀ visit ∈ whole, visit.isIdle = true → visit.step.trace.dispatches = []) :
    (Visit.traces whole).dispatches = (Visit.traces rest).dispatches := by
  induction pruned with
  | nil => rfl
  | keep visit _ ih =>
    exact congrArg (visit.step.trace.dispatches ++ ·) (ih (List.forall_mem_cons.mp frame).2)
  | @drop visit idle _ _ _ ih =>
    obtain ⟨first, frame⟩ := List.forall_mem_cons.mp frame
    change visit.step.trace.dispatches ++ _ = _
    rw [first idle]
    exact ih frame

end Pruned

/-! ## Lines one after the other -/

/-- The lines that a shell processes one after the other, each with a token that is cancelled
already or not. -/
def Shell.turns (shell : Shell γ σ) : List (String × Bool) → Session κ γ σ → List (Visit κ γ σ)
  | [], _ => []
  | (line, cancelled) :: rest, session =>
    let before := session.withToken cancelled
    let step := shell.processLine line before
    ⟨line, before, step⟩ :: shell.turns rest step.session

/-- The line that was processed, and its token. -/
def Visit.turn (visit : Visit κ γ σ) : String × Bool := (visit.line, visit.before.cancelled)

namespace Shell

/-- A session without some of its lines is the session of the other lines. -/
structure Prunes (shell : Shell γ σ) (session : Session κ γ σ) (whole rest : List (Visit κ γ σ)) :
    Prop where
  /-- The other lines are processed in the same sessions, and the same comes of them. -/
  same : shell.turns (rest.map Visit.turn) session = rest
  /-- They leave the same states of the handlers and the same sinks. -/
  leaves : (session.after rest).withToken false = (session.after whole).withToken false
  /-- Before each of them the same records were handed on, so its handler's call has the same
  number. -/
  numbers : ∀ earlier visit later, rest = earlier ++ visit :: later → ∃ before after,
    whole = before ++ visit :: after ∧
      (Visit.traces earlier).dispatches = (Visit.traces before).dispatches

variable {shell : Shell γ σ} {session : Session κ γ σ}

/-- Lines are processed in the same way in a session with another token. -/
theorem turns_withToken (lines : List (String × Bool)) (session : Session κ γ σ)
    (cancelled : Bool) :
    shell.turns lines (session.withToken cancelled) = shell.turns lines session := by
  cases lines with
  | nil => rfl
  | cons line rest => rfl

/-- What every line and every token keeps is so before every line of a session, and what comes of
the line is what the program makes of it. -/
theorem turns_invariant {Invariant : Session κ γ σ → Prop}
    (kept : ∀ line before, Invariant before → Invariant (shell.processLine line before).session)
    (retold : ∀ before cancelled, Invariant before → Invariant (before.withToken cancelled))
    {lines : List (String × Bool)} (start : Invariant session) {visit : Visit κ γ σ}
    (member : visit ∈ shell.turns lines session) :
    visit.step = shell.processLine visit.line visit.before ∧ Invariant visit.before := by
  induction lines generalizing session with
  | nil => cases member
  | cons line rest ih =>
    have before : Invariant (session.withToken line.2) := retold session line.2 start
    rcases List.mem_cons.mp member with rfl | member
    · exact ⟨rfl, before⟩
    · exact ih (kept line.1 _ before) member

/-- The lines of a session are those that were given. -/
theorem turns_map_turn (lines : List (String × Bool)) (session : Session κ γ σ) :
    (shell.turns lines session).map Visit.turn = lines := by
  induction lines generalizing session with
  | nil => rfl
  | cons line rest ih => exact congrArg (List.cons line) (ih _)

/-- Calling lines is processing them with tokens that are not cancelled. -/
theorem calls_eq_turns (lines : List String) (session : Session κ γ σ) :
    shell.calls lines session = shell.turns (lines.map fun line => (line, false)) session := by
  induction lines generalizing session with
  | nil => rfl
  | cons line rest ih =>
    rw [calls, ih]
    rfl

end Shell

namespace Registration

variable {registration : Registration γ σ} {shell : Shell γ σ} {session : Session κ γ σ}

/-- A session is open with any token. -/
theorem open_withToken (free : session.Open shell) (cancelled : Bool) :
    (session.withToken cancelled).Open shell :=
  ⟨free.states, free.output, free.diagnostics⟩

/-- Each line of a session is dispatched, in an open session with the same diagnostics. -/
theorem turns_dispatches (built : registration.build = .ok shell) (free : session.Open shell)
    {lines : List (String × Bool)} {visit : Visit κ γ σ}
    (member : visit ∈ shell.turns lines session) :
    (visit.before.Open shell ∧ visit.before.diagnostics = session.diagnostics) ∧
      visit.step = shell.processLine visit.line visit.before ∧
      Dispatches registration visit.line visit.before visit.step := by
  let Invariant : Session κ γ σ → Prop :=
    fun before => before.Open shell ∧ before.diagnostics = session.diagnostics
  have kept : ∀ line before, Invariant before →
      Invariant (shell.processLine line before).session := by
    rintro line before ⟨free, diagnostics⟩
    have done := dispatches_of_case built free (shell.processLine_case line before)
    exact ⟨open_processLine built free line, done.diagnostics_kept.trans diagnostics⟩
  have retold : ∀ before cancelled, Invariant before → Invariant (before.withToken cancelled) :=
    fun before cancelled ⟨free, diagnostics⟩ => ⟨open_withToken free cancelled, diagnostics⟩
  obtain ⟨processed, invariant⟩ := Shell.turns_invariant kept retold ⟨free, rfl⟩ member
  refine ⟨invariant, processed, ?_⟩
  rw [processed]
  exact dispatches_of_case built invariant.1 (shell.processLine_case visit.line visit.before)

/-- Without some lines that come to nothing, the other lines are processed in the same sessions and
leave the same. -/
theorem turns_same (built : registration.build = .ok shell) (free : session.Open shell)
    {lines : List (String × Bool)} {rest : List (Visit κ γ σ)}
    (pruned : Pruned (shell.turns lines session) rest) :
    shell.turns (rest.map Visit.turn) session = rest ∧
      (session.after rest).withToken false =
        (session.after (shell.turns lines session)).withToken false := by
  induction lines generalizing session rest with
  | nil =>
    rw [pruned.of_nil]
    exact ⟨rfl, rfl⟩
  | cons line lines ih =>
    have before : (session.withToken line.2).Open shell := open_withToken free line.2
    have after := open_processLine built before line.1
    cases pruned with
    | keep visit later =>
      obtain ⟨same, leaves⟩ := ih after later
      exact ⟨congrArg (List.cons _) same, leaves⟩
    | drop idle later =>
      obtain ⟨same, leaves⟩ := ih after later
      have done := dispatches_of_case built before (shell.processLine_case line.1 _)
      have kept : (shell.processLine line.1 (session.withToken line.2)).session =
          session.withToken line.2 := (done.idle_frame idle).1
      rw [kept] at same leaves
      rw [Shell.turns_withToken] at same
      rw [Session.after_withToken] at leaves
      refine ⟨same, leaves.trans ?_⟩
      rw [← kept]
      rfl

/-- Lines that come to nothing leave no trace: whatever the handlers and the tokens, in a session
without some of these lines each other line is processed in the same session, with the same outcome,
record and trace and the same number of its handler's call. The record of a line is what its command
reads in this line, whatever lines were before it. -/
theorem turns_prune (built : registration.build = .ok shell) (free : session.Open shell)
    (lines : List (String × Bool)) {rest : List (Visit κ γ σ)}
    (pruned : Pruned (shell.turns lines session) rest) :
    shell.Prunes session (shell.turns lines session) rest ∧
      ∀ visit ∈ shell.turns lines session, ∀ dispatch ∈ visit.step.trace.dispatches, ∃ command,
        registration.commands[dispatch.command]? = some command ∧
          command.read? (Line.tokens visit.line) = some (.ok dispatch.record) := by
  have frame : ∀ visit ∈ shell.turns lines session, visit.isIdle = true →
      visit.step.trace.dispatches = [] := by
    intro visit member idle
    obtain ⟨_, _, done⟩ := turns_dispatches built free member
    exact (done.idle_frame idle).2
  obtain ⟨same, leaves⟩ := turns_same built free pruned
  refine ⟨⟨same, leaves, ?_⟩, fun visit member dispatch handed => ?_⟩
  · rintro earlier visit later rfl
    obtain ⟨before, after, parts, among⟩ := pruned.split
    refine ⟨before, after, parts, (among.dispatches fun other member => ?_).symm⟩
    refine frame other ?_
    rw [parts]
    exact List.mem_append_left _ member
  · obtain ⟨_, processed, _⟩ := turns_dispatches built free member
    rw [processed] at handed
    obtain ⟨command, stands, read, _⟩ :=
      (shell.processLine_case visit.line visit.before).handed handed
    rw [(build_accepted built).2] at stands
    exact ⟨command, stands, read⟩

/-- Wrong lines between two dispatches, one of them with a value that does not convert. -/
theorem turns_prune_waits : ∃ shell session lines rest,
    Sample.registration.build = .ok shell ∧
      session = shell.session 0 Sink.unlimited (some .unlimited) ⟨[], false⟩ ∧
      lines = ["wait 7", "wait 256", "", "run --fast", "walk", "WAIT 3"].map (·, false) ∧
      rest = ["wait 7", "WAIT 3"].map (·, false) ∧
      shell.Prunes session (shell.turns lines session) (shell.turns rest session) := by
  obtain ⟨shell, built, same⟩ : ∃ shell, Sample.registration.build = .ok shell ∧ shell = _ :=
    ⟨_, build_ok_iff.mpr ⟨Sample.registration_sound, rfl⟩, rfl⟩
  have free : (shell.session 0 Sink.unlimited (some .unlimited) ⟨[], false⟩).Open shell :=
    shell.session_unlimited 0 _
  let lines := ["wait 7", "wait 256", "", "run --fast", "walk", "WAIT 3"].map (·, false)
  obtain ⟨prunes, _⟩ := turns_prune built free lines (.busy _)
  refine ⟨shell, _, lines, _, built, rfl, rfl, rfl, ?_⟩
  have left : ((shell.turns lines (shell.session 0 Sink.unlimited (some .unlimited)
      ⟨[], false⟩)).filter (!·.isIdle)).map Visit.turn =
        ["wait 7", "WAIT 3"].map (·, false) := by
    rw [same]
    decide +kernel
  rw [← left, prunes.same]
  exact prunes

end Registration

/-! ## Runs -/

namespace Shell

variable {shell : Shell γ σ} {session : Session κ γ σ}

/-- The first call of some lines, with a token that is not cancelled, is that of the first line. -/
theorem callLines_cons (unasked : session.cancelled = false) (line : List UInt8)
    (handled : List (List UInt8)) {step : Step κ γ σ LineOutcome}
    (processed : shell.processLine (Input.lineText line) session = step) :
    shell.callLines (line :: handled) session =
      ⟨Input.lineText line, session.unfed, step.withInput ⟨[], false⟩⟩ ::
        shell.callLines handled step.session := by
  have fresh : session.unfed.withToken false = session.unfed := by
    rw [Session.withToken, ← unasked]
    rfl
  have alike : shell.processLine (Input.lineText line) session.unfed =
      step.withInput ⟨[], false⟩ := by
    rw [← processed]
    exact processLine_withInput _ _ _ _
  rw [callLines, List.map_cons, calls, fresh, alike]
  rfl

/-- Where a run goes on after all lines but the last, it goes on after the first, unless this is the
last, and after all others but the last. -/
theorem goesOn_cons (unasked : session.cancelled = false) {line : List UInt8}
    {handled : List (List UInt8)} {step : Step κ γ σ LineOutcome}
    (processed : shell.processLine (Input.lineText line) session = step)
    (goesOn : ∀ visit ∈ (shell.callLines (line :: handled) session).dropLast, visit.GoesOn) :
    (step.session.cancelled = true → handled = []) ∧
      ∀ visit ∈ (shell.callLines handled step.session).dropLast, visit.GoesOn := by
  rw [callLines_cons unasked line handled processed] at goesOn
  cases handled with
  | nil => exact ⟨fun _ => rfl, by simp⟩
  | cons next handled =>
    have further : shell.callLines (next :: handled) step.session ≠ [] := List.cons_ne_nil _ _
    rw [List.dropLast_cons_of_ne_nil further] at goesOn
    obtain ⟨first, others⟩ := List.forall_mem_cons.mp goesOn
    exact ⟨fun asked => absurd asked (ne_true_of_eq_false first.2), others⟩

end Shell

namespace Registration

variable {registration : Registration γ σ} {shell : Shell γ σ} {session : Session κ γ σ}

/-- Without handled lines that come to nothing, a run does the same with the other lines, up to what
the left out lines add. -/
theorem runLines_same (built : registration.build = .ok shell) (free : session.Open shell)
    (sound : session.input.breaks = false) {handled kept : List (List UInt8)}
    (unread : List (List UInt8)) (asked : session.cancelled = true → handled = [])
    (goesOn : ∀ visit ∈ (shell.callLines handled session).dropLast, visit.GoesOn)
    {rest : List (Visit κ γ σ)} (pruned : Pruned (shell.callLines handled session) rest)
    (alike : kept.map Input.lineText = rest.map Visit.line) : ∃ later : Trace,
      (shell.runLines (handled ++ unread) session).trace =
        Visit.traces (shell.callLines handled session) ++ later ∧
      shell.runLines (kept ++ unread) session =
        { shell.runLines (handled ++ unread) session with
          trace := Visit.traces rest ++ later } := by
  induction handled generalizing session rest kept with
  | nil =>
    rw [Shell.callLines_nil] at pruned
    rw [pruned.of_nil, List.map_nil, List.map_eq_nil_iff] at alike
    rw [pruned.of_nil, alike]
    exact ⟨(shell.runLines unread session).trace, rfl, rfl⟩
  | cons line handled ih =>
    have unasked : session.cancelled = false := by
      refine eq_false_of_ne_true fun token => ?_
      exact List.cons_ne_nil _ _ (asked token)
    cases processed : shell.processLine (Input.lineText line) session with
    | mk result after trace =>
    have done := dispatches_of_case built free (shell.processLine_case (Input.lineText line) _)
    have free' := open_processLine built free (Input.lineText line)
    have fed : after.input = session.input := by
      rw [← shell.processLine_input (Input.lineText line) session, processed]
    rw [processed] at done free'
    obtain ⟨outcome, finished⟩ := done.finishes
    obtain ⟨asked', goesOn'⟩ := Shell.goesOn_cons unasked processed goesOn
    change after.cancelled = true → handled = [] at asked'
    rw [Shell.callLines_cons unasked line handled processed] at pruned ⊢
    rw [List.cons_append, Shell.runLines_next sound unasked line _ processed finished]
    cases pruned with
    | keep visit left =>
      cases kept with
      | nil => cases alike
      | cons first kept =>
        obtain ⟨same, alike⟩ := List.cons.inj alike
        obtain ⟨later, whole, shortened⟩ :=
          ih free' (fed ▸ sound) asked' goesOn' left alike
        refine ⟨later, ?_, ?_⟩
        · change trace ++ (shell.runLines (handled ++ unread) after).trace = _
          rw [whole, ← Trace.append_assoc]
          rfl
        · change Input.lineText first = Input.lineText line at same
          rw [List.cons_append, Shell.runLines_next sound unasked first _ (same ▸ processed)
            finished, shortened, ← Trace.append_assoc]
          rfl
    | drop idle left =>
      have unmoved : after = session := (done.idle_frame idle).1
      subst unmoved
      obtain ⟨later, whole, shortened⟩ := ih free sound asked' goesOn' left alike
      refine ⟨later, ?_, ?_⟩
      · change trace ++ (shell.runLines (handled ++ unread) after).trace = _
        rw [whole, ← Trace.append_assoc]
        rfl
      · rw [shortened]

/-- A run whose input lacks some of the lines that would come to nothing handles the others alike:
it ends in the same session, with the same lines unread, and adds what the others add. -/
theorem run_prune (built : registration.build = .ok shell) (free : session.Open shell)
    (sound : session.input.breaks = false) {handled unread kept : List (List UInt8)}
    (lines : session.input.lines = handled ++ unread)
    (refines : shell.Refines session handled unread (shell.run session)) {rest : List (Visit κ γ σ)}
    (pruned : Pruned (shell.callLines handled session) rest)
    (alike : kept.map Input.lineText = rest.map Visit.line) :
    shell.run (session.withInput ⟨kept ++ unread, false⟩) =
      { shell.run session with trace := Visit.traces rest } := by
  obtain ⟨later, whole, shortened⟩ :=
    runLines_same built free sound unread refines.idle refines.goesOn pruned alike
  have ran : shell.run session = shell.runLines (handled ++ unread) session := by
    rw [Shell.run, lines]
  rw [← ran] at whole shortened
  rw [refines.trace] at whole
  rw [Trace.eq_empty whole.symm, Trace.append_empty] at shortened
  rw [← shortened]
  exact Shell.runLines_withInput sound (kept ++ unread) (kept ++ unread)

end Registration

end Switchboard
