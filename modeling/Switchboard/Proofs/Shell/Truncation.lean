import Switchboard.Proofs.Shell.Limits
/-!
# Sinks that run full

A run on sinks with limits is compared with the same run on sinks that accept all writes. Up to the
first refusal both do the same. After a refusal of the output nothing more is taken, whatever the
handlers do then, and after one of the diagnostics the run is over. So what the limited output takes
is a beginning of what the other takes, for any commands and any input (`Shell.Runs.begins`).
-/
namespace Switchboard

variable {κ γ σ : Type} [Writer κ]

/-! ## Runs -/

/-- A session reads a line next: it is not cancelled, and the line can be read to its end. -/
structure Session.Reads (session : Session κ γ σ) (line : List UInt8)
    (rest : List (List UInt8)) : Prop where
  /-- The session is not cancelled. -/
  unasked : session.cancelled = false
  /-- The line is the next one. -/
  lines : session.input.lines = line :: rest
  /-- If the input breaks after its last byte, the line ends before. -/
  whole : session.input.breaks = true → Input.isEnded line = true

namespace Shell

/-- What a shell makes of the next line of the input. -/
def visit (shell : Shell γ σ) (line : List UInt8) (rest : List (List UInt8))
    (session : Session κ γ σ) : Visit κ γ σ :=
  let before := session.withInput ⟨rest, session.input.breaks⟩
  ⟨Input.lineText line, before, shell.processLine (Input.lineText line) before⟩

/-- A run of a session, on input that may break: the lines that it processes, and what it comes
to. -/
inductive Runs (shell : Shell γ σ) :
    Session κ γ σ → List (Visit κ γ σ) → Step κ γ σ Unit → Prop where
  /-- The session is cancelled. -/
  | cancelled {session : Session κ γ σ} (asked : session.cancelled = true) :
      Runs shell session [] ⟨.ok (), session, {}⟩
  /-- The input has ended. -/
  | ended {session : Session κ γ σ} (exhausted : session.input = ⟨[], false⟩) :
      Runs shell session [] ⟨.ok (), session, {}⟩
  /-- The input breaks before another line ends. -/
  | broken {session : Session κ γ σ} (unasked : session.cancelled = false)
      (breaks : session.input.breaks = true)
      (unended : ∀ line ∈ session.input.lines.head?, Input.isEnded line = false) :
      Runs shell session []
        ⟨.error ⟨Input.breakage⟩, session.withInput ⟨session.input.lines.tail, true⟩, {}⟩
  /-- The next line is interrupted. -/
  | interrupted {session : Session κ γ σ} {line : List UInt8} {rest : List (List UInt8)}
      {interruption : Interruption} (reads : session.Reads line rest)
      (failed : (shell.visit line rest session).step.result = .error interruption) :
      Runs shell session [shell.visit line rest session] ⟨.error interruption,
        (shell.visit line rest session).step.session, (shell.visit line rest session).step.trace⟩
  /-- The next line has an outcome, and the run goes on in the session that the line leaves. -/
  | next {session : Session κ γ σ} {line : List UInt8} {rest : List (List UInt8)}
      {outcome : LineOutcome} {visits : List (Visit κ γ σ)} {step : Step κ γ σ Unit}
      (reads : session.Reads line rest)
      (finished : (shell.visit line rest session).step.result = .ok outcome)
      (later : Runs shell (shell.visit line rest session).step.session visits step) :
      Runs shell session (shell.visit line rest session :: visits)
        { step with trace := (shell.visit line rest session).step.trace ++ step.trace }

variable {shell : Shell γ σ} {session : Session κ γ σ}

section Visit

variable (shell : Shell γ σ) (line : List UInt8) (rest : List (List UInt8))
  (session : Session κ γ σ)

/-- What a shell makes of the next line is what it makes of any line. -/
theorem visit_step : (shell.visit line rest session).step =
    shell.processLine (shell.visit line rest session).line
      (shell.visit line rest session).before := by
  simp only [visit]

/-- What a shell makes of the next line leaves the lines after it. -/
theorem visit_lines : (shell.visit line rest session).step.session.input.lines = rest := by
  simp only [visit, processLine_input]
  rfl

end Visit

/-- A run that reads a line processes it, and goes on unless it is interrupted. -/
theorem run_read {line : List UInt8} {rest : List (List UInt8)} (reads : session.Reads line rest) :
    shell.run session = (shell.visit line rest session).step.andThen shell.run := by
  have whole : (session.input.breaks && !Input.isEnded line) = false := by
    cases breaks : session.input.breaks with
    | false => rfl
    | true => rw [reads.whole breaks]; rfl
  have processed : shell.run session =
      (shell.processLine (Input.lineText line)
        (session.withInput ⟨rest, session.input.breaks⟩)).andThen (shell.runLines rest) := by
    have unasked : ¬ session.cancelled = true := ne_true_of_eq_false reads.unasked
    rw [run, reads.lines, runLines, if_neg unasked]
    exact if_neg (ne_true_of_eq_false whole)
  have left := shell.visit_lines line rest session
  simp only [visit] at left
  simp only [processed, visit, Step.andThen]
  cases (shell.processLine (Input.lineText line)
      (session.withInput ⟨rest, session.input.breaks⟩)).result with
  | error interruption => rfl
  | ok outcome => simp only [run, left]

/-- A run of a cancelled session changes nothing. -/
theorem run_asked (asked : session.cancelled = true) :
    shell.run session = ⟨.ok (), session, {}⟩ := by
  obtain ⟨common, states, output, diagnostics, cancelled, lines, breaks⟩ := session
  cases asked
  cases lines with
  | nil => rfl
  | cons line rest => rfl

/-- A run changes nothing where the input has ended. -/
theorem run_ended (exhausted : session.input = ⟨[], false⟩) :
    shell.run session = ⟨.ok (), session, {}⟩ := by
  obtain ⟨common, states, output, diagnostics, cancelled, input⟩ := session
  cases exhausted
  cases cancelled with
  | true => rfl
  | false => rfl

/-- A run is interrupted where the input breaks before another line ends. -/
theorem run_broken (unasked : session.cancelled = false) (breaks : session.input.breaks = true)
    (unended : ∀ line ∈ session.input.lines.head?, Input.isEnded line = false) :
    shell.run session = ⟨.error ⟨Input.breakage⟩,
      session.withInput ⟨session.input.lines.tail, true⟩, {}⟩ := by
  obtain ⟨common, states, output, diagnostics, cancelled, lines, breaks⟩ := session
  cases unasked
  cases breaks
  cases lines with
  | nil => rfl
  | cons line rest =>
    have whole : (true && !Input.isEnded line) = true := by rw [unended line rfl]; rfl
    rw [run, runLines, if_neg Bool.false_ne_true]
    exact if_pos whole

/-- What is run so is what the program runs. -/
theorem Runs.eq_run {visits : List (Visit κ γ σ)} {step : Step κ γ σ Unit}
    (ran : shell.Runs session visits step) : step = shell.run session := by
  induction ran with
  | cancelled asked => exact (run_asked asked).symm
  | ended exhausted => exact (run_ended exhausted).symm
  | broken unasked breaks unended => exact (run_broken unasked breaks unended).symm
  | interrupted reads failed =>
    rw [run_read reads, Step.andThen, failed]
  | next reads finished later ih =>
    rw [run_read reads, Step.andThen, finished, ih]

/-- A run stops before another line, or it reads one. -/
theorem stops_or_reads (shell : Shell γ σ) (session : Session κ γ σ) :
    (∃ step, shell.Runs session [] step) ∨ ∃ line rest, session.Reads line rest := by
  cases asked : session.cancelled with
  | true => exact .inl ⟨_, .cancelled asked⟩
  | false =>
    cases breaks : session.input.breaks with
    | false =>
      cases lines : session.input.lines with
      | nil =>
        have exhausted : session.input = ⟨[], false⟩ := by rw [← lines, ← breaks]
        exact .inl ⟨_, .ended exhausted⟩
      | cons line rest =>
        exact .inr ⟨line, rest, asked, lines, fun broken => by rw [breaks] at broken; cases broken⟩
    | true =>
      by_cases unended : ∀ line ∈ session.input.lines.head?, Input.isEnded line = false
      · exact .inl ⟨_, .broken asked breaks unended⟩
      · cases lines : session.input.lines with
        | nil =>
          rw [lines] at unended
          exact absurd (fun line member => by cases member) unended
        | cons line rest =>
          have ended : Input.isEnded line = true := by simpa [lines] using unended
          exact .inr ⟨line, rest, asked, lines, fun _ => ended⟩

/-- The program runs so. -/
theorem runs_run (shell : Shell γ σ) (session : Session κ γ σ) :
    ∃ visits, shell.Runs session visits (shell.run session) := by
  induction lines : session.input.lines generalizing session with
  | nil =>
    rcases shell.stops_or_reads session with ⟨step, stops⟩ | ⟨line, rest, reads⟩
    · exact ⟨[], stops.eq_run ▸ stops⟩
    · have read := reads.lines
      rw [lines] at read
      cases read
  | cons line rest ih =>
    rcases shell.stops_or_reads session with ⟨step, stops⟩ | ⟨line, rest, reads⟩
    · exact ⟨[], stops.eq_run ▸ stops⟩
    · have read := reads.lines
      rw [lines] at read
      cases read
      cases result : (shell.visit line rest session).step.result with
      | error interruption =>
        have ran : shell.Runs session _ _ := .interrupted reads result
        exact ⟨_, ran.eq_run ▸ ran⟩
      | ok outcome =>
        obtain ⟨visits, later⟩ := ih _ (shell.visit_lines line rest session)
        have ran : shell.Runs session _ _ := .next reads result later
        exact ⟨_, ran.eq_run ▸ ran⟩

namespace Runs

variable {visits : List (Visit κ γ σ)} {step : Step κ γ σ Unit}

/-- A run goes on after a line that has an outcome as it would begin in the session that the line
leaves, and it ends with a line that is interrupted. -/
theorem at_visit {earlier later : List (Visit κ γ σ)} {visit : Visit κ γ σ}
    (ran : shell.Runs session visits step) (split : visits = earlier ++ visit :: later) :
    visit.step = shell.processLine visit.line visit.before ∧
      (∀ interruption, visit.step.result = .error interruption →
        later = [] ∧ step.result = .error interruption) ∧
      ∀ outcome, visit.step.result = .ok outcome →
        shell.Runs visit.step.session later (shell.run visit.step.session) ∧
          step.result = (shell.run visit.step.session).result := by
  induction ran generalizing earlier with
  | cancelled | ended | broken => exact absurd split (by simp)
  | @interrupted session line rest interruption reads failed =>
    cases earlier with
    | nil =>
      obtain ⟨same, final⟩ := List.cons.inj split
      subst same
      refine ⟨shell.visit_step line rest session, fun other failed' => ⟨final.symm, ?_⟩,
        fun outcome finished => ?_⟩
      · rw [failed] at failed'
        cases failed'
        rfl
      · rw [failed] at finished
        cases finished
    | cons _ earlier => simp at split
  | @next session line rest outcome visits step reads finished after ih =>
    cases earlier with
    | nil =>
      obtain ⟨same, rest⟩ := List.cons.inj split
      subst same rest
      refine ⟨shell.visit_step line _ session, fun other failed => ?_, fun other _ => ?_⟩
      · rw [finished] at failed
        cases failed
      · rw [← after.eq_run]
        exact ⟨after, rfl⟩
    | cons first earlier => exact ih (List.cons.inj split).2

end Runs

/-! ## On sinks with limits -/

section Limits

section Visit

variable (shell : Shell γ σ) (line : List UInt8) (rest : List (List UInt8))
  (session : Session Sink γ σ)

/-- What the next line sends is taken from the room of the output. -/
theorem visit_spends : session.output.Spends (shell.visit line rest session).step.session.output
    (shell.visit line rest session).step.trace.output := by
  have spends := shell.processLine_spends (Input.lineText line)
    (session.withInput ⟨rest, session.input.breaks⟩)
  simp only [visit]
  exact spends

/-- The next line comes to the same where all is accepted, until a sink refuses. -/
theorem visit_curbed : Step.Curbed (shell.visit line rest session.opened).step
    (shell.visit line rest session).step := by
  have curbed := shell.processLine_curbed (Input.lineText line)
    (session.withInput ⟨rest, session.input.breaks⟩)
  simp only [visit]
  exact curbed

end Visit

variable {session : Session Sink γ σ} {visits : List (Visit Sink γ σ)} {step : Step Sink γ σ Unit}

/-- What a run sends is taken from the room of the output. -/
theorem Runs.spends (ran : shell.Runs session visits step) :
    session.output.Spends step.session.output step.trace.output := by
  induction ran with
  | cancelled | ended | broken => exact .refl _
  | @interrupted session line rest =>
    dsimp only
    exact shell.visit_spends line rest session
  | @next session line rest _ _ _ _ _ _ ih => exact (shell.visit_spends line rest session).trans ih

/-- What a run sends is a beginning of what it sends on sinks that accept all writes. -/
theorem Runs.begins (ran : shell.Runs session visits step) :
    step.trace.output <+: (shell.run session.opened).trace.output := by
  induction ran with
  | cancelled | ended | broken => exact List.nil_prefix
  | @interrupted session line rest interruption reads failed =>
    have reads' : session.opened.Reads line rest := ⟨reads.unasked, reads.lines, reads.whole⟩
    rw [run_read reads']
    dsimp only
    exact (shell.visit_curbed line rest session).begins.trans (Step.andThen_begins _ _)
  | @next session line rest outcome visits step reads finished later ih =>
    have reads' : session.opened.Reads line rest := ⟨reads.unasked, reads.lines, reads.whole⟩
    have curbed := shell.visit_curbed line rest session
    rw [run_read reads']
    generalize shell.visit line rest session.opened = free at curbed
    generalize shell.visit line rest session = visit at *
    change visit.step.trace.output ++ step.trace.output <+: _
    cases curbed with
    | interrupted _ failed =>
      rw [finished] at failed
      cases failed
    | spent begins full =>
      -- The run can go on, and otherwise than where all is accepted, but its output takes no more.
      rw [(later.spends.nothing full).1, List.append_nil]
      exact begins.trans (Step.andThen_begins _ _)
    | alike result sent after =>
      rw [Step.andThen, result]
      change _ <+: free.step.trace.output ++ (shell.run free.step.session).trace.output
      rw [sent, after]
      exact (List.prefix_append_right_inj _).mpr ih

end Limits

end Shell

end Switchboard
