import Switchboard.Proofs.Record.Printing
import Switchboard.Proofs.Registry.Records
import Switchboard.Proofs.Shell.Failures
import Switchboard.Proofs.Switches.Told
/-!
# One line for each line

Who reads the output and the diagnostics of a session tells from the line breaks what belongs to
which line of the input. This works for every registry whose texts are on one line, and for any
bytes: of each handled line the output has one line, the help or nothing, and the diagnostics have
one line or nothing (`Registry.Frames`); together these are all that a run adds
(`Registry.run_framed`).
-/
namespace Switchboard

open Text

variable {κ γ σ : Type} [Writer κ]

/-! ## Lines of the input -/

/-- Of the characters of a line of the input only the last can be a line break. -/
theorem Input.textOf_inside {line : List UInt8} (inside : 10 ∉ line.dropLast) :
    '\n' ∉ (textOf line).toList.dropLast := by
  have solid : ∀ bytes : List UInt8, 10 ∉ bytes → '\n' ∉ decodeAfter none bytes :=
    fun bytes absent => not_mem_decodeAfter none_wide absent
  rw [textOf, String.toList_ofList]
  rcases List.eq_nil_or_concat line with rfl | ⟨body, last, rfl⟩
  · exact List.not_mem_nil
  · rw [List.concat_eq_append, List.dropLast_concat] at inside
    rw [List.concat_eq_append]
    by_cases ended : last = 10
    · rw [ended, decodeAfter_concat none_wide, List.dropLast_concat]
      exact solid body inside
    · have absent : 10 ∉ body ++ [last] := by simp [inside, Ne.symm ended]
      exact fun member => solid _ absent (List.dropLast_subset _ member)

/-- Whatever its bytes, what is processed of a line of the input is on one line. -/
theorem Input.lineText_oneLine {line : List UInt8} (inside : 10 ∉ line.dropLast) :
    OneLine (lineText line) := by
  obtain ⟨ending, whole, _⟩ := (lineText_trims line).ending
  have absent := textOf_inside inside
  intro member
  by_cases none : ending = []
  · -- Nothing is left out, so a line break would stand at the end of what is processed.
    rw [whole, none, List.append_nil] at absent
    rcases List.eq_nil_or_concat (lineText line).toList with empty | ⟨before, last, same⟩
    · rw [empty] at member
      cases member
    · rw [List.concat_eq_append] at same
      rw [same, List.dropLast_concat] at absent
      rw [same] at member
      rcases List.mem_append.mp member with among | final
      · exact absent among
      · have bare := (lineText_trims line).bare last (by rw [same, List.getLast?_concat])
        exact bare.2 (List.mem_singleton.mp final).symm
  · rw [whole, List.dropLast_append_of_ne_nil none] at absent
    exact absent (List.mem_append_left _ member)

/-! ## The texts of a registry -/

/-- The texts of a switch that are repeated to the user are on one line. -/
def ParameterSpec.Told (spec : ParameterSpec) : Prop :=
  OneLine spec.name ∧ ∀ value ∈ spec.value, OneLine value

instance (spec : ParameterSpec) : Decidable spec.Told := inferInstanceAs (Decidable (_ ∧ _))

/-- The texts of a command that are repeated to the user are on one line. -/
def CommandSpec.Told : CommandSpec → Prop
  | fixed template _ _ => OneLine template
  | switched name _ _ parameters => OneLine name ∧ ∀ parameter ∈ parameters, parameter.Told

instance : (spec : CommandSpec) → Decidable spec.Told
  | .fixed template _ _ => inferInstanceAs (Decidable (OneLine template))
  | .switched _ _ _ _ => inferInstanceAs (Decidable (_ ∧ _))

/-- The texts of a registry that are repeated to the user are on one line: the templates, the
switches and the templates of their values. -/
def Registry.Told (registry : Registry) : Prop :=
  (∀ spec ∈ registry.commands, spec.Told) ∧ ∀ template ∈ registry.exitCommand, OneLine template

instance (registry : Registry) : Decidable registry.Told := inferInstanceAs (Decidable (_ ∧ _))

/-- A switch that is declared on one line is told on one line. -/
theorem ParameterSpec.Told.parameter {spec : ParameterSpec} (told : spec.Told) {command : String}
    {parameter : Parameter} (made : spec.parameter command = .ok parameter) : parameter.Told := by
  unfold ParameterSpec.parameter at made
  cases kind : spec.kind? with
  | none =>
    rw [kind] at made
    cases made
  | some kind' =>
    rw [kind] at made
    cases made
    refine ⟨told.1, fun template takes => ?_⟩
    change kind' = .valued template at takes
    rw [takes] at kind
    unfold kind? at kind
    split at kind
    · rename_i value declared _
      cases kind
      exact told.2 value declared
    · cases kind
    · cases kind

/-- Switches that are declared on one line are told on one line. -/
theorem ParameterSpec.told_of_forall₂ {command : String} {specs : List ParameterSpec}
    {parameters : List Parameter} (told : ∀ spec ∈ specs, spec.Told)
    (made : List.Forall₂ (fun spec parameter => spec.parameter command = .ok parameter) specs
      parameters) : ∀ parameter ∈ parameters, parameter.Told := by
  induction made with
  | nil => exact List.forall_mem_nil _
  | cons first _ ih =>
    obtain ⟨one, others⟩ := List.forall_mem_cons.mp told
    exact List.forall_mem_cons.mpr ⟨one.parameter first, ih others⟩

/-- A command that is declared on one line is told on one line. -/
theorem CommandSpec.Told.template {spec : CommandSpec} (told : spec.Told)
    {command : Command Unit Unit} (made : spec.command = .ok command) : command.template.Told := by
  cases spec with
  | fixed template description fields =>
    cases made
    exact told
  | switched name description fields parameters =>
    simp only [CommandSpec.command] at made
    cases read : parameters.mapM (ParameterSpec.parameter name) with
    | error ambiguous =>
      rw [read] at made
      cases made
    | ok parameters' =>
      rw [read] at made
      cases made
      exact ⟨told.1, ParameterSpec.told_of_forall₂ told.2 (mapM_ok_iff.mp read)⟩

/-! ## One line -/

/-- What one entry is in the diagnostics: a line, if there are any. -/
def IsEntry (diagnosing : Bool) (bytes : List UInt8) : Prop :=
  if diagnosing then IsLine bytes else bytes = []

omit [Writer κ] in
/-- A text on one line is noted as an entry. -/
theorem Session.noted_isEntry (session : Session κ γ σ) {entry : String} (one : OneLine entry) :
    IsEntry session.diagnostics.isSome (session.noted entry) := by
  unfold IsEntry noted
  cases session.diagnostics.isSome with
  | true => exact one.isLine
  | false => rfl

/-- What a line of the shell of a registry comes to, and what is seen of it. -/
inductive Registry.Frames (registry : Registry) (help : String) (diagnosing : Bool)
    (line : String) : Step κ Unit Unit LineOutcome → Prop where
  /-- Nothing is seen of a line without tokens. -/
  | blank {after : Session κ Unit Unit} (untyped : Line.tokens line = []) :
      Frames registry help diagnosing line ⟨.ok .skipped, after, {}⟩
  /-- Nothing is seen of the command that ends the session. -/
  | exited {after : Session κ Unit Unit} {template : String} {record : Record}
      (exits : registry.exitCommand = some template) (cancels : after.cancelled = true) :
      Frames registry help diagnosing line
        ⟨.ok .handled, after, { dispatches := [⟨registry.commands.length, record⟩] }⟩
  /-- A command that is listed prints its record on one line. -/
  | printed {after : Session κ Unit Unit} {place : Nat} {spec : CommandSpec} {record : Record}
      {output : List UInt8} (listed : registry.commands[place]? = some spec)
      (prints : output = bytesOf (dispatchLine spec.title record ++ "\n")) (one : IsLine output) :
      Frames registry help diagnosing line
        ⟨.ok .handled, after, { output, dispatches := [⟨place, record⟩] }⟩
  /-- A line that asks for the help is answered with its text and a line break. -/
  | helped {after : Session κ Unit Unit}
      (asks : (Template.fixed helpTemplate).Fits (Line.tokens line)) :
      Frames registry help diagnosing line
        ⟨.ok .handled, after, { output := bytesOf (help ++ "\n") }⟩
  /-- A line that fits no command is answered with one line. -/
  | notFound {after : Session κ Unit Unit} {output : List UInt8} (answer : IsLine output) :
      Frames registry help diagnosing line ⟨.ok .notFound, after, { output }⟩
  /-- A line that is rejected is answered with one line and noted with one entry. -/
  | rejected {after : Session κ Unit Unit} {rejection : Rejection} {output diagnostics : List UInt8}
      (answer : IsLine output) (entry : IsEntry diagnosing diagnostics) :
      Frames registry help diagnosing line
        ⟨.ok (.rejected rejection), after, { output, diagnostics }⟩
  /-- A line that is malformed is answered with one line and noted with one entry. -/
  | malformed {after : Session κ Unit Unit} {error : BindError} {output diagnostics : List UInt8}
      (answer : IsLine output) (entry : IsEntry diagnosing diagnostics) :
      Frames registry help diagnosing line
        ⟨.ok (.malformed error), after, { output, diagnostics }⟩

namespace Registry

variable {registry : Registry} {help : HelpSupport} {registration : Registration Unit Unit}
  {shell : Shell Unit Unit}

/-- The commands of a registry whose texts are on one line are told on one line. -/
theorem Told.command (told : registry.Told)
    (registered : registry.registration help = .ok registration) {place : Nat}
    {command : Command Unit Unit} (stands : registration.commands[place]? = some command) :
    command.template.Told := by
  rcases command_cases registered stands with ⟨spec, listed, made⟩ | ⟨_, template, exits, rfl⟩
  · exact (told.1 spec (List.mem_of_getElem? listed)).template made
  · exact told.2 template exits

/-- What is wrong with a line repeats texts on one line only. -/
theorem Told.fault (told : registry.Told)
    (registered : registry.registration help = .ok registration)
    (built : registration.build = .ok shell) {line : String} (one : OneLine line) {place : Nat}
    {command : Command Unit Unit} (stands : registration.commands[place]? = some command)
    {fault : Fault} (failed : command.read? (Line.tokens line) = some (.error fault)) :
    fault.Told := by
  have among : command ∈ registration.commands := List.mem_of_getElem? stands
  have each : ∀ token ∈ Line.tokens line, OneLine token :=
    fun token member => one.of_subset (Line.tokens_subset line token member)
  exact Command.read?_told (Registration.build_accepted built).1 (List.mem_map_of_mem among)
    (told.command registered stands) each failed

/-- A command of a registry prints the record, and the exit command cancels and prints nothing. -/
theorem performance_cases (registered : registry.registration help = .ok registration)
    {place : Nat} {command : Command Unit Unit}
    (stands : registration.commands[place]? = some command) (state : Unit × Unit)
    (record : Record) {console : Console κ} (accepts : Writer.Accepts console.output) :
    (∃ spec, registry.commands[place]? = some spec ∧
        (command.handler state record).perform console =
          ⟨state, .done, console, bytesOf (dispatchLine spec.title record ++ "\n")⟩) ∨
      (place = registry.commands.length ∧ ∃ template, registry.exitCommand = some template ∧
        (command.handler state record).perform console =
          ⟨state, .done, { console with cancelled := true }, []⟩) := by
  rcases command_cases registered stands with ⟨spec, listed, made⟩ | ⟨last, template, exits, rfl⟩
  · refine .inl ⟨spec, listed, ?_⟩
    rw [(CommandSpec.command_eq made).2, printHandler, Reaction.writeLine_open _ _ _ accepts]
  · exact .inr ⟨last, template, exits, rfl⟩

/-- No command of a registry fails where the output accepts all writes. -/
theorem performance_done (registered : registry.registration help = .ok registration)
    {place : Nat} {command : Command Unit Unit}
    (stands : registration.commands[place]? = some command) (state : Unit × Unit)
    (record : Record) {console : Console κ} (accepts : Writer.Accepts console.output) :
    ((command.handler state record).perform console).verdict = .done := by
  rcases performance_cases registered stands state record accepts with
    ⟨_, _, prints⟩ | ⟨_, _, _, cancels⟩
  · rw [prints]
  · rw [cancels]

/-- What is seen of a line is told from the line breaks. -/
theorem frames_of_dispatches (told : registry.Told)
    (registered : registry.registration help = .ok registration)
    (built : registration.build = .ok shell) {line : String} (one : OneLine line)
    {session : Session κ Unit Unit} (free : session.Open shell)
    {step : Step κ Unit Unit LineOutcome}
    (done : Dispatches registration line session step) :
    registry.Frames registration.helpText session.diagnostics.isSome line step := by
  have accepts : Writer.Accepts session.console.output := free.output
  cases done with
  | skipped blank => exact .blank blank
  | notFound =>
    have reply : ∀ hint, OneLine (notFoundReply hint) := by decide
    exact .notFound (reply _).isLine
  | @rejected place command rejection typed stands first read =>
    have fault : rejection.Told := told.fault registered built one stands read
    have heading := (told.command registered stands).heading
    exact .rejected (fault.reply heading).isLine (session.noted_isEntry (fault.entry one))
  | @malformed place command error typed stands first read =>
    have fault : error.Told := told.fault registered built one stands read
    have reply : OneLine "Incorrect command format." := by decide
    cases error with
    | unknownField => cases fault
    | conversion => exact .malformed reply.isLine (session.noted_isEntry (fault.entry one))
  | @handled place command record state performance typed stands first read held performed =>
    rcases performance_cases registered stands (session.common, state) record accepts with
      ⟨spec, listed, prints⟩ | ⟨rfl, template, exits, cancels⟩
    · have written : performance.written = bytesOf (dispatchLine spec.title record ++ "\n") := by
        rw [← performed, prints]
      have one : IsLine performance.written :=
        written ▸ (dispatchLine_oneLine spec.title record).isLine
      exact .printed listed written one
    · have written : performance.written = [] := by rw [← performed, cancels]
      have cancelled : performance.console.cancelled = true := by rw [← performed, cancels]
      rw [written]
      exact .exited exits cancelled
  | @failed place command record state performance detail typed stands first read held performed
      failed =>
    have succeeded := performance_done registered stands (session.common, state) record accepts
    rw [performed] at succeeded
    rw [succeeded] at failed
    cases failed
  | helped _ _ first => exact .helped first.fits

end Registry

/-! ## All lines of a run -/

namespace Visit

omit [Writer κ]

/-- The output of some lines is that of each of them, one after the other. -/
theorem traces_output (visits : List (Visit κ γ σ)) :
    (traces visits).output = visits.flatMap fun visit => visit.step.trace.output := by
  induction visits with
  | nil => rfl
  | cons visit rest ih =>
    rw [List.flatMap_cons, ← ih]
    rfl

/-- The diagnostics of some lines are those of each of them, one after the other. -/
theorem traces_diagnostics (visits : List (Visit κ γ σ)) :
    (traces visits).diagnostics = visits.flatMap fun visit => visit.step.trace.diagnostics := by
  induction visits with
  | nil => rfl
  | cons visit rest ih =>
    rw [List.flatMap_cons, ← ih]
    rfl

end Visit

namespace Shell

variable {shell : Shell γ σ} {session : Session κ γ σ}

/-- There is one call for each line, in the same order. -/
theorem callLines_map_line (lines : List (List UInt8)) :
    (shell.callLines lines session).map Visit.line = lines.map Input.lineText := by
  let turns := (lines.map Input.lineText).map fun line => (line, false)
  have same : (shell.turns turns session.unfed).map Visit.turn = turns :=
    turns_map_turn turns session.unfed
  rw [callLines, calls_eq_turns]
  simpa [turns, Visit.turn, Function.comp_def] using congrArg (List.map Prod.fst) same

/-- A run all of whose lines have an outcome is not interrupted. -/
theorem Refines.result_ok {handled unread : List (List UInt8)} {step : Step κ γ σ Unit}
    (refines : shell.Refines session handled unread step)
    (finishes : ∀ visit ∈ shell.callLines handled session,
      ∃ outcome, visit.step.result = .ok outcome) : step.result = .ok () := by
  cases refines.stops with
  | cancelled _ _ result => exact result
  | ended _ _ _ result => exact result
  | @interrupted earlier visit interruption last failed _ =>
    have among : visit ∈ shell.callLines handled session := by
      rw [last]
      exact List.mem_append_right _ (List.mem_singleton_self visit)
    obtain ⟨outcome, finished⟩ := finishes visit among
    rw [failed] at finished
    cases finished

end Shell

/-- Each call of some lines is dispatched in an open session with the same diagnostics. -/
theorem Registration.callLines_dispatches {registration : Registration γ σ} {shell : Shell γ σ}
    {session : Session κ γ σ} (built : registration.build = .ok shell) (free : session.Open shell)
    {lines : List (List UInt8)} {visit : Visit κ γ σ}
    (member : visit ∈ shell.callLines lines session) :
    (visit.before.Open shell ∧ visit.before.diagnostics = session.diagnostics) ∧
      Dispatches registration visit.line visit.before visit.step := by
  have unfed : session.unfed.Open shell := ⟨free.states, free.output, free.diagnostics⟩
  rw [Shell.callLines, Shell.calls_eq_turns] at member
  obtain ⟨before, _, done⟩ := turns_dispatches built unfed member
  exact ⟨before, done⟩

namespace Registry

/-- What a run of the shell of a registry adds is framed: it handles some lines of the input and
leaves the others, and the output and the diagnostics are what is seen of the handled lines, one
after the other. -/
structure Framed (registry : Registry) (help : String) (shell : Shell Unit Unit)
    (session : Session κ Unit Unit) (handled unread : List (List UInt8))
    (step : Step κ Unit Unit Unit) : Prop where
  /-- The run is told by calling the handled lines. -/
  refines : shell.Refines session handled unread step
  /-- It is not interrupted. -/
  result : step.result = .ok ()
  /-- There is one call for each handled line, in the order of the input. -/
  lines : (shell.callLines handled session).map Visit.line = handled.map Input.lineText
  /-- What is seen of each line is told from the line breaks. -/
  frames : ∀ visit ∈ shell.callLines handled session,
    registry.Frames help session.diagnostics.isSome visit.line visit.step
  /-- The output is what is seen of the lines, one after the other. -/
  output : step.trace.output =
    (shell.callLines handled session).flatMap fun visit => visit.step.trace.output
  /-- The diagnostics are what is noted of the lines, one after the other. -/
  diagnostics : step.trace.diagnostics =
    (shell.callLines handled session).flatMap fun visit => visit.step.trace.diagnostics

/-- Line framing: for a registry whose texts are on one line, for any bytes and with sinks that
accept all writes, a run adds to the output one line for each line that it handles of a listed
command, that fits no command, is rejected or is malformed, the help for each that asks for it, and
nothing for blank lines and the exit command; and to the diagnostics one line for each that is
rejected or malformed, and nothing else. -/
theorem run_framed {registry : Registry} {help : HelpSupport}
    {registration : Registration Unit Unit} {shell : Shell Unit Unit}
    (registered : registry.registration help = .ok registration)
    (built : registration.build = .ok shell) (told : registry.Told) {session : Session κ Unit Unit}
    (free : session.Open shell) (bytes : List UInt8) :
    let start := session.withInput (.ofBytes bytes false)
    ∃ handled unread, Input.Cuts bytes (handled ++ unread) ∧
      registry.Framed registration.helpText shell start handled unread (shell.run start) := by
  intro start
  obtain ⟨handled, unread, lines, refines⟩ :=
    @Shell.runLines_refines κ Unit Unit _ shell start rfl start.input.lines
  change Input.cutLines bytes = handled ++ unread at lines
  have cuts : Input.Cuts bytes (handled ++ unread) := lines ▸ Input.cuts_cutLines bytes
  have free' : start.Open shell := ⟨free.states, free.output, free.diagnostics⟩
  have called : (shell.callLines handled start).map Visit.line = handled.map Input.lineText :=
    Shell.callLines_map_line handled
  refine ⟨handled, unread, cuts, refines, ?_, called, ?_, ?_, ?_⟩
  · refine refines.result_ok fun visit member => ?_
    obtain ⟨_, done⟩ := Registration.callLines_dispatches built free' member
    exact done.finishes
  · intro visit member
    obtain ⟨⟨before, diagnostics⟩, done⟩ :=
      Registration.callLines_dispatches built free' member
    have among : visit.line ∈ handled.map Input.lineText := by
      rw [← called]
      exact List.mem_map_of_mem member
    obtain ⟨line, inside, same⟩ := List.mem_map.mp among
    have one : OneLine visit.line := by
      rw [← same]
      exact Input.lineText_oneLine (cuts.inside line (List.mem_append_left _ inside))
    rw [← diagnostics]
    exact frames_of_dispatches told registered built one before done
  · change (shell.runLines start.input.lines start).trace.output = _
    rw [refines.trace, Visit.traces_output]
  · change (shell.runLines start.input.lines start).trace.diagnostics = _
    rw [refines.trace, Visit.traces_diagnostics]

end Registry

namespace Sample

/-- Lines that are printed, rejected, malformed and blank, with carriage returns and a byte that is
no character, and then the exit command. -/
def linesToExit : List (List UInt8) := [
  bytesOf "docker run --name web\r\n",
  bytesOf "docker run --name \n",
  bytesOf "wait '" ++ 0xff :: bytesOf "'\n",
  bytesOf "\r\n",
  bytesOf "exit\n"]

/-- What comes of each of these lines. -/
def outcomesToExit : List LineOutcome := [
  .handled,
  .rejected (.missingRequired ["--name"]),
  .malformed (.conversion "Seconds" "\ufffd" .float),
  .skipped,
  .handled]

/-- What is printed of each. -/
def printedToExit : List String := [
  "\x7b\"command\":\"docker run\",\"fields\":\x7b\"Name\":\"web\"\x7d\x7d\n",
  "Missing required parameters --name for command docker run.\n",
  "Incorrect command format.\n",
  "",
  ""]

/-- What is noted of each. -/
def notedToExit : List String := [
  "",
  "Missing required parameters during command parsing: docker run --name . " ++
    "Error: missing required parameters --name\n",
  "Format error during command parsing: wait '\ufffd'. " ++
    "Error: cannot convert '\ufffd' to float for field Seconds\n",
  "",
  ""]

/-- A session on these lines and one more, without a line break. -/
def sessionToExit (shell : Shell Unit Unit) : Session Sink Unit Unit :=
  shell.session () .unlimited (some .unlimited)
    (.ofBytes (linesToExit.flatten ++ bytesOf "wait 1") false)

end Sample

/-- A run of the sample registry up to the exit command, which leaves the line after it unread. -/
theorem Registry.run_framed_exit : ∃ registration shell,
    Sample.registry.registration .off = .ok registration ∧ registration.build = .ok shell ∧
      Sample.registry.Told ∧
      let start := Sample.sessionToExit shell
      let step := shell.run start
      let calls := shell.callLines Sample.linesToExit start
      Input.Cuts (Sample.linesToExit.flatten ++ bytesOf "wait 1")
        (Sample.linesToExit ++ [bytesOf "wait 1"]) ∧
      Sample.registry.Framed registration.helpText shell start Sample.linesToExit
        [bytesOf "wait 1"] step ∧
      calls.map (fun visit => visit.step.result) = Sample.outcomesToExit.map .ok ∧
      calls.map (fun visit => visit.step.trace.output) = Sample.printedToExit.map bytesOf ∧
      calls.map (fun visit => visit.step.trace.diagnostics) = Sample.notedToExit.map bytesOf ∧
      step.trace.output = Sample.printedToExit.flatMap bytesOf ∧
      step.trace.diagnostics = Sample.notedToExit.flatMap bytesOf := by
  have told : Sample.registry.Told := by decide
  let bytes := Sample.linesToExit.flatten ++ bytesOf "wait 1"
  obtain ⟨registration, shell, registered, built, evaluated⟩ := Sample.registry_evaluated
    (fun shell =>
      let start := Sample.sessionToExit shell
      let calls := shell.callLines Sample.linesToExit start
      ((shell.run start).session.input.lines, calls.map (fun visit => visit.step.result),
        calls.map (fun visit => visit.step.trace.output),
        calls.map (fun visit => visit.step.trace.diagnostics)))
    ([bytesOf "wait 1"], Sample.outcomesToExit.map .ok, Sample.printedToExit.map bytesOf,
      Sample.notedToExit.map bytesOf) (by decide +kernel)
  obtain ⟨left, outcomes, printed, noted⟩ := by
    simpa only [Prod.mk.injEq] using evaluated
  obtain ⟨handled, unread, cuts, framed⟩ :=
    run_framed registered built told (shell.session_unlimited () ⟨[], false⟩) bytes
  change Sample.registry.Framed _ _ (Sample.sessionToExit shell) _ _ _ at framed
  -- The lines that the run leaves are known, so the lines that it handles are the others.
  have same : unread = [bytesOf "wait 1"] := by
    rw [← left]
    exact (congrArg Input.lines framed.refines.input).symm
  have parts : Input.cutLines bytes = Sample.linesToExit ++ [bytesOf "wait 1"] := by decide
  have whole := cuts.eq_cutLines
  rw [parts, same] at whole
  rw [same, List.append_cancel_right whole] at cuts framed
  refine ⟨registration, shell, registered, built, told, cuts, framed, outcomes, printed, noted,
    ?_, ?_⟩
  · refine framed.output.trans ?_
    rw [List.flatMap_def, List.flatMap_def]
    exact congrArg List.flatten printed
  · refine framed.diagnostics.trans ?_
    rw [List.flatMap_def, List.flatMap_def]
    exact congrArg List.flatten noted

end Switchboard
