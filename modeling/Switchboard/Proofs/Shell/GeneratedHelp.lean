import Switchboard.Proofs.Shell.Dispatch
/-!
# The generated help

The generated help takes no line away from a command: a shell that has it does on every line what it
would do without it, unless that is to find nothing. Such a line is answered with the help if it
asks for it, and otherwise with a reply that mentions the help (`Helped`). No command can take the
name of the help for itself either: only a switched command with another spelling of the name as
its whole keywords does so, and then only for this spelling (`generatedHelp_conservative`).
-/
namespace Switchboard

variable {κ γ σ : Type} [Writer κ]

/-! ## Lines that ask for the help -/

/-- A line asks for the help: its only token is the name of the help in some letter case. -/
def Line.AsksHelp (line : String) : Prop :=
  ∃ token, Line.tokens line = [token] ∧ Text.lowerCase token = helpName

/-- The name of the help is written in lower case. -/
theorem lowerCase_helpName : Text.lowerCase helpName = helpName := by decide +kernel

/-- The tokens that fit the template of the generated help are its name, in any letter case. -/
theorem helpTemplate_fits {tokens : List String} : (Template.fixed helpTemplate).Fits tokens ↔
    ∃ token, tokens = [token] ∧ Text.lowerCase token = helpName := by
  have words : helpTemplate.words = [.literal helpName] := by decide
  rw [Template.Fits, words, List.forall₂_cons_left_iff]
  constructor
  · rintro ⟨token, rest, same, ends, rfl⟩
    rw [List.forall₂_nil_left_iff] at ends
    rw [FixedWord.Takes, lowerCase_helpName] at same
    exact ⟨token, by rw [ends], same.symm⟩
  · rintro ⟨token, rfl, asks⟩
    exact ⟨token, [], lowerCase_helpName.trans asks.symm, .nil, rfl⟩

/-- A template that leaves the name of the help alone and has keywords can take a spelling of the
name only as a switched template with this spelling as its whole keywords. -/
theorem Template.keywords_of_fits_help {template : Template} {token : String}
    (apart : Validation.claimsHelp template = false)
    (keyed : (Text.trim template.keyword).isEmpty = false)
    (asks : Text.lowerCase token = helpName) (fits : template.Fits [token]) :
    ∃ switched, template = .switched switched ∧ switched.keywords = [token] := by
  cases template with
  | fixed template =>
    change List.Forall₂ FixedWord.Takes template.words [token] at fits
    change (Text.trim (" ".intercalate (FixedTemplate.leadingLiterals template.words))).isEmpty =
      false at keyed
    change decide (Text.lowerCase (" ".intercalate (FixedTemplate.leadingLiterals template.words)) =
      helpName) = false at apart
    obtain ⟨word, rest, takes, ends, words⟩ := List.forall₂_cons_right_iff.mp fits
    rw [List.forall₂_nil_right_iff] at ends
    rw [words, ends] at keyed apart
    cases word with
    | literal text =>
      -- The only keyword is a spelling of the name, which was reserved in every letter case.
      have same : Text.lowerCase text = helpName := Eq.trans takes asks
      exact absurd same (of_decide_eq_false apart)
    | slot name =>
      change (Text.trim (" ".intercalate [])).isEmpty = false at keyed
      exact absurd keyed (by decide)
  | switched template =>
    change (Text.trim (" ".intercalate template.keywords)).isEmpty = false at keyed
    change template.keywords <+: [token] at fits
    cases keywords : template.keywords with
    | nil =>
      rw [keywords] at keyed
      exact absurd keyed (by decide)
    | cons keyword rest =>
      rw [keywords, List.cons_prefix_cons, List.prefix_nil] at fits
      obtain ⟨rfl, rfl⟩ := fits
      exact ⟨template, rfl, keywords⟩

/-! ## One line in two shells -/

/-- Without help, the reply to a line for which nothing was found says only so. -/
theorem notFoundReply_bare : notFoundReply false = "Command not found." := by decide

/-- With help, the reply to a line for which nothing was found mentions it. -/
theorem notFoundReply_hinted : notFoundReply true =
    "Command not found. Type 'help' for getting available commands." := by decide

/-- What it is to answer a line and do nothing else. -/
def Session.answered (session : Session κ γ σ) (outcome : LineOutcome) (text : String) :
    Step κ γ σ LineOutcome :=
  ⟨.ok outcome, session, { output := Text.bytesOf (text ++ "\n") }⟩

/-- After a handler has run, a line is not one for which nothing was found. -/
theorem Session.conclude_found {τ : Type} (session : Session κ γ σ) (line : String)
    (dispatches : List Dispatch) (performance : Performance κ τ) :
    (session.conclude line dispatches performance).result ≠ .ok .notFound := by
  cases failed : performance.verdict.detail? with
  | none =>
    rw [conclude_done failed]
    nofun
  | some detail =>
    rw [conclude_failed failed]
    change Except.map _ _ ≠ _
    cases ((session.takeOver performance.console).note (unexpectedEntry line detail)).result with
    | ok done => nofun
    | error interruption => nofun

namespace Registration

/-- How a shell with the generated help fares on a line, compared to one without help. -/
inductive Helped (registration : Registration γ σ) : Visit κ γ σ → Visit κ γ σ → Prop where
  /-- Where the shell without help finds something, both do the same. -/
  | kept {visit : Visit κ γ σ} (found : visit.step.result ≠ .ok .notFound) :
      Helped registration visit visit
  /-- A line that asks for the help is answered with the help on the registered commands. -/
  | helped {line : String} {before : Session κ γ σ} (asks : Line.AsksHelp line) :
      Helped registration ⟨line, before, before.answered .notFound "Command not found."⟩
        ⟨line, before, before.answered .handled registration.helpText⟩
  /-- To the reply to any other line the hint is added. -/
  | hinted {line : String} {before : Session κ γ σ} (silent : ¬ Line.AsksHelp line) :
      Helped registration ⟨line, before, before.answered .notFound "Command not found."⟩
        ⟨line, before, before.answered .notFound
          "Command not found. Type 'help' for getting available commands."⟩

/-- A line for which a shell without help finds nothing makes the shell with it print the help. -/
def PrintsHelp (registration : Registration γ σ) (plain shell : Shell γ σ) (line : String)
    (session : Session κ γ σ) : Prop :=
  plain.processLine line session = session.answered .notFound "Command not found." ∧
    shell.processLine line session = session.answered .handled registration.helpText

/-- A switched command has a token as its whole keywords. -/
def Shadows (registration : Registration γ σ) (token : String) : Prop :=
  ∃ command ∈ registration.commands, ∃ template,
    command.template = .switched template ∧ template.keywords = [token]

/-- A line has tokens, but these fit no command. -/
def Unfound (registration : Registration γ σ) (line : String) : Prop :=
  Line.tokens line ≠ [] ∧
    ∀ command ∈ registration.commands, ¬ command.template.Fits (Line.tokens line)

variable {registration : Registration γ σ} {shell plain : Shell γ σ} {session : Session κ γ σ}
  {line : String}

omit [Writer κ] in
/-- Both lines of a comparison leave the same session behind. -/
theorem Helped.session_eq {without visit : Visit κ γ σ}
    (compared : registration.Helped without visit) : visit.step.session = without.step.session := by
  cases compared with
  | kept found | helped asks | hinted silent => rfl

/-- A line that fits a command is processed alike with and without help, and something is found. -/
theorem found_or_unfound (free : session.Open shell) (commands : plain.commands = shell.commands)
    (same : shell.commands = registration.commands) (line : String) :
    ((plain.processLine line session).result ≠ .ok .notFound ∧
        shell.processLine line session = plain.processLine line session) ∨
      registration.Unfound line := by
  have done := plain.processLine_case line session
  generalize plain.processLine line session = step at done
  cases done with
  | skipped blank => exact .inl ⟨nofun, (LineCase.skipped blank).unique.symm⟩
  | dispatched typed stands first read =>
    rw [commands] at stands first
    exact .inl ⟨Session.conclude_found _ _ _ _,
      (LineCase.dispatched typed stands first read).unique.symm⟩
  | rejected typed stands first read =>
    rw [commands] at stands first
    refine .inl ⟨?_, (LineCase.rejected typed stands first read).unique.symm⟩
    rw [Session.answer_open free]
    nofun
  | malformed typed stands first read =>
    rw [commands] at stands first
    refine .inl ⟨?_, (LineCase.malformed typed stands first read).unique.symm⟩
    rw [Session.answer_open free]
    nofun
  | helped typed unfit asked | notFound typed unfit unasked =>
    rw [commands, same] at unfit
    exact .inr ⟨typed, unfit⟩

/-- Where nothing is found for a line that does not ask for a generated help, the reply says so. -/
theorem processLine_unfound (built : registration.build = .ok shell) (free : session.Open shell)
    (unfound : registration.Unfound line)
    (silent : ¬ (registration.help = .generated ∧ Line.AsksHelp line)) :
    shell.processLine line session =
      session.answered .notFound (notFoundReply shell.hint) := by
  obtain ⟨typed, unfit⟩ := unfound
  rw [← (build_accepted built).2] at unfit
  have unasked : shell.helpAnswer? (Line.tokens line) = none := by
    rw [Option.eq_none_iff_forall_ne_some]
    intro text asked
    obtain ⟨generated, fits, _⟩ := (build_helpAnswer? built).mp asked
    exact silent ⟨generated, helpTemplate_fits.mp fits⟩
  rw [← (LineCase.notFound typed unfit unasked).unique, Session.reply_open free.output]
  rfl

/-- Where nothing is found for a line that asks for the generated help, the help is printed. -/
theorem processLine_asking (built : registration.build = .ok shell) (free : session.Open shell)
    (generated : registration.help = .generated) (unfound : registration.Unfound line)
    (asks : Line.AsksHelp line) :
    shell.processLine line session = session.answered .handled registration.helpText := by
  obtain ⟨typed, unfit⟩ := unfound
  rw [← (build_accepted built).2] at unfit
  have asked : shell.helpAnswer? (Line.tokens line) = some registration.helpText :=
    (build_helpAnswer? built).mpr ⟨generated, helpTemplate_fits.mpr asks, rfl⟩
  rw [← (LineCase.helped typed unfit asked).unique, Session.helped_open free]
  rfl

/-- A command registered beside the generated help leaves the name of the help alone and has
keywords. -/
theorem build_keyed (built : registration.build = .ok shell)
    (generated : registration.help = .generated) {command : Command γ σ}
    (member : command ∈ registration.commands) :
    Validation.claimsHelp command.template = false ∧
      (Text.trim command.template.keyword).isEmpty = false := by
  obtain ⟨accepted, _⟩ := build_accepted built
  obtain ⟨before, sound⟩ :=
    Validation.commandDefect?_of_defect? accepted _ (List.mem_map_of_mem member)
  obtain ⟨apart, keyed, _⟩ := (Validation.commandDefect?_none _ _ _).mp sound
  rw [decide_eq_true generated, Bool.true_and] at apart
  exact ⟨apart, keyed⟩

/-- No command shadows the name of the generated help itself. -/
theorem not_shadows_helpName (built : registration.build = .ok shell)
    (generated : registration.help = .generated) : ¬ registration.Shadows helpName := by
  rintro ⟨command, member, template, kind, keywords⟩
  obtain ⟨apart, _⟩ := build_keyed built generated member
  rw [kind] at apart
  change decide (" ".intercalate template.keywords = helpName) = false at apart
  rw [keywords] at apart
  exact absurd rfl (of_decide_eq_false apart)

/-! ## Two shells -/

section Generated

variable (generated : registration.help = .generated) (built : registration.build = .ok shell)
  (bare : { registration with help := .off }.build = .ok plain)

include built bare in
/-- Both shells have the registered commands. -/
theorem build_commands : plain.commands = shell.commands ∧
    shell.commands = registration.commands := by
  have same : shell.commands = registration.commands := (build_accepted built).2
  have alike : plain.commands = registration.commands := (build_accepted bare).2
  exact ⟨alike.trans same.symm, same⟩

include built bare in
/-- A session that one of the shells can work on is one for the other. -/
theorem open_bare (free : session.Open shell) : session.Open plain := by
  obtain ⟨commands, _⟩ := build_commands built bare
  exact ⟨commands ▸ free.states, free.output, free.diagnostics⟩

include built bare in
/-- Where nothing is found for a line, the shell without help says only so. -/
theorem processLine_bare (free : session.Open shell) (unfound : registration.Unfound line) :
    plain.processLine line session = session.answered .notFound "Command not found." := by
  have hint : plain.hint = false := by rw [(build_ok_iff.mp bare).2]; rfl
  rw [processLine_unfound bare (open_bare built bare free) unfound (fun asked => nomatch asked.1),
    hint, notFoundReply_bare]

include generated built in
/-- Where nothing is found for another line, the shell with the help mentions it. -/
theorem processLine_hinted (free : session.Open shell) (unfound : registration.Unfound line)
    (silent : ¬ Line.AsksHelp line) : shell.processLine line session =
      session.answered .notFound
        "Command not found. Type 'help' for getting available commands." := by
  have hint : shell.hint = true := by rw [(build_ok_iff.mp built).2, generated]; rfl
  rw [processLine_unfound built free unfound (fun asked => silent asked.2), hint,
    notFoundReply_hinted]

include generated built bare in
/-- The two shells compare so on every line. -/
theorem processLine_helped (free : session.Open shell) (line : String) :
    registration.Helped ⟨line, session, plain.processLine line session⟩
      ⟨line, session, shell.processLine line session⟩ := by
  obtain ⟨commands, same⟩ := build_commands built bare
  rcases found_or_unfound free commands same line with ⟨found, alike⟩ | unfound
  · rw [alike]
    exact .kept found
  · rw [processLine_bare built bare free unfound]
    by_cases asks : Line.AsksHelp line
    · rw [processLine_asking built free generated unfound asks]
      exact .helped asks
    · rw [processLine_hinted generated built free unfound asks]
      exact .hinted asks

include generated built bare in
/-- The two shells compare so on every line of a session. -/
theorem visits_helped (free : session.Open shell) (lines : List String) :
    List.Forall₂ registration.Helped (plain.visits lines session) (shell.visits lines session) := by
  induction lines generalizing session with
  | nil => exact .nil
  | cons line rest ih =>
    have compared := processLine_helped generated built bare free line
    refine .cons compared ?_
    rw [← compared.session_eq]
    exact ih (open_processLine built free line)

include generated built bare in
/-- A line that asks for the help prints it unless a switched command shadows the help. -/
theorem printsHelp_iff (free : session.Open shell) {token : String}
    (single : Line.tokens line = [token]) (asks : Text.lowerCase token = helpName) :
    registration.PrintsHelp plain shell line session ↔ ¬ registration.Shadows token := by
  obtain ⟨commands, same⟩ := build_commands built bare
  constructor
  · rintro ⟨missing, _⟩ ⟨command, member, template, kind, keywords⟩
    rcases found_or_unfound free commands same line with ⟨found, _⟩ | ⟨_, unfit⟩
    · rw [missing] at found
      exact found rfl
    · refine unfit command member ?_
      rw [kind, single, ← keywords]
      exact List.prefix_rfl
  · intro clear
    have unfound : registration.Unfound line := by
      rw [Unfound, single]
      refine ⟨List.cons_ne_nil _ _, fun command member fits => clear ?_⟩
      obtain ⟨apart, keyed⟩ := build_keyed built generated member
      obtain ⟨template, kind, keywords⟩ :=
        Template.keywords_of_fits_help apart keyed asks fits
      exact ⟨command, member, template, kind, keywords⟩
    exact ⟨processLine_bare built bare free unfound,
      processLine_asking built free generated unfound ⟨token, single, asks⟩⟩

end Generated

/-- Generated help is conservative and cannot be lost: the registration builds without help too, on
every session of lines the two shells compare line by line as said, and the name of the help always
prints it, another spelling unless a switched command has exactly this spelling as its keywords. -/
theorem generatedHelp_conservative (generated : registration.help = .generated)
    (built : registration.build = .ok shell) :
    ∃ plain, { registration with help := .off }.build = .ok plain ∧
      (∀ common (output : κ) diagnostics input,
        plain.session common output diagnostics input =
          shell.session common output diagnostics input) ∧
      ∀ session : Session κ γ σ, session.Open shell →
        (∀ lines, List.Forall₂ registration.Helped (plain.visits lines session)
          (shell.visits lines session)) ∧
        ∀ line token, Line.tokens line = [token] → Text.lowerCase token = helpName →
          (token = helpName → registration.PrintsHelp plain shell line session) ∧
            (registration.PrintsHelp plain shell line session ↔ ¬ registration.Shadows token) := by
  obtain ⟨sound, _⟩ := build_accepted built
  rw [decide_eq_true generated] at sound
  have accepted : { registration with help := .off }.defect? = none :=
    Validation.defect?_unreserved sound
  obtain ⟨plain, bare⟩ : ∃ plain, { registration with help := .off }.build = .ok plain :=
    ⟨_, build_ok_iff.mpr ⟨accepted, rfl⟩⟩
  obtain ⟨commands, _⟩ := build_commands built bare
  refine ⟨plain, bare, fun common output diagnostics input => ?_, fun session free => ⟨?_, ?_⟩⟩
  · rw [Shell.session, Shell.session, commands]
  · exact visits_helped generated built bare free
  · intro line token single asks
    have prints := printsHelp_iff generated built bare free single asks
    refine ⟨fun named => prints.mpr ?_, prints⟩
    rw [named]
    exact not_shadows_helpName built generated

end Registration

namespace Sample

/-- The sample commands and a switched one whose keyword is a spelling of the name of the help. -/
def shadowing : Registration Nat Nat :=
  registration.register ⟨.switched ⟨"Help", []⟩, ⟨"Topic", []⟩, none, counting, 0⟩

/-- The registration has no defect. -/
theorem shadowing_sound : shadowing.defect? = none := by decide +kernel

/-- Only the keyword as it is written shadows the help. -/
theorem shadowing_shadows {token : String} : shadowing.Shadows token ↔ token = "Help" := by
  constructor
  · rintro ⟨command, member, template, kind, keywords⟩
    simp only [shadowing, Registration.register, registration, List.cons_append, List.nil_append,
      List.mem_cons, List.not_mem_nil, or_false] at member
    rcases member with rfl | rfl | rfl
    · cases kind
      have two : run.keywords = ["docker", "run"] := by decide
      rw [two] at keywords
      cases keywords
    · cases kind
    · cases kind
      have one : SwitchedTemplate.keywords ⟨"Help", []⟩ = ["Help"] := by decide
      rw [one] at keywords
      cases keywords
      rfl
  · rintro rfl
    exact ⟨_, List.mem_concat_self, _, rfl, by decide⟩

end Sample

/-- A session of the sample shells, in which one spelling of the name does not print the help. -/
theorem Registration.generatedHelp_conservative_shadowing : ∃ plain shell session,
    { Sample.shadowing with help := .off }.build = .ok plain ∧
      Sample.shadowing.build = .ok shell ∧
      session = shell.session 0 Sink.unlimited (some .unlimited) ⟨[], false⟩ ∧ session.Open shell ∧
      List.Forall₂ Sample.shadowing.Helped
        (plain.visits ["wait 3", "what", "hELP", "Help"] session)
        (shell.visits ["wait 3", "what", "hELP", "Help"] session) ∧
      Sample.shadowing.PrintsHelp plain shell "help" session ∧
      Sample.shadowing.PrintsHelp plain shell " 'HELP'" session ∧
      ¬ Sample.shadowing.PrintsHelp plain shell "Help" session := by
  obtain ⟨shell, built⟩ : ∃ shell, Sample.shadowing.build = .ok shell :=
    ⟨_, build_ok_iff.mpr ⟨Sample.shadowing_sound, rfl⟩⟩
  have free := shell.session_unlimited 0 ⟨[], false⟩
  obtain ⟨plain, bare, _, compare⟩ := @generatedHelp_conservative Sink Nat Nat _ _ _ rfl built
  obtain ⟨compared, prints⟩ := compare _ free
  refine ⟨plain, shell, _, bare, built, rfl, free, compared _, ?_, ?_, ?_⟩
  · exact (prints "help" "help" (by decide) lowerCase_helpName).1 rfl
  · refine (prints " 'HELP'" "HELP" (by decide) (by decide +kernel)).2.mpr ?_
    rw [Sample.shadowing_shadows]
    decide
  · intro printed
    refine (prints "Help" "Help" (by decide) (by decide +kernel)).2.mp printed ?_
    rw [Sample.shadowing_shadows]

end Switchboard
