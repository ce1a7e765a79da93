import Switchboard.Handler
import Switchboard.HelpText
import Switchboard.Line
import Switchboard.Switches
import Switchboard.Validation

/-!
# Shells

Commands are registered one by one, together with how much help there is to be. A registration
without a defect makes a shell. On a line, the first command whose template fits decides; the
generated help comes after all others.
-/
namespace Switchboard

/-- How much help a shell gives. -/
inductive HelpSupport where
  | off
  | hint
  | generated
  deriving DecidableEq, Repr

/-- The name of a kind of help in diagnosis. -/
def HelpSupport.label : HelpSupport → String
  | off => "Off"
  | hint => "Hint"
  | generated => "Generated"

/-- A command: how it is written, what it binds to and what it does. -/
structure Command (γ σ : Type) where
  /-- How the command is written on a line. -/
  template : Template
  /-- The record type that its lines are bound to. -/
  descriptor : Descriptor
  /-- What the command is for. -/
  description : Option String
  /-- What the command does. -/
  handler : Handler γ σ
  /-- The state of its own in which the handler begins. -/
  start : σ

namespace Command

variable {γ σ : Type}

/-- The command as the validator sees it. -/
def declaration (command : Command γ σ) : Declaration := ⟨command.template, command.descriptor⟩

/-- The command as the help lists it. -/
def helpEntry (command : Command γ σ) : HelpEntry := ⟨command.template, command.description⟩

/-- The record of a line's tokens, or what is wrong with them, if they fit the template. -/
def read? (command : Command γ σ) (tokens : List String) : Option (Except Fault Record) :=
  match command.template with
  | .fixed template => (template.capture tokens).map fun captures =>
    (Descriptor.writeAll command.descriptor.setScalar .empty captures).outcome
  | .switched template => template.read? command.descriptor tokens

end Command

/-- The template of the generated help. -/
def helpTemplate : FixedTemplate := ⟨helpName⟩

/-- Commands before they are validated. -/
structure Registration (γ σ : Type) where
  /-- The commands, in the order in which they are tried. -/
  commands : List (Command γ σ) := []
  /-- How much help there is to be. -/
  help : HelpSupport := .off

/-- Commands without a defect. -/
structure Shell (γ σ : Type) where
  /-- The commands, in the order in which they are tried. -/
  commands : List (Command γ σ)
  /-- Whether replies mention the help. -/
  hint : Bool
  /-- The text of the generated help, if there is one. -/
  help : Option String

namespace Registration

variable {γ σ : Type}

/-- Register a command after the others. -/
def register (registration : Registration γ σ) (command : Command γ σ) : Registration γ σ :=
  { registration with commands := registration.commands ++ [command] }

/-- The help on the commands registered so far. -/
def helpText (registration : Registration γ σ) : String :=
  Switchboard.helpText (registration.commands.map Command.helpEntry)

/-- The first defect of the commands. -/
def defect? (registration : Registration γ σ) : Option Defect :=
  Validation.defect? (registration.help = .generated)
    (registration.commands.map Command.declaration)

/-- The shell of the commands, unless they have a defect. -/
def build (registration : Registration γ σ) : Except Defect (Shell γ σ) :=
  match registration.defect? with
  | some defect => .error defect
  | none => .ok {
      commands := registration.commands
      hint := registration.help ≠ .off
      help := if registration.help = .generated then some registration.helpText else none }

/-- A one-line account of a registration for diagnosis. -/
def summary (registration : Registration γ σ) (diagnosing : Bool) : String :=
  "ShellBuilder \x7b commands: " ++ toString registration.commands.length ++ ", help: " ++
    registration.help.label ++ ", diagnostics: " ++ toString diagnosing ++ " \x7d"

end Registration

namespace Shell

variable {γ σ : Type}

/-- How many commands the shell knows, the generated help among them. -/
def commandCount (shell : Shell γ σ) : Nat :=
  shell.commands.length + if shell.help.isSome then 1 else 0

/-- A command that the tokens of a line fit. -/
structure Match (γ σ : Type) where
  /-- The place of the command among those that were tried. -/
  place : Nat
  /-- The command. -/
  command : Command γ σ
  /-- The record of the line, or what is wrong with it. -/
  reading : Except Fault Record

/-- The first command that the tokens fit. -/
def firstMatch? (tokens : List String) : List (Command γ σ) → Option (Match γ σ)
  | [] => none
  | command :: rest => match command.read? tokens with
    | some reading => some ⟨0, command, reading⟩
    | none => (firstMatch? tokens rest).map fun found => { found with place := found.place + 1 }

/-- The text of the generated help, if the tokens ask for it. -/
def helpAnswer? (shell : Shell γ σ) (tokens : List String) : Option String :=
  if (helpTemplate.capture tokens).isSome then shell.help else none

/-- A one-line account of a shell for diagnosis. -/
def summary (shell : Shell γ σ) (diagnosing : Bool) : String :=
  "Shell \x7b commands: " ++ toString shell.commandCount ++ ", help_hint: " ++
    toString shell.hint ++ ", diagnostics: " ++ toString diagnosing ++ " \x7d"

end Shell

end Switchboard
