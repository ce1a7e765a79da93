/-!
# Requests

The program validates a registry, prints its help, or runs a session of its commands. Its
arguments come to one of these with its paths, to a guide that is asked for, or to nothing that
makes sense.
-/
namespace Switchboard

/-- What the program is asked to do. -/
inductive Invocation where
  | check (registry : String)
  | help (registry : String)
  | run (registry : String) (errorLog : Option String)
  deriving DecidableEq, Repr

/-- The names of the things that the program can be asked to do. -/
inductive Subcommand where
  | check
  | help
  | run
  deriving DecidableEq, Repr

/-- What arguments come to. -/
inductive Request where
  | perform (invocation : Invocation)
  | guide (subcommand : Option Subcommand)
  | misuse
  deriving DecidableEq, Repr

namespace Subcommand

/-- The name of a subcommand. -/
def label : Subcommand → String
  | check => "check"
  | help => "help"
  | run => "run"

/-- What a subcommand does, in words. -/
def purpose : Subcommand → String
  | check => "Validate a registry file"
  | help => "Print the generated help text of a registry"
  | run => "Read commands from stdin and print each bound record as a JSON line"

/-- The subcommand of that name. -/
def ofLabel? (label : String) : Option Subcommand :=
  [check, help, run].find? fun subcommand => subcommand.label = label

/-- The guide to a subcommand. -/
def guide : Subcommand → String
  | run => run.purpose ++ "\n\nUsage: command-shell run [OPTIONS] <REGISTRY>\n\n" ++
    "Arguments:\n  <REGISTRY>  Path to the YAML registry\n\nOptions:\n" ++
    "      --log-errors <LOG_ERRORS>  Append internal failures (raw input and detail) to this " ++
    "file\n  -h, --help                     Print help\n"
  | subcommand => subcommand.purpose ++ "\n\nUsage: command-shell " ++ subcommand.label ++
    " <REGISTRY>\n\nArguments:\n  <REGISTRY>  Path to the YAML registry\n\n" ++
    "Options:\n  -h, --help  Print help\n"

end Subcommand

namespace Request

/-- The guide to the program. -/
def overview : String :=
  "Validate, document and run template command registries\n\n" ++
    "Usage: command-shell <COMMAND>\n\nCommands:\n" ++
    "  check  " ++ Subcommand.check.purpose ++ "\n  help   " ++ Subcommand.help.purpose ++
    "\n  run    " ++ Subcommand.run.purpose ++ "\n\nOptions:\n  -h, --help  Print help\n"

/-- The guide that is asked for. -/
def guideText : Option Subcommand → String
  | none => overview
  | some subcommand => subcommand.guide

/-- What is known of an invocation after some of its arguments. -/
structure Draft where
  /-- The path of the registry. -/
  registry : Option String := none
  /-- The path of the error log. -/
  errorLog : Option String := none

/-- The invocation of a complete draft. -/
def Draft.complete (draft : Draft) (subcommand : Subcommand) : Request :=
  match draft.registry, subcommand with
  | none, _ => misuse
  | some registry, .check => perform (.check registry)
  | some registry, .help => perform (.help registry)
  | some registry, .run => perform (.run registry draft.errorLog)

/-- Take a path for the registry; there is only one, and it is not empty. -/
def Draft.withRegistry (draft : Draft) (path : String) : Option Draft :=
  if draft.registry.isSome || path.isEmpty then none
  else some { draft with registry := some path }

/-- Take a path for the error log; there is at most one, and it is not empty. -/
def Draft.withErrorLog (draft : Draft) (path : String) : Option Draft :=
  if draft.errorLog.isSome || path.isEmpty then none
  else some { draft with errorLog := some path }

/-- Whether an argument has the form of an option. A dash alone has not. -/
def isOption (argument : String) : Bool := argument.startsWith "-" && argument ≠ "-"

/-- Read arguments that are all paths. -/
def ofPaths (subcommand : Subcommand) : Draft → List String → Request
  | draft, [] => draft.complete subcommand
  | draft, path :: rest => match draft.withRegistry path with
    | none => misuse
    | some draft => ofPaths subcommand draft rest

/-- The option that is followed by the path of the error log. -/
def logOption : String := "--log-errors"

/-- Read the arguments after a subcommand. -/
def ofArguments (subcommand : Subcommand) : Draft → List String → Request
  | draft, [] => draft.complete subcommand
  | draft, argument :: rest =>
    if argument = "--" then ofPaths subcommand draft rest
    else if argument = "--help" ∨ argument.startsWith "-h" then guide subcommand
    else if subcommand = .run ∧ argument = logOption then match rest with
      | [] => misuse
      | path :: rest =>
        if isOption path then misuse
        else match draft.withErrorLog path with
          | none => misuse
          | some draft => ofArguments subcommand draft rest
    else if subcommand = .run ∧ argument.startsWith (logOption ++ "=") then
      match draft.withErrorLog (argument.drop (logOption.length + 1)).toString with
      | none => misuse
      | some draft => ofArguments subcommand draft rest
    else if isOption argument then misuse
    else match draft.withRegistry argument with
      | none => misuse
      | some draft => ofArguments subcommand draft rest

/-- Read the arguments of the program. -/
def read : List String → Request
  | [] => misuse
  | first :: rest =>
    if first = "--help" ∨ first.startsWith "-h" then guide none
    else match Subcommand.ofLabel? first with
      | none => misuse
      | some subcommand => ofArguments subcommand {} rest

end Request

end Switchboard
