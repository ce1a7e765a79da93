import Switchboard.Line.Quoting
import Switchboard.Main
import Switchboard.Proofs.Line.Typing
import Switchboard.Proofs.Record.Content
import Switchboard.Proofs.Record.Directories
import Switchboard.Proofs.Registration.Acceptance
import Switchboard.Proofs.Shell.Dispatch
import Switchboard.Proofs.Shell.GeneratedHelp
import Switchboard.Proofs.Shell.Processing
import Switchboard.Proofs.Shell.Reading
import Switchboard.Proofs.Shell.Runs
import Switchboard.Proofs.Shell.Soundness
import Switchboard.Proofs.Switches.Content
import Switchboard.Proofs.Switches.Rearranging
import Switchboard.Proofs.Switches.Split
import Switchboard.Proofs.Switches.Values
import Switchboard.Proofs.Switches.Verdict
import Switchboard.Proofs.Template.SlotNames
import Switchboard.Registry.Writing
import Switchboard.Proofs.Text.LowerCase
import Switchboard.Proofs.Registration.Keywords
import Switchboard.Proofs.Number.Rounding
import Switchboard.Proofs.Record.Conformance
import Switchboard.Proofs.Shell.Failures
import Switchboard.Proofs.Record.Members
import Switchboard.Proofs.Record.Printing
import Switchboard.Proofs.Registry.Records
import Switchboard.Proofs.Text.Characters
import Switchboard.Proofs.Switches.Told
import Switchboard.Proofs.Registry.Framing
import Switchboard.Proofs.Line.Grammar
import Switchboard.Proofs.Template.Captures
import Switchboard.Proofs.Template.FromEnd
import Switchboard.Proofs.CommandLine.Agreement
import Switchboard.Proofs.Shell.Limits
import Switchboard.Proofs.Shell.Truncation
import Switchboard.Proofs.Registry.Truncation
import Switchboard.Proofs.Template.Notation
import Switchboard.Proofs.Registration.Rules
import Switchboard.Proofs.Registration.FirstDefect
import Switchboard.Proofs.Registration.Checks
import Switchboard.Proofs.Registration.Reordering
import Switchboard.Proofs.Shell.Overlap
import Switchboard.Proofs.Record.FailedWrites
import Switchboard.Proofs.Record.Legibility
import Switchboard.Proofs.HelpText.Columns
import Switchboard.Proofs.Registry.Telling
import Switchboard.Proofs.Registry.Keys
import Switchboard.Proofs.Registry.Writing
import Switchboard.Proofs.Registry.Loading
import Switchboard.Proofs.Descriptor.Additions
import Switchboard.Proofs.Descriptor.Views
