import Switchboard.Descriptor.Binding
import Switchboard.Switches.Rejection

/-!
# Faults

A line that fits the template of a command can still be wrong: its switches can be refused, or a
value can be of a form that its field cannot hold.
-/
namespace Switchboard

/-- Why a line of a command is not bound to a record. -/
inductive Fault where
  | rejected (rejection : Rejection)
  | malformed (error : BindError)
  deriving DecidableEq, Repr

/-- The record of a write, or the error that stopped it. -/
def Written.outcome (written : Written) : Except Fault Record :=
  match written.error with
  | none => .ok written.record
  | some error => .error (.malformed error)

end Switchboard
