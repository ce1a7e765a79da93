import Switchboard.Text.Utf8

/-!
# Sinks

Answers and diagnostics go to whatever takes bytes. A writer can change with every write and every
flush, and it can refuse each of them. A sink is a writer that takes bytes without a limit or up to
one; of bytes that do not fit it keeps what does fit, and then refuses.
-/
namespace Switchboard

/-- What comes of a write that is not taken in full. -/
structure Refusal where
  /-- How many of the bytes were taken. -/
  taken : Nat
  /-- Why the others were not, in words. -/
  cause : String
  deriving DecidableEq, Repr

/-- What takes bytes. -/
class Writer (κ : Type) where
  /-- The writer after some bytes were written to it, and what it refused of them, if anything. -/
  write : κ → List UInt8 → κ × Option Refusal
  /-- The writer after it passed on what it has taken, and why it could not, if so. -/
  flush : κ → κ × Option String

/-- What comes of handing bytes to a writer. -/
structure Delivery (κ : Type) where
  /-- The bytes that the writer took. -/
  taken : List UInt8
  /-- The writer afterwards. -/
  sink : κ
  /-- Why the writer refused to go on, if it did. -/
  refusal : Option String
  deriving DecidableEq, Repr

/-- Go on after a delivery, unless the writer refused. -/
def Delivery.andThen {κ : Type} (delivery : Delivery κ) (next : κ → Delivery κ) : Delivery κ :=
  match delivery.refusal with
  | some _ => delivery
  | none =>
    let later := next delivery.sink
    { later with taken := delivery.taken ++ later.taken }

namespace Writer

variable {κ : Type} [Writer κ]

/-- Write bytes, if there are any. -/
def offer (sink : κ) (bytes : List UInt8) : Delivery κ :=
  if bytes.isEmpty then ⟨[], sink, none⟩
  else match write sink bytes with
    | (after, none) => ⟨bytes, after, none⟩
    | (after, some refusal) => ⟨bytes.take refusal.taken, after, some refusal.cause⟩

/-- Flush what was taken. -/
def settle (sink : κ) : Delivery κ := ⟨[], (flush sink).1, (flush sink).2⟩

/-- Write a text and then a line break. -/
def offerLine (sink : κ) (text : String) : Delivery κ :=
  (offer sink (Text.bytesOf text)).andThen fun after => offer after (Text.bytesOf "\n")

/-- Write a text and a line break, and flush them. -/
def sendLine (sink : κ) (text : String) : Delivery κ := (offerLine sink text).andThen settle

end Writer

/-- A writer with a limit or without one. -/
structure Sink where
  /-- How many more bytes it takes, if there is a limit. -/
  room : Option Nat
  /-- Why it refuses, in words. -/
  refusal : String
  deriving DecidableEq, Repr

/-- A sink without a limit. -/
def Sink.unlimited : Sink := ⟨none, ""⟩

instance : Writer Sink where
  write sink bytes := match sink.room with
    | none => (sink, none)
    | some room => ({ sink with room := some (room - bytes.length) },
        if bytes.length ≤ room then none else some ⟨room, sink.refusal⟩)
  flush sink := (sink, none)

end Switchboard
