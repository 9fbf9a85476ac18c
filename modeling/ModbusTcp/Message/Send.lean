import ModbusTcp.Message.Frame
import ModbusTcp.Status
import ModbusTcp.Transport

/-!
Handing a message to a connection: the whole frame in one write, or nothing if it is too long.
-/

set_option autoImplicit false

namespace ModbusTcp

/-- Why a message was not taken over by a connection. -/
inductive SendFailure where
  /-- The frame is longer than any that may travel. -/
  | tooLong (length : Nat)
  /-- The write failed. -/
  | notWritten (error : Errno)
  /-- The write succeeded with another number of bytes. -/
  | shortWrite (accepted length : Nat)
  deriving DecidableEq, Repr

namespace SendFailure

/-- The text of a cause. -/
def message : SendFailure → String
  | .tooLong length =>
    s!"encoded frame of {length} bytes exceeds the Modbus TCP maximum of {Frame.maximumLength}"
  | .notWritten error => error.message
  | .shortWrite accepted length => s!"short write: {accepted} of {length} bytes"

/-- The failure as a status. -/
def status (f : SendFailure) : Status := { outcome := .ioFailure, message := f.message }

end SendFailure

/-- Writes the frame of a message to a connection, without flushing (`EncodeTo`). -/
def Message.send {ρ σ : Type} [Transport ρ σ] {role : Role} (m : Message role) (r : ρ) (s : σ) :
    Except SendFailure Unit × σ :=
  let frame := m.frame
  if Frame.maximumLength < frame.length then (.error (.tooLong frame.length), s)
  else
    let (result, s) := Transport.write r frame s
    if result.status ≠ .ok then (.error (.notWritten result.error), s)
    else if result.bytes ≠ frame.length then
      (.error (.shortWrite result.bytes frame.length), s)
    else (.ok (), s)

end ModbusTcp
