import ModbusTcp.Errno

/-!
The result of a single transfer over a connection, and what a read hands over beside it.
-/

set_option autoImplicit false

namespace ModbusTcp

/-- How a transfer ended. -/
inductive IoStatus where
  | ok
  | timeout
  | endOfStream
  | connectionReset
  | error
  deriving DecidableEq, Repr

/-- The result of a read, a write, a flush or a close: `bytes` is the number transferred and
`error` the code that came with a failure. -/
structure IoResult where
  status : IoStatus := .ok
  bytes : Nat := 0
  error : Errno := .success
  deriving DecidableEq, Repr

namespace IoResult

/-- The result of a transfer of `bytes` bytes. -/
def transferred (bytes : Nat) : IoResult := { bytes }

/-- A failure with an error code. -/
def failed (error : Errno) : IoResult := { status := .error, error }

/-- The connection has nothing more to give. -/
def ended : IoResult := { status := .endOfStream }

/-- The deadline passed. -/
def expired : IoResult := { status := .timeout }

def isOk (r : IoResult) : Bool := r.status = .ok

/-- The text that names what ended a transfer (`Describe`). -/
def describe (r : IoResult) : String :=
  match r.status with
  | .ok => "ok"
  | .timeout => "receive timeout elapsed"
  | .endOfStream => "end of stream"
  | .connectionReset | .error => r.error.message

end IoResult

/-- What a read delivers (`ReadSome`): its result, and the bytes that it stored at the front of the
region it was given. A reader that keeps its contract stores as many as it reports, and none unless
the status is ok. Filling a region goes by what is reported and keeps what is stored, but takes from
the contract that a read that failed stored nothing. -/
structure Delivery where
  result : IoResult
  data : List UInt8 := []
  deriving DecidableEq, Repr

namespace Delivery

/-- Bytes, each one reported. -/
def ofBytes (data : List UInt8) : Delivery := ⟨.transferred data.length, data⟩

/-- A result without bytes. -/
def ofResult (result : IoResult) : Delivery := { result }

end Delivery

end ModbusTcp
