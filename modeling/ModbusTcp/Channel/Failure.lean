import ModbusTcp.Message.DecodeError
import ModbusTcp.Message.Frame
import ModbusTcp.Message.Send

/-!
Why an operation of a channel failed, as a cause, and the status that reports it.

A stream that ends between two frames is a clean end (`ClassifyHeaderFailure`); one that ends inside
a frame broke it (`ClassifyBodyFailure`). A failure of the connection itself is reported as such,
wherever it strikes.
-/

set_option autoImplicit false

namespace ModbusTcp

/-- Why a connection was not bound. -/
inductive BindFailure where
  | noConnection
  | notOpen
  deriving DecidableEq, Repr

def BindFailure.status : BindFailure → Status
  | .noConnection =>
    { outcome := .configurationError, message := "socket invalid: no connection given" }
  | .notOpen =>
    { outcome := .configurationError, message := "socket invalid: connection is not open" }

/-- Why a message was not written. -/
inductive WriteFailure where
  /-- No connection is bound. -/
  | unbound
  /-- The connection did not take the message over. -/
  | notSent (cause : SendFailure)
  /-- The connection did not send what it had taken over. -/
  | notFlushed (result : IoResult)
  deriving DecidableEq, Repr

namespace WriteFailure

/-- The text of a cause. -/
def message : WriteFailure → String
  | .unbound => "channel is closed"
  | .notSent cause => cause.message
  | .notFlushed result => result.describe

def status (f : WriteFailure) : Status :=
  { outcome := .ioFailure, message := "I/O exception - failed to write: " ++ f.message }

end WriteFailure

/-- Why no message was read. -/
inductive ReadFailure where
  /-- No connection is bound. -/
  | unbound
  /-- The bytes up to the length field did not arrive. -/
  | headerBroken (result : IoResult)
  /-- The length field announces more than the buffer holds. -/
  | lengthTooLarge (length : UInt16) (limit : Nat)
  /-- The bytes behind the length field did not arrive. -/
  | bodyBroken (result : IoResult) (length : UInt16)
  /-- The frame was read, but the buffer does not hold it. -/
  | doesNotFit
  /-- The frame is too short for a function code. -/
  | noFunctionCode (length : UInt16)
  /-- The frame arrived, but cannot be decoded. -/
  | malformed (cause : DecodeError)
  deriving DecidableEq, Repr

namespace ReadFailure

/-- A failure of reading from the connection or of what was read. -/
def ioFailure (text : String) : Status :=
  { outcome := .ioFailure, message := "I/O exception - failed to read: " ++ text }

/-- The status of a stream that ended inside a frame. -/
def truncated (part : String) (result : IoResult) (wanted : Nat) : Status :=
  { outcome := .frameTruncated
    message :=
      s!"premature end of stream ({part} truncated after {result.bytes} of {wanted} bytes): "
        ++ result.describe
    timedOut := result.status = .timeout }

def status : ReadFailure → Status
  | .unbound => { outcome := .connectionClosed, message := "channel is closed" }
  | .headerBroken result =>
    if result.status = .error then ioFailure result.describe
    else if result.bytes = 0 then
      { outcome := .connectionClosed
        message := "no frame received: " ++ result.describe
        timedOut := result.status = .timeout }
    else truncated "header" result Frame.prefixLength
  | .lengthTooLarge length limit =>
    ioFailure s!"length field {length} exceeds the maximum of {limit}"
  | .bodyBroken result length =>
    if result.status = .error then ioFailure result.describe
    else truncated "message" result length.toNat
  | .doesNotFit => ioFailure "frame does not fit the buffer"
  | .noFunctionCode length => ioFailure s!"frame of length {length} carries no function code"
  | .malformed cause => ioFailure cause.status.message

end ReadFailure

end ModbusTcp
