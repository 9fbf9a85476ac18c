/-!
The outcome that the framing layer reports to its caller: a class of outcome, a text that names
the cause, and whether the receive deadline was what ended the operation.
-/

set_option autoImplicit false

namespace ModbusTcp

/-- The classes of outcome (`TransportError`), each with a code of its own. A code that no class has
is kept. -/
inductive Outcome where
  | ok
  /-- The stream ended or was reset before any byte of a frame arrived. -/
  | connectionClosed
  /-- The stream ended or the deadline passed part way through a frame. -/
  | frameTruncated
  /-- Any other failure; the text names the cause. -/
  | ioFailure
  /-- A connection that cannot be used was handed to a channel. -/
  | configurationError
  | unassigned (code : UInt8)
  deriving DecidableEq, Repr

/-- The class with the given code. -/
def Outcome.ofCode (code : UInt8) : Outcome :=
  if code = 0 then .ok
  else if code = 1 then .connectionClosed
  else if code = 2 then .frameTruncated
  else if code = 3 then .ioFailure
  else if code = 4 then .configurationError
  else .unassigned code

/-- The name under which a class is reported. -/
def Outcome.name : Outcome → String
  | .ok => "ok"
  | .connectionClosed => "connection closed"
  | .frameTruncated => "frame truncated"
  | .ioFailure => "I/O failure"
  | .configurationError => "configuration error"
  | .unassigned _ => "unknown"

/-- What an operation reports (`TransportStatus`). Only the class decides whether it succeeded. -/
structure Status where
  outcome : Outcome := .ok
  message : String := ""
  timedOut : Bool := false
  deriving DecidableEq, Repr

/-- The status of success. -/
def Status.success : Status := {}

def Status.isOk (s : Status) : Bool := s.outcome = .ok

/-- Either a value or the status that explains why there is none. -/
abbrev Result (α : Type) := Except Status α

/-- The class of outcome of a result: success where there is a value. -/
def Result.outcome {α : Type} : Result α → Outcome
  | .ok _ => .ok
  | .error s => s.outcome

end ModbusTcp
