/-!
The error codes of the operating system that a connection can report, with the text of each.
-/

set_option autoImplicit false

namespace ModbusTcp

/-- An error code. `success` is code 0: a failure may come without an error of its own. -/
inductive Errno where
  | success
  | interrupted
  | ioError
  | badDescriptor
  | wouldBlock
  | accessDenied
  | noSpace
  | brokenPipe
  | notSocket
  | addressNotAvailable
  | networkUnreachable
  | connectionAborted
  | connectionReset
  | notConnected
  | timedOut
  | hostUnreachable
  /-- Any other code. -/
  | other (code : Nat)
  deriving DecidableEq, Repr

namespace Errno

/-- The text of an error code. -/
def message : Errno → String
  | .success => "Success"
  | .interrupted => "Interrupted system call"
  | .ioError => "Input/output error"
  | .badDescriptor => "Bad file descriptor"
  | .wouldBlock => "Resource temporarily unavailable"
  | .accessDenied => "Permission denied"
  | .noSpace => "No space left on device"
  | .brokenPipe => "Broken pipe"
  | .notSocket => "Socket operation on non-socket"
  | .addressNotAvailable => "Cannot assign requested address"
  | .networkUnreachable => "Network is unreachable"
  | .connectionAborted => "Software caused connection abort"
  | .connectionReset => "Connection reset by peer"
  | .notConnected => "Transport endpoint is not connected"
  | .timedOut => "Connection timed out"
  | .hostUnreachable => "No route to host"
  | .other code => s!"Unknown error {code}"

/-- The error code with a symbolic name; `NONE` is code 0. -/
def ofName? : String → Option Errno
  | "NONE" => some .success
  | "EINTR" => some .interrupted
  | "EIO" => some .ioError
  | "EBADF" => some .badDescriptor
  | "EAGAIN" => some .wouldBlock
  | "EACCES" => some .accessDenied
  | "ENOSPC" => some .noSpace
  | "EPIPE" => some .brokenPipe
  | "ENOTSOCK" => some .notSocket
  | "EADDRNOTAVAIL" => some .addressNotAvailable
  | "ENETUNREACH" => some .networkUnreachable
  | "ECONNABORTED" => some .connectionAborted
  | "ECONNRESET" => some .connectionReset
  | "ENOTCONN" => some .notConnected
  | "ETIMEDOUT" => some .timedOut
  | "EHOSTUNREACH" => some .hostUnreachable
  | _ => none

/-- The errors that mean that the peer is gone. -/
def isReset (e : Errno) : Bool :=
  e = .connectionReset || e = .brokenPipe || e = .connectionAborted

end Errno

end ModbusTcp
