import ModbusTcp.Deadline
import ModbusTcp.Errno
import ModbusTcp.Transport.Address

/-!
The calls of the operating system on which sockets rest, as operations on a state `κ` of the kernel.

The state may change with every call, the clock included; nothing is assumed about how far it
moves. A call may be cut short any number of times, but not for ever: `interruptions` bounds how
often that can still happen, and the laws say that each time uses one up. So a caller that starts
over comes to an end. A transfer moves no more bytes than it was asked for, and a send that
succeeds moves some.
-/

set_option autoImplicit false

namespace ModbusTcp

/-- The number of an open file; a negative one names none. -/
abbrev Descriptor := Int32

/-- The directions in which a stream can be shut down. -/
inductive Shutdown where
  | receiving
  | sending
  | both
  deriving DecidableEq, Repr

/-- The families of addresses that a socket is made for. -/
inductive AddressFamily where
  | ipv4
  | other (code : Nat)
  deriving DecidableEq, Repr

/-- A place to connect to, as name resolution gives it: the address with the port. -/
structure Endpoint where
  family : AddressFamily
  address : List UInt8
  port : UInt16
  deriving DecidableEq, Repr

/-- A kernel, with the calls that sockets make: `poll`, `recv`, `send` and the others. -/
class Kernel (κ : Type) where
  /-- Reads the steady clock. -/
  now : κ → Instant × κ
  /-- Waits until input or an error can be read from the descriptor, at most so many milliseconds,
  for ever if negative. Gives whether there is something; no result if the wait never ends. -/
  poll : Descriptor → Int32 → κ → Option (Except Errno Bool × κ)
  /-- Receives at most so many bytes; none means the end of the stream. -/
  recv : Descriptor → Nat → κ → Except Errno (List UInt8) × κ
  /-- Sends bytes and gives how many were taken. -/
  send : Descriptor → List UInt8 → κ → Except Errno Nat × κ
  /-- The bytes that could be received at once. -/
  queued : Descriptor → κ → Nat
  /-- Shuts a stream down; gives the error if there is one. -/
  shutdown : Descriptor → Shutdown → κ → Option Errno × κ
  /-- Releases a descriptor. -/
  release : Descriptor → κ → κ
  /-- Makes a stream socket. -/
  socket : AddressFamily → κ → Except Errno Descriptor × κ
  /-- Lets a socket be bound to an address that was in use a moment ago. -/
  reuseAddress : Descriptor → κ → Option Errno × κ
  /-- Binds a socket to an address and port. -/
  bind : Descriptor → Ipv4 → UInt16 → κ → Option Errno × κ
  /-- Makes a socket a listening one. -/
  listen : Descriptor → κ → Option Errno × κ
  /-- Takes the next client of a listening socket. -/
  accept : Descriptor → κ → Except Errno Descriptor × κ
  /-- The port to which a socket is bound. -/
  localPort : Descriptor → κ → Option UInt16
  /-- The places that a host and port stand for, or the text that says why there are none. -/
  resolve : String → UInt16 → κ → Except String (List Endpoint) × κ
  /-- Connects a socket. -/
  connect : Descriptor → Endpoint → κ → Option Errno × κ
  /-- Makes two connected local streams. -/
  streamPair : κ → Except Errno (Descriptor × Descriptor) × κ
  /-- A bound on the calls that can still be cut short. -/
  interruptions : κ → Nat
  now_interruptions : ∀ k, interruptions (now k).2 ≤ interruptions k
  poll_interruptions : ∀ d t k r, poll d t k = some r → interruptions r.2 ≤ interruptions k
  poll_interrupted : ∀ d t k r, poll d t k = some r → r.1 = .error .interrupted →
    interruptions r.2 < interruptions k
  recv_retried : ∀ d n k e, (recv d n k).1 = .error e → e = .interrupted ∨ e = .wouldBlock →
    interruptions (recv d n k).2 < interruptions k
  send_interrupted : ∀ d bytes k, (send d bytes k).1 = .error .interrupted →
    interruptions (send d bytes k).2 < interruptions k
  recv_bounded : ∀ d n k bytes, (recv d n k).1 = .ok bytes → bytes.length ≤ n
  send_progress : ∀ d bytes k n, (send d bytes k).1 = .ok n → bytes ≠ [] → 0 < n
  send_bounded : ∀ d bytes k n, (send d bytes k).1 = .ok n → n ≤ bytes.length
  accept_retried : ∀ d k e, (accept d k).1 = .error e →
    e = .interrupted ∨ e = .wouldBlock ∨ e = .connectionAborted →
    interruptions (accept d k).2 < interruptions k

end ModbusTcp
