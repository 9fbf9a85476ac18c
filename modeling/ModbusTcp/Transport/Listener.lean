import ModbusTcp.Status
import ModbusTcp.Transport.Socket

/-!
Sockets that come from outside: a listening socket and its clients, and a connection to a host.
-/

set_option autoImplicit false

namespace ModbusTcp

/-! ## Listening -/

/-- A listening socket (`TcpListener`). -/
structure Listener where
  descriptor : Descriptor
  deriving DecidableEq, Repr

namespace Listener

variable {κ : Type} [Kernel κ]

/-- The calls in which a listening socket comes to be. -/
inductive ListenStep where
  | socket
  | reuseAddress
  | bind
  | listen
  deriving DecidableEq, Repr

/-- Why listening failed. -/
inductive ListenFailure where
  /-- The text is no address. -/
  | invalidAddress (text : String)
  /-- A call failed. -/
  | system (step : ListenStep) (text : String) (port : UInt16) (error : Errno)
  deriving DecidableEq, Repr

/-- What a call is called in a report. -/
def stepName (text : String) (port : UInt16) : ListenStep → String
  | .socket => "socket"
  | .reuseAddress => "setsockopt(SO_REUSEADDR)"
  | .bind => s!"bind {text}:{port}"
  | .listen => "listen"

def ListenFailure.status : ListenFailure → Status
  | .invalidAddress text =>
    { outcome := .configurationError, message := s!"invalid bind address '{text}'" }
  | .system step text port error =>
    { outcome := .ioFailure, message := stepName text port step ++ ": " ++ error.message }

/-- Makes a socket listen at an address and port. The address is looked at only once the socket is
there. -/
def prepare (d : Descriptor) (text : String) (port : UInt16) (k : κ) :
    Except ListenFailure Unit × κ :=
  match Kernel.reuseAddress d k with
  | (some error, k) => (.error (.system .reuseAddress text port error), k)
  | (none, k) =>
    match Ipv4.ofBindText? text with
    | none => (.error (.invalidAddress text), k)
    | some address =>
      match Kernel.bind d address port k with
      | (some error, k) => (.error (.system .bind text port error), k)
      | (none, k) =>
        match Kernel.listen d k with
        | (some error, k) => (.error (.system .listen text port error), k)
        | (none, k) => (.ok (), k)

/-- Listens at an address and port (`Listen`). A socket that cannot be made to is released. -/
def listen (text : String) (port : UInt16) (k : κ) : Except ListenFailure Listener × κ :=
  match Kernel.socket .ipv4 k with
  | (.error error, k) => (.error (.system .socket text port error), k)
  | (.ok descriptor, k) =>
    match prepare descriptor text port k with
    | (.error failure, k) => (.error failure, Kernel.release descriptor k)
    | (.ok (), k) => (.ok { descriptor }, k)

/-- The calls that accepting a client makes. -/
inductive AcceptCall where
  | poll
  | accept
  deriving DecidableEq, Repr

/-- Why no client was accepted. -/
inductive AcceptFailure where
  /-- The deadline passed. -/
  | expired
  /-- A call failed. -/
  | system (call : AcceptCall) (error : Errno)
  deriving DecidableEq, Repr

/-- What a call is called in a report. -/
def callName : AcceptCall → String
  | .poll => "poll"
  | .accept => "accept"

def AcceptFailure.status : AcceptFailure → Status
  | .expired =>
    { outcome := .ioFailure, message := "no client connected before the deadline",
      timedOut := true }
  | .system call error =>
    { outcome := .ioFailure, message := callName call ++ ": " ++ error.message }

/-- Waits for the next client (`Accept`); no result if the wait never ends. -/
def accept (l : Listener) (deadline : Deadline) (k : κ) :
    Option (Except AcceptFailure Socket × κ) :=
  let clock := Kernel.now k
  match hp : Kernel.poll l.descriptor (deadline.waitMilliseconds clock.1) clock.2 with
  | none => none
  | some (.error e, k') =>
    if h : e = .interrupted then
      have : Kernel.interruptions k' < Kernel.interruptions k :=
        Nat.lt_of_lt_of_le (Kernel.poll_interrupted _ _ _ _ hp (by rw [h]))
          (Kernel.now_interruptions k)
      l.accept deadline k'
    else some (.error (.system .poll e), k')
  | some (.ok false, k') => some (.error .expired, k')
  | some (.ok true, k') =>
    match ha : Kernel.accept l.descriptor k' with
    | (.ok descriptor, k'') => some (.ok { descriptor }, k'')
    | (.error e, k'') =>
      if h : e = .interrupted ∨ e = .wouldBlock ∨ e = .connectionAborted then
        have : Kernel.interruptions k'' < Kernel.interruptions k := by
          have h₁ := Kernel.accept_retried l.descriptor k' e (by rw [ha]) h
          rw [ha] at h₁
          exact Nat.lt_of_lt_of_le h₁ (Nat.le_trans (Kernel.poll_interruptions _ _ _ _ hp)
            (Kernel.now_interruptions k))
        l.accept deadline k''
      else some (.error (.system .accept e), k'')
termination_by Kernel.interruptions k

/-- The port at which the socket listens (`GetPort`); 0 if it has none. -/
def port (l : Listener) (k : κ) : UInt16 := (Kernel.localPort l.descriptor k).getD 0

end Listener

namespace Socket

variable {κ : Type} [Kernel κ]

/-! ## Connecting -/

/-- Why connecting failed. -/
inductive ConnectFailure where
  /-- The name of the host could not be resolved, for the reason in the text. -/
  | unresolved (host text : String)
  /-- None of the places that it stands for could be connected to; the error is that of the last. -/
  | unreachable (host : String) (port : UInt16) (error : Errno)
  deriving DecidableEq, Repr

def ConnectFailure.status : ConnectFailure → Status
  | .unresolved host text =>
    { outcome := .configurationError, message := s!"cannot resolve '{host}': " ++ text }
  | .unreachable host port error =>
    { outcome := .ioFailure, message := s!"connect {host}:{port}: " ++ error.message }

/-- Connects to the first place that can be connected to. `last` is the error before. -/
def connectAny : List Endpoint → Errno → κ → Except Errno Socket × κ
  | [], last, k => (.error last, k)
  | endpoint :: endpoints, _, k =>
    match Kernel.socket endpoint.family k with
    | (.error error, k) => connectAny endpoints error k
    | (.ok descriptor, k) =>
      match Kernel.connect descriptor endpoint k with
      | (some error, k) => connectAny endpoints error (Kernel.release descriptor k)
      | (none, k) => (.ok { descriptor }, k)

/-- Connects to a host and port (`ConnectTcp`). -/
def connect (host : String) (port : UInt16) (k : κ) : Except ConnectFailure Socket × κ :=
  match Kernel.resolve host port k with
  | (.error text, k) => (.error (.unresolved host text), k)
  | (.ok endpoints, k) =>
    match connectAny endpoints .hostUnreachable k with
    | (.error error, k) => (.error (.unreachable host port error), k)
    | (.ok s, k) => (.ok s, k)

/-- The status of a call that no address takes part in. -/
def systemFailure (call : String) (error : Errno) : Status :=
  { outcome := .ioFailure, message := call ++ ": " ++ error.message }

/-- Makes two sockets that are connected with each other (`CreateSocketPair`). -/
def pair (k : κ) : Result (Socket × Socket) × κ :=
  match Kernel.streamPair k with
  | (.error error, k) => (.error (systemFailure "socketpair" error), k)
  | (.ok (a, b), k) => (.ok ({ descriptor := a }, { descriptor := b }), k)

end Socket

end ModbusTcp
