import ModbusTcp.Transport
import ModbusTcp.Transport.Kernel

/-!
A connection over a stream socket. Writes are queued until a flush sends them.

Closing sets flags that stay set: after its first call each close operation succeeds without effect.
The descriptor stays open until the connection itself goes, so a close never frees its number for
another file. Calls that were cut short are started over.
-/

set_option autoImplicit false

namespace ModbusTcp

/-- A connection over a descriptor (`SocketConnection`). -/
structure Socket where
  descriptor : Descriptor
  inputClosed : Bool := false
  outputClosed : Bool := false
  closed : Bool := false
  /-- Bytes that were written and not yet sent. -/
  queue : List UInt8 := []
  deriving DecidableEq, Repr

namespace Socket

variable {κ : Type} [Kernel κ]

/-- Whether there is no descriptor behind the connection, or it was closed. -/
def gone (s : Socket) : Bool := s.descriptor < 0 || s.closed

def isOpen (s : Socket) : Bool := !s.gone

/-! ## Receiving -/

/-- Waits for input and receives it, over again if a call was cut short or found nothing. -/
def receive (d : Descriptor) (room : Nat) (deadline : Deadline) (k : κ) : Option (Delivery × κ) :=
  let clock := Kernel.now k
  match hp : Kernel.poll d (deadline.waitMilliseconds clock.1) clock.2 with
  | none => none
  | some (.error e, k') =>
    if h : e = .interrupted then
      have : Kernel.interruptions k' < Kernel.interruptions k :=
        Nat.lt_of_lt_of_le (Kernel.poll_interrupted _ _ _ _ hp (by rw [h]))
          (Kernel.now_interruptions k)
      receive d room deadline k'
    else some (.ofResult (.failed e), k')
  | some (.ok false, k') => some (.ofResult .expired, k')
  | some (.ok true, k') =>
    match hr : Kernel.recv d room k' with
    | (.ok [], k'') => some (.ofResult .ended, k'')
    | (.ok data, k'') => some (.ofBytes data, k'')
    | (.error e, k'') =>
      if h : e = .interrupted ∨ e = .wouldBlock then
        have : Kernel.interruptions k'' < Kernel.interruptions k := by
          have h₁ := Kernel.recv_retried d room k' e (by rw [hr]) h
          rw [hr] at h₁
          exact Nat.lt_of_lt_of_le h₁ (Nat.le_trans (Kernel.poll_interruptions _ _ _ _ hp)
            (Kernel.now_interruptions k))
        receive d room deadline k''
      else if e.isReset then some (.ofResult { status := .connectionReset, error := e }, k'')
      else some (.ofResult (.failed e), k'')
termination_by Kernel.interruptions k

def readSome (room : Nat) (deadline : Deadline) (s : Socket) (k : κ) : Option (Delivery × κ) :=
  if s.gone || s.inputClosed then some (.ofResult .ended, k)
  else if room = 0 then some (.ofResult {}, k)
  else receive s.descriptor room deadline k

/-- The bytes that wait in the kernel, those of a closed connection too (`AvailableBytes`). -/
def available (s : Socket) (k : κ) : Nat :=
  if s.descriptor < 0 then 0 else Kernel.queued s.descriptor k

/-! ## Sending -/

def write (data : List UInt8) (s : Socket) : IoResult × Socket :=
  if s.gone || s.outputClosed then (.failed .notConnected, s)
  else (.transferred data.length, { s with queue := s.queue ++ data })

/-- Sends bytes until all are gone or the kernel refuses (`FlushLocked`). `sent` counts those sent
before. Gives the result and the bytes that are left. -/
def sendAll (d : Descriptor) (sent : Nat) (bytes : List UInt8) (k : κ) :
    IoResult × List UInt8 × κ :=
  if hb : bytes = [] then (.transferred sent, [], k)
  else
    match hs : Kernel.send d bytes k with
    | (.error e, k') =>
      if h : e = .interrupted then
        have : Kernel.interruptions k' < Kernel.interruptions k := by
          have h₁ := Kernel.send_interrupted d bytes k (by rw [hs, h])
          rwa [hs] at h₁
        sendAll d sent bytes k'
      else
        ({ status := if e.isReset then .connectionReset else .error, bytes := sent, error := e },
          bytes, k')
    | (.ok n, k') =>
      have : (bytes.drop n).length < bytes.length := by
        have h₁ := Kernel.send_progress d bytes k n (by rw [hs]) hb
        have h₂ := List.length_pos_iff.mpr hb
        rw [List.length_drop]
        omega
      sendAll d (sent + n) (bytes.drop n) k'
termination_by (bytes.length, Kernel.interruptions k)
decreasing_by
  · exact Prod.Lex.right _ this
  · exact Prod.Lex.left _ _ this

/-- Sends the queue; what was not sent stays in it. -/
def drain (s : Socket) (k : κ) : IoResult × Socket × κ :=
  let (result, queue, k) := sendAll s.descriptor 0 s.queue k
  (result, { s with queue }, k)

def flush (s : Socket) (k : κ) : IoResult × Socket × κ :=
  if s.gone || s.outputClosed then (.failed .notConnected, s, k) else s.drain k

/-! ## Closing -/

/-- Shuts the stream down and reports `result`, or the error if that fails. -/
def shutDown (direction : Shutdown) (result : IoResult) (s : Socket) (k : κ) :
    IoResult × Socket × κ :=
  match Kernel.shutdown s.descriptor direction k with
  | (some error, k) => (.failed error, s, k)
  | (none, k) => (result, s, k)

def closeInput (s : Socket) (k : κ) : IoResult × Socket × κ :=
  if s.gone || s.inputClosed then ({}, s, k)
  else shutDown .receiving {} { s with inputClosed := true } k

/-- Sends the queue, drops what could not be sent, and stops sending (`CloseOutput`). -/
def closeOutput (s : Socket) (k : κ) : IoResult × Socket × κ :=
  if s.gone || s.outputClosed then ({}, s, k)
  else
    let (result, s, k) := ({ s with outputClosed := true } : Socket).drain k
    shutDown .sending result { s with queue := [] } k

/-- Shuts both directions down (`Close`). That the peer was faster is no failure. -/
def close (s : Socket) (k : κ) : IoResult × Socket × κ :=
  if s.gone then ({}, s, k)
  else
    let s := { s with closed := true, inputClosed := true, outputClosed := true }
    match shutDown .both {} s k with
    | (⟨.error, _, .notConnected⟩, s, k) => ({}, s, k)
    | r => r

instance : Transport Unit (Socket × κ) where
  readSome _ room deadline s := (readSome room deadline s.1 s.2).map fun r => (r.1, s.1, r.2)
  write _ data s := ((write data s.1).1, (write data s.1).2, s.2)
  flush _ s := flush s.1 s.2
  isOpen _ s := isOpen s.1
  closeInput _ s := closeInput s.1 s.2
  closeOutput _ s := closeOutput s.1 s.2
  close _ s := close s.1 s.2
  backlog _ s := available s.1 s.2

end Socket

end ModbusTcp
