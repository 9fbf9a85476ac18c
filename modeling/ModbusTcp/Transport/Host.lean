import ModbusTcp.Transport.Kernel

/-!
A host on its own: local stream pairs, plain files and listening sockets, but no route to any
network, so nobody ever connects.

**Streams.** What one end sends is at once in the other end's queue. Shutting down the sending side
of an end is the end of the stream for its peer, after what is still queued; shutting down the
receiving side breaks the peer's sending. Releasing an end does both, and if unread bytes were in
its queue, the peer's first read without data reports a reset.

**Time.** The clock stands still. A wait for something that is not there ends at once if it has an
end at all.
-/

set_option autoImplicit false

namespace ModbusTcp

/-- One end of a stream. -/
structure StreamEnd where
  peer : Descriptor
  /-- Bytes that arrived and were not received. -/
  incoming : List UInt8 := []
  receivingEnded : Bool := false
  sendingEnded : Bool := false
  /-- The peer went away with bytes of this end unread. -/
  resetPending : Bool := false
  deriving DecidableEq, Repr

/-- What is behind a descriptor. -/
inductive OpenFile where
  | stream (e : StreamEnd)
  /-- A file that is no socket, always ready and empty. -/
  | plain
  /-- A socket that is neither connected nor listening, bound to a port or not. -/
  | idle (port : Option UInt16)
  | listener (port : UInt16)
  deriving DecidableEq, Repr

/-- The state of the host: its open files and the next number for one. -/
structure Host where
  files : List (Descriptor × OpenFile) := []
  next : Descriptor := 3
  clock : Instant := ⟨0⟩
  deriving DecidableEq, Repr

namespace Host

/-- The port that a listening socket gets if it asks for none in particular. -/
def ephemeralPort : UInt16 := 32768

/-- The error of a call that the socket is not in the state for. -/
def invalidArgument : Errno := .other 22

def file? (h : Host) (d : Descriptor) : Option OpenFile := h.files.lookup d

/-- The host with another file behind a descriptor. -/
def setFile (h : Host) (d : Descriptor) (file : OpenFile) : Host :=
  { h with files := (d, file) :: h.files.filter (·.1 ≠ d) }

/-- The host with a change to the stream behind a descriptor, if there is one. -/
def changeStream (h : Host) (d : Descriptor) (change : StreamEnd → StreamEnd) : Host :=
  match h.file? d with
  | some (.stream e) => h.setFile d (.stream (change e))
  | _ => h

/-- Opens a file under the next number. -/
def openFile (h : Host) (file : OpenFile) : Descriptor × Host :=
  (h.next, { h.setFile h.next file with next := h.next + 1 })

/-! ## The calls -/

/-- Whether a call that reads the file would return at once. -/
def ready : OpenFile → Bool
  | .stream e => !e.incoming.isEmpty || e.resetPending || e.receivingEnded
  | .plain | .idle _ => true
  | .listener _ => false

def poll (d : Descriptor) (milliseconds : Int32) (h : Host) : Option (Except Errno Bool × Host) :=
  let isReady :=
    match h.file? d with
    | some file => ready file
    -- no descriptor has nothing to report; a stale one is reported at once
    | none => 0 ≤ d
  if isReady then some (.ok true, h)
  else if milliseconds < 0 then none
  else some (.ok false, h)

/-- Queued bytes come first, then a pending reset, then the end of the stream. -/
def recv (d : Descriptor) (room : Nat) (h : Host) : Except Errno (List UInt8) × Host :=
  match h.file? d with
  | some (.stream e) =>
    if !e.incoming.isEmpty then
      (.ok (e.incoming.take room),
        h.changeStream d fun e => { e with incoming := e.incoming.drop room })
    else if e.resetPending then
      (.error .connectionReset, h.changeStream d fun e => { e with resetPending := false })
    else (.ok [], h)
  | some .plain => (.error .notSocket, h)
  | some (.idle _) | some (.listener _) => (.error .notConnected, h)
  | none => (.error .badDescriptor, h)

/-- All bytes are taken at once. -/
def send (d : Descriptor) (bytes : List UInt8) (h : Host) : Except Errno Nat × Host :=
  match h.file? d with
  | some (.stream e) =>
    if e.sendingEnded then (.error .brokenPipe, h)
    else
      (.ok bytes.length,
        h.changeStream e.peer fun p => { p with incoming := p.incoming ++ bytes })
  | some .plain => (.error .notSocket, h)
  | some (.idle _) | some (.listener _) => (.error .notConnected, h)
  | none => (.error .badDescriptor, h)

def queued (d : Descriptor) (h : Host) : Nat :=
  match h.file? d with
  | some (.stream e) => e.incoming.length
  | _ => 0

/-- Ends the receiving side of an end, and with it the sending side of its peer. -/
def endReceiving (d : Descriptor) (e : StreamEnd) (h : Host) : Host :=
  (h.changeStream d fun e => { e with receivingEnded := true }).changeStream e.peer fun p =>
    { p with sendingEnded := true }

/-- Ends the sending side of an end, and with it the receiving side of its peer. -/
def endSending (d : Descriptor) (e : StreamEnd) (h : Host) : Host :=
  (h.changeStream d fun e => { e with sendingEnded := true }).changeStream e.peer fun p =>
    { p with receivingEnded := true }

def shutdown (d : Descriptor) (direction : Shutdown) (h : Host) : Option Errno × Host :=
  match h.file? d with
  | some (.stream e) =>
    match direction with
    | .receiving => (none, h.endReceiving d e)
    | .sending => (none, h.endSending d e)
    | .both => (none, (h.endReceiving d e).endSending d e)
  | some .plain => (some .notSocket, h)
  | some (.idle _) | some (.listener _) => (some .notConnected, h)
  | none => (some .badDescriptor, h)

def release (d : Descriptor) (h : Host) : Host :=
  let h' :=
    match h.file? d with
    | some (.stream e) =>
      ((h.endReceiving d e).endSending d e).changeStream e.peer fun p =>
        { p with resetPending := p.resetPending || !e.incoming.isEmpty }
    | _ => h
  { h' with files := h'.files.filter (·.1 ≠ d) }

def socket (_ : AddressFamily) (h : Host) : Except Errno Descriptor × Host :=
  let (d, h) := h.openFile (.idle none)
  (.ok d, h)

/-- A call that only a socket allows, with what it gives for one. -/
def onSocket (d : Descriptor) (h : Host) (call : OpenFile → Option Errno × Host) :
    Option Errno × Host :=
  match h.file? d with
  | some .plain => (some .notSocket, h)
  | some file => call file
  | none => (some .badDescriptor, h)

def reuseAddress (d : Descriptor) (h : Host) : Option Errno × Host :=
  h.onSocket d fun _ => (none, h)

/-- Every address can be bound. -/
def bind (d : Descriptor) (_ : Ipv4) (port : UInt16) (h : Host) : Option Errno × Host :=
  h.onSocket d fun file =>
    match file with
    | .idle none => (none, h.setFile d (.idle (if port = 0 then ephemeralPort else port)))
    | _ => (some invalidArgument, h)

/-- A socket that was not bound gets a port of its own. -/
def listen (d : Descriptor) (h : Host) : Option Errno × Host :=
  h.onSocket d fun file =>
    match file with
    | .idle port => (none, h.setFile d (.listener (port.getD ephemeralPort)))
    | .listener _ => (none, h)
    | _ => (some invalidArgument, h)

/-- There is never a client to accept. -/
def accept (d : Descriptor) (h : Host) : Except Errno Descriptor × Host :=
  match h.file? d with
  | some .plain => (.error .notSocket, h)
  | some _ => (.error .timedOut, h)
  | none => (.error .badDescriptor, h)

def localPort (d : Descriptor) (h : Host) : Option UInt16 :=
  match h.file? d with
  | some (.idle port) => some (port.getD 0)
  | some (.listener port) => some port
  | _ => none

/-- There is nobody to ask for a name, so only an address stands for a place. -/
def resolve (host : String) (port : UInt16) (h : Host) : Except String (List Endpoint) × Host :=
  match Ipv4.parse? host.toList with
  | some ⟨a, b, c, d⟩ => (.ok [{ family := .ipv4, address := [a, b, c, d], port }], h)
  | none => (.error "Temporary failure in name resolution", h)

def connect (d : Descriptor) (_ : Endpoint) (h : Host) : Option Errno × Host :=
  h.onSocket d fun _ => (some .networkUnreachable, h)

def streamPair (h : Host) : Except Errno (Descriptor × Descriptor) × Host :=
  let a := h.next
  let b := h.next + 1
  let (_, h) := h.openFile (.stream { peer := b })
  let (_, h) := h.openFile (.stream { peer := a })
  (.ok (a, b), h)

/-! ## The host as a kernel

No call is ever cut short. -/

theorem poll_error (d : Descriptor) (t : Int32) (h : Host) (e : Errno) (h' : Host) :
    poll d t h ≠ some (.error e, h') := by
  unfold poll
  simp only
  repeat' split
  all_goals simp

theorem recv_error {d : Descriptor} {n : Nat} {h : Host} {e : Errno}
    (he : (recv d n h).1 = .error e) :
    e = .connectionReset ∨ e = .notSocket ∨ e = .notConnected ∨ e = .badDescriptor := by
  unfold recv at he
  repeat' split at he
  all_goals cases he <;> decide

theorem send_error {d : Descriptor} {bytes : List UInt8} {h : Host} {e : Errno}
    (he : (send d bytes h).1 = .error e) :
    e = .brokenPipe ∨ e = .notSocket ∨ e = .notConnected ∨ e = .badDescriptor := by
  unfold send at he
  repeat' split at he
  all_goals cases he <;> decide

theorem accept_error {d : Descriptor} {h : Host} {e : Errno} (he : (accept d h).1 = .error e) :
    e = .notSocket ∨ e = .timedOut ∨ e = .badDescriptor := by
  unfold accept at he
  repeat' split at he
  all_goals
    cases he
    decide

theorem recv_ok {d : Descriptor} {n : Nat} {h : Host} {bytes : List UInt8}
    (hr : (recv d n h).1 = .ok bytes) : bytes.length ≤ n := by
  unfold recv at hr
  split at hr
  · split at hr
    · cases hr
      exact List.length_take_le n _
    · split at hr
      · cases hr
      · cases hr
        exact Nat.zero_le n
  all_goals cases hr

theorem send_ok {d : Descriptor} {bytes : List UInt8} {h : Host} {n : Nat}
    (hn : (send d bytes h).1 = .ok n) : n = bytes.length := by
  unfold send at hn
  repeat' split at hn
  all_goals cases hn <;> rfl

instance : Kernel Host where
  now h := (h.clock, h)
  poll := poll
  recv := recv
  send := send
  queued := queued
  shutdown := shutdown
  release := release
  socket := socket
  reuseAddress := reuseAddress
  bind := bind
  listen := listen
  accept := accept
  localPort := localPort
  resolve := resolve
  connect := connect
  streamPair := streamPair
  interruptions _ := 0
  now_interruptions _ := Nat.le_refl 0
  poll_interruptions _ _ _ _ _ := Nat.le_refl 0
  poll_interrupted d t k r hr he := by
    obtain ⟨o, h⟩ := r
    have ho : o = .error .interrupted := he
    exact absurd (ho ▸ hr) (poll_error d t k _ h)
  recv_retried d n k e he h := by
    rcases h with rfl | rfl <;> simpa using recv_error he
  send_interrupted d bytes k he := by simpa using send_error he
  recv_bounded _ _ _ _ := recv_ok
  send_progress d bytes k n hn hb := send_ok hn ▸ List.length_pos_iff.mpr hb
  send_bounded _ _ _ _ hn := Nat.le_of_eq (send_ok hn)
  accept_retried d k e he h := by
    rcases h with rfl | rfl | rfl <;> simpa using accept_error he

end Host

end ModbusTcp
