import ModbusTcp.Transport

/-!
A connection in memory: a queue of bytes to read, and a queue of written bytes that a flush moves to
what has been sent. Failures of reads, writes and closes can be set from outside.

Bytes that are there are always delivered first, whatever the deadline; a set failure and the end of
the input only show when none are left. Closing the input hides them.
-/

set_option autoImplicit false

namespace ModbusTcp

/-- A connection in memory (`MemoryConnection`). -/
structure Memory where
  /-- Bytes that arrived and were not read. -/
  unread : List UInt8 := []
  /-- Bytes that were written and not flushed. -/
  pending : List UInt8 := []
  /-- Bytes that were flushed. -/
  written : List UInt8 := []
  /-- What reads report once the unread bytes are consumed. -/
  readFailure : Option IoResult := none
  writeFailure : Option Errno := none
  closeFailure : Option Errno := none
  flushes : Nat := 0
  closeCalls : Nat := 0
  inputEnded : Bool := false
  inputClosed : Bool := false
  outputClosed : Bool := false
  closed : Bool := false
  deriving DecidableEq, Repr

namespace Memory

/-! ## What the other side does -/

/-- More bytes arrive (`AppendReadData`). -/
def append (m : Memory) (data : List UInt8) : Memory := { m with unread := m.unread ++ data }

/-- The peer closes its side (`EndInput`). -/
def endInput (m : Memory) : Memory := { m with inputEnded := true }

/-- Reads report a failure once the unread bytes are consumed (`FailReads`). -/
def failReads (m : Memory) (status : IoStatus) (error : Errno) : Memory :=
  { m with readFailure := some { status, error } }

def failWrites (m : Memory) (error : Errno) : Memory := { m with writeFailure := some error }

def failCloses (m : Memory) (error : Errno) : Memory := { m with closeFailure := some error }

/-! ## The connection -/

/-- Delivers up to `room` of the unread bytes (`ReadSome`). Without any, reports the failure that
was set or the end of the input; a read that would have to wait expires if it has a deadline. -/
def readSome (room : Nat) (deadline : Deadline) (m : Memory) : Option (Delivery × Memory) :=
  if m.inputClosed then some (.ofResult .ended, m)
  else if !m.unread.isEmpty then
    some (.ofBytes (m.unread.take room), { m with unread := m.unread.drop room })
  else
    match m.readFailure with
    | some failure => some (.ofResult failure, m)
    | none =>
      if m.inputEnded then some (.ofResult .ended, m)
      else
        match deadline with
        | some _ => some (.ofResult .expired, m)
        | none => none

def write (data : List UInt8) (m : Memory) : IoResult × Memory :=
  if m.outputClosed then (.failed .brokenPipe, m)
  else
    match m.writeFailure with
    | some error => (.failed error, m)
    | none => (.transferred data.length, { m with pending := m.pending ++ data })

/-- The pending bytes join the written ones. -/
def drain (m : Memory) : Memory := { m with written := m.written ++ m.pending, pending := [] }

def flush (m : Memory) : IoResult × Memory :=
  if m.outputClosed then (.failed .brokenPipe, m)
  else (.transferred m.pending.length, { m.drain with flushes := m.flushes + 1 })

def isOpen (m : Memory) : Bool := !m.closed

/-- A call of a close operation: it is counted, and does `effect` unless closes are set to fail. -/
def closing (effect : Memory → Memory) (m : Memory) : IoResult × Memory :=
  let m := { m with closeCalls := m.closeCalls + 1 }
  match m.closeFailure with
  | some error => (.failed error, m)
  | none => ({}, effect m)

def closeInput (m : Memory) : IoResult × Memory := m.closing fun m => { m with inputClosed := true }

/-- Sends the pending bytes, unless the output was closed before (`CloseOutput`). -/
def closeOutput (m : Memory) : IoResult × Memory :=
  m.closing fun m => if m.outputClosed then m else { m.drain with outputClosed := true }

/-- Closes both sides (`Close`); pending bytes stay unsent. -/
def close (m : Memory) : IoResult × Memory :=
  m.closing fun m => { m with closed := true, inputClosed := true, outputClosed := true }

instance : Transport Unit Memory where
  readSome _ := readSome
  write _ := write
  flush _ := flush
  isOpen _ := isOpen
  closeInput _ := closeInput
  closeOutput _ := closeOutput
  close _ := close
  backlog _ m := m.unread.length

end Memory

end ModbusTcp
