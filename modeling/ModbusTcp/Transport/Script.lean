import ModbusTcp.Transport

/-!
A connection that plays back given results: one item per read, write, flush or close. Where the
items run out, reads report the end of the stream, and the other operations succeed.

Deadlines play no part, and closing does not stop the reads.
-/

set_option autoImplicit false

namespace ModbusTcp

/-- What a read of a script finds. -/
inductive ReadItem where
  /-- Bytes, delivered in as many reads as it takes. -/
  | data (bytes : List UInt8)
  /-- A result, reported once and without bytes. -/
  | result (result : IoResult)
  deriving DecidableEq, Repr

/-- A result to play back. Without a number of bytes it reports the usual one. -/
structure PlayedResult where
  status : IoStatus := .ok
  error : Errno := .success
  bytes : Option Nat := none
  deriving DecidableEq, Repr

/-- The result, with `usual` bytes if it has no number of its own. -/
def PlayedResult.result (p : PlayedResult) (usual : Nat) : IoResult :=
  { status := p.status, bytes := p.bytes.getD usual, error := p.error }

/-- The operations that close a connection. -/
inductive CloseCall where
  | input
  | output
  | connection
  deriving DecidableEq, Repr

/-- The letter under which a close operation is recorded. -/
def CloseCall.letter : CloseCall → Char
  | .input => 'i'
  | .output => 'o'
  | .connection => 'c'

/-- A connection that plays back results, and what was done to it. -/
structure Script where
  reads : List ReadItem := []
  writes : List PlayedResult := []
  flushes : List PlayedResult := []
  closes : List PlayedResult := []
  isOpen : Bool := true
  /-- The data of the writes that were reported as successful. -/
  written : List UInt8 := []
  flushCount : Nat := 0
  closeOrder : List CloseCall := []
  deriving DecidableEq, Repr

namespace Script

/-- The next item of a list of results, and the items after it. -/
def playNext (items : List PlayedResult) (usual : Nat) : IoResult × List PlayedResult :=
  match items with
  | [] => (.transferred usual, [])
  | item :: items => (item.result usual, items)

/-- Delivers from the current item. An item of data goes once its last byte is delivered. -/
def readSome (room : Nat) (s : Script) : Delivery × Script :=
  match s.reads with
  | [] => (.ofResult .ended, s)
  | .result result :: reads => (.ofResult result, { s with reads })
  | .data bytes :: reads =>
    if bytes.length ≤ room then (.ofBytes bytes, { s with reads })
    else (.ofBytes (bytes.take room), { s with reads := .data (bytes.drop room) :: reads })

/-- The bytes left in the current item. -/
def available (s : Script) : Nat :=
  match s.reads with
  | .data bytes :: _ => bytes.length
  | _ => 0

def write (data : List UInt8) (s : Script) : IoResult × Script :=
  let (result, writes) := playNext s.writes data.length
  (result, { s with writes, written := if result.isOk then s.written ++ data else s.written })

def flush (s : Script) : IoResult × Script :=
  let (result, flushes) := playNext s.flushes 0
  (result, { s with flushes, flushCount := s.flushCount + 1 })

/-- Records a call of a close operation and plays back its result. -/
def closing (call : CloseCall) (s : Script) : IoResult × Script :=
  let (result, closes) := playNext s.closes 0
  (result, { s with closes, closeOrder := s.closeOrder ++ [call] })

def closeInput (s : Script) : IoResult × Script := s.closing .input

def closeOutput (s : Script) : IoResult × Script := s.closing .output

/-- The connection is closed afterwards, whatever the result. -/
def close (s : Script) : IoResult × Script :=
  let (result, s) := s.closing .connection
  (result, { s with isOpen := false })

/-- The size of an item: its bytes, and one for itself. -/
def itemSize : ReadItem → Nat
  | .data bytes => bytes.length + 1
  | .result _ => 1

instance : Transport Unit Script where
  readSome _ room _ s := some (readSome room s)
  write _ := write
  flush _ := flush
  isOpen _ := isOpen
  closeInput _ := closeInput
  closeOutput _ := closeOutput
  close _ := close
  backlog _ s := s.reads.foldr (fun item rest => itemSize item + rest) 0

end Script

end ModbusTcp
