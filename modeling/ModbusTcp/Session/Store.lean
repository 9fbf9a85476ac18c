import ModbusTcp.Transport.Host
import ModbusTcp.Transport.Memory
import ModbusTcp.Transport.Script
import ModbusTcp.Transport.Socket

/-!
A store of connections of all kinds, side by side on one host. Each is named by its number, and each
may be limited to short reads.
-/

set_option autoImplicit false

namespace ModbusTcp.Session

/-- The number of a connection in a store. -/
abbrev Id := Nat

/-- A connection of one of the kinds. -/
inductive Link where
  | memory (m : Memory)
  | script (s : Script)
  | socket (s : Socket)
  deriving DecidableEq, Repr

/-- A connection in a store. -/
structure Entry where
  link : Link
  /-- The most bytes that one read gives; 0 sets no limit. -/
  chunk : Nat := 0
  /-- The connection is gone, and its descriptor is released. -/
  released : Bool := false
  deriving DecidableEq, Repr

/-- The connections and the host they live on. -/
structure Store where
  host : Host := {}
  entries : Array Entry := #[]
  deriving DecidableEq, Repr

namespace Store

/-- Adds a connection. -/
def add (st : Store) (link : Link) (chunk : Nat) : Id × Store :=
  (st.entries.size, { st with entries := st.entries.push { link, chunk } })

def link? (st : Store) (id : Id) : Option Link := st.entries[id]?.map (·.link)

/-- The store with another state of a connection. -/
def setLink (st : Store) (id : Id) (link : Link) : Store :=
  { st with entries := st.entries.modify id fun e => { e with link } }

/-- The room that a read has under the limit of the connection. -/
def room (st : Store) (id : Id) (count : Nat) : Nat :=
  match st.entries[id]? with
  | some e => if e.chunk = 0 then count else min e.chunk count
  | none => count

/-- Does the same operation on a connection of any kind; it fails for a number that names none. -/
def operate (id : Id) (memory : Memory → IoResult × Memory) (script : Script → IoResult × Script)
    (socket : Socket → Host → IoResult × Socket × Host) (st : Store) : IoResult × Store :=
  match st.link? id with
  | some (.memory m) =>
    let (result, m) := memory m
    (result, st.setLink id (.memory m))
  | some (.script s) =>
    let (result, s) := script s
    (result, st.setLink id (.script s))
  | some (.socket s) =>
    let (result, s, host) := socket s st.host
    (result, { st with host }.setLink id (.socket s))
  | none => (.failed .badDescriptor, st)

def readSome (id : Id) (count : Nat) (deadline : Deadline) (st : Store) :
    Option (Delivery × Store) :=
  let room := st.room id count
  match st.link? id with
  | some (.memory m) =>
    (m.readSome room deadline).map fun (d, m) => (d, st.setLink id (.memory m))
  | some (.script s) =>
    let (d, s) := s.readSome room
    some (d, st.setLink id (.script s))
  | some (.socket s) =>
    (s.readSome room deadline st.host).map fun (d, host) => (d, { st with host })
  | none => some (.ofResult .ended, st)

def write (id : Id) (data : List UInt8) : Store → IoResult × Store :=
  operate id (Memory.write data) (Script.write data) fun s h =>
    let (result, s) := s.write data
    (result, s, h)

def flush (id : Id) : Store → IoResult × Store := operate id Memory.flush Script.flush Socket.flush

def isOpen (id : Id) (st : Store) : Bool :=
  match st.link? id with
  | some (.memory m) => m.isOpen
  | some (.script s) => s.isOpen
  | some (.socket s) => s.isOpen
  | none => false

def closeInput (id : Id) : Store → IoResult × Store :=
  operate id Memory.closeInput Script.closeInput Socket.closeInput

def closeOutput (id : Id) : Store → IoResult × Store :=
  operate id Memory.closeOutput Script.closeOutput Socket.closeOutput

def close (id : Id) : Store → IoResult × Store := operate id Memory.close Script.close Socket.close

/-- The bytes that can be read at once. -/
def available (id : Id) (st : Store) : Nat :=
  match st.link? id with
  | some (.memory m) => m.unread.length
  | some (.script s) => s.available
  | some (.socket s) => s.available st.host
  | none => 0

def backlog (id : Id) (st : Store) : Nat :=
  match st.link? id with
  | some (.memory m) => Transport.backlog () m
  | some (.script s) => Transport.backlog () s
  | some (.socket s) => s.available st.host
  | none => 0

instance : Transport Id Store where
  readSome := readSome
  write := write
  flush := flush
  isOpen := isOpen
  closeInput := closeInput
  closeOutput := closeOutput
  close := close
  backlog := backlog

/-- Releases the descriptor of a connection, if it is a socket that still has one. -/
def release (id : Id) (st : Store) : Store :=
  match st.entries[id]? with
  | some ⟨.socket s, chunk, false⟩ =>
    { host := Host.release s.descriptor st.host
      entries := st.entries.setIfInBounds id ⟨.socket s, chunk, true⟩ }
  | _ => st

/-- Releases the descriptor of every socket that is not in use any more. -/
def reclaim (inUse : Id → Bool) (st : Store) : Store :=
  (List.range st.entries.size).foldl (fun st id => if inUse id then st else st.release id) st

end Store

end ModbusTcp.Session
