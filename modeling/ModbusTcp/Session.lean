import ModbusTcp.Server
import ModbusTcp.Session.Command
import ModbusTcp.Session.Store
import ModbusTcp.Transport.Listener

/-!
Sessions: a sequence of steps on named connections and channels.

A connection lives as long as a name or a channel can reach it. Once nothing does, a socket releases
its descriptor, which its peer can see. A new connection under an old name takes over the name only,
and a new channel under an old name takes its place before the old one closes its connection.

**Rebinding.** An arrangement (`Hook`) binds a connection to a channel at the moment when a channel
has closed another one, in the middle of that close. The connection to bind and the channel are the
ones that have the given names at that moment. An arrangement is used once; so closing, which may
bind, which may close, comes to an end when none is left.
-/

set_option autoImplicit false

namespace ModbusTcp

/-- What is to happen when a channel has closed a connection. -/
structure Session.Hook where
  /-- The connection whose close is waited for. -/
  trigger : Session.Id
  /-- The name of the channel to bind. -/
  channel : String
  /-- The name of the connection to bind to it. -/
  replacement : Option String
  deriving DecidableEq, Repr

/-- The state of a session. -/
structure Session where
  store : Session.Store := {}
  names : List (String × Session.Id) := []
  channels : List (String × Channel Session.Id) := []
  hooks : List Session.Hook := []

namespace Session

/-! ## Names -/

def connection? (s : Session) (name : String) : Except Refusal Id :=
  match s.names.lookup name with
  | some id => .ok id
  | none => .error .noSuchConnection

/-- The connection of a name, or none where no name is given. -/
def optionalConnection? (s : Session) (name : Option String) : Except Refusal (Option Id) :=
  match name with
  | some name => (s.connection? name).map some
  | none => .ok none

def channel? (s : Session) (name : String) : Except Refusal (Channel Id) :=
  match s.channels.lookup name with
  | some c => .ok c
  | none => .error .noSuchChannel

def removeChannel (s : Session) (name : String) : Session :=
  { s with channels := s.channels.filter (·.1 ≠ name) }

def setChannel (s : Session) (name : String) (c : Channel Id) : Session :=
  { s.removeChannel name with channels := (name, c) :: (s.removeChannel name).channels }

def removeName (s : Session) (name : String) : Session :=
  { s with names := s.names.filter (·.1 ≠ name) }

/-- Adds a connection under a name. -/
def addLink (s : Session) (name : String) (chunk : Nat) (link : Link) : Session :=
  let (id, store) := s.store.add link chunk
  { s.removeName name with store, names := (name, id) :: (s.removeName name).names }

/-- Whether anything can reach a connection. -/
def reaches (s : Session) (id : Id) : Bool :=
  s.names.any (·.2 = id) || s.channels.any (·.2.connection = some id)

/-- Releases what nothing can reach. -/
def reclaim (s : Session) : Session := { s with store := s.store.reclaim s.reaches }

/-! ## Closing channels -/

/-- Lets `shutDown` close the connection of a channel while the channel has none. -/
def closeWith (shutDown : Id → Session → Session) (name : String) (s : Session) : Session :=
  match s.channels.lookup name with
  | none => s
  | some c =>
    match c.connection with
    | none => s
    | some id =>
      let s := shutDown id (s.setChannel name c.release)
      match s.channels.lookup name with
      | none => s
      | some c => s.setChannel name c.settle

/-- Binds a connection to a channel and lets `shutDown` close the one before. -/
def bindWith (shutDown : Id → Session → Session) (name : String) (id : Option Id) (s : Session) :
    Except BindFailure Unit × Session :=
  match Channel.usable id s.store with
  | .error e => (.error e, s)
  | .ok id =>
    let s := closeWith shutDown name s
    match s.channels.lookup name with
    | none => (.ok (), s)
    | some c => (.ok (), s.setChannel name (c.attach id))

/-- Closes a connection on behalf of a channel and carries out the arrangement for it, if there is
one, and so on, for at most so many arrangements. -/
def shutDown : Nat → Id → Session → Session
  | fuel, id, s =>
    let s := { s with store := Channel.shutDown id s.store }
    match s.hooks.find? (·.trigger = id) with
    | none => s
    | some hook =>
      let s := { s with hooks := s.hooks.erase hook }
      match fuel with
      | 0 => s
      | fuel + 1 =>
        let replacement := hook.replacement.bind fun name => s.names.lookup name
        (bindWith (shutDown fuel) hook.channel replacement s).2

/-- Closes a connection on behalf of a channel, with all arrangements there are. -/
def shutDownAll (id : Id) (s : Session) : Session := shutDown s.hooks.length id s

def closeChannel (name : String) (s : Session) : Session := closeWith shutDownAll name s

def bindChannel (name : String) (id : Option Id) (s : Session) :
    Except BindFailure Unit × Session :=
  bindWith shutDownAll name id s

/-- Takes a channel out of the session and closes its connection. -/
def destroyChannel (name : String) (s : Session) : Session :=
  match s.channels.lookup name with
  | none => s
  | some c =>
    let s := s.removeChannel name
    match c.connection with
    | none => s
    | some id => shutDownAll id s

/-- Puts a new channel under a name. The one that had the name closes its connection when the new
one is in its place. -/
def replaceChannel (name : String) (c : Channel Id) (s : Session) : Session :=
  match (s.channels.lookup name).bind (·.connection) with
  | none => s.setChannel name c
  | some id => shutDownAll id (s.setChannel name c)

/-! ## Steps -/

/-- The current time of the host. -/
def now (s : Session) : Instant := s.store.host.clock

/-- The status of an operation that may have failed for a cause. -/
def statusOf {ε : Type} (status : ε → Status) : Except ε Unit → Status
  | .ok () => .success
  | .error e => status e

/-- Does an operation of a connection that gives an io result. -/
def transfer (s : Session) (conn : String) (operation : Id → Store → IoResult × Store) :
    Except Refusal (Reply × Session) := do
  let id ← s.connection? conn
  let (result, store) := operation id s.store
  return (.io result, { s with store })

/-- Changes a connection in memory from outside. -/
def changeMemory (s : Session) (conn : String) (change : Memory → Memory) :
    Except Refusal (Reply × Session) := do
  let id ← s.connection? conn
  match s.store.link? id with
  | some (.memory m) =>
    let store := s.store.setLink id (.memory (change m))
    return (.nothing, { s with store })
  | _ => throw .notInMemory

/-- A read of a connection by itself. -/
def readLink (s : Session) (conn : String) (count : Nat) (timeout : Option Int64) :
    Except Refusal (Reply × Session) := do
  let id ← s.connection? conn
  match s.store.readSome id count (timeout.map s.now.after) with
  | none => return (.waits, s)
  | some (d, store) =>
    let region := overlay (List.replicate count 0) d.data
    return (.read d.result (region.take d.result.bytes), { s with store })

/-- The reported state of a connection. -/
def stateOf (s : Session) (id : Id) : Reply :=
  let details :=
    match s.store.link? id with
    | some (.memory m) => LinkState.memory m.written m.flushes m.closeCalls
    | some (.script p) => .script p.written p.flushCount p.closeOrder p.reads.length
    | _ => .socket
  .state (s.store.isOpen id) (s.store.available id) details

/-- Two local sockets connected with each other. -/
def socketPair (s : Session) (first second : String) (chunk : Nat) : Reply × Session :=
  match Socket.pair s.store.host with
  | (.error status, host) => (.status status, { s with store := { s.store with host } })
  | (.ok (a, b), host) =>
    let s := { s with store := { s.store with host } }
    (.status .success, (s.addLink first chunk (.socket a)).addLink second chunk (.socket b))

/-- Listens, connects to the listening socket and accepts; the status of the first failure. -/
def tcpPair (s : Session) (address first second : String) (timeout : Option Int64) (chunk : Nat) :
    Reply × Session :=
  let keep (host : Host) : Session := { s with store := { s.store with host } }
  match Listener.listen address 0 s.store.host with
  | (.error e, host) => (.status e.status, keep host)
  | (.ok listener, host) =>
    match Socket.connect "127.0.0.1" (listener.port host) host with
    | (.error e, host) => (.status e.status, keep (Host.release listener.descriptor host))
    | (.ok client, host) =>
      match listener.accept (timeout.map s.now.after) host with
      | none => (.waits, s)
      | some (.error e, host) => (.status e.status, keep (Host.release listener.descriptor host))
      | some (.ok accepted, host) =>
        let s := keep (Host.release listener.descriptor host)
        (.status .success,
          (s.addLink first chunk (.socket client)).addLink second chunk (.socket accepted))

/-- A channel bound to a connection. An earlier one of that name goes, unless binding fails. -/
def establish (s : Session) (name : String) (id : Option Id) (timeout : Int64)
    (table : VariantTable) : Reply × Session :=
  match Channel.establish table timeout id s.store with
  | (.error e, store) => (.status e.status, { s with store })
  | (.ok c, store) => (.status .success, replaceChannel name c { s with store })

/-- A message of the given role from a channel. -/
def receive (s : Session) (name : String) (role : Role) (c : Channel Id) : Reply × Session :=
  match c.read role s.now s.store with
  | none => (.waits, s)
  | some (outcome, c, store) =>
    let s := { s with store }.setChannel name c
    match outcome with
    | .error e => (.message role e.status none, s)
    | .ok m => (.message role .success (some m), s)

/-- Serves a channel and closes it. -/
def serve (s : Session) (name : String) (c : Channel Id) : Reply × Session :=
  match Server.answerAll (fun _ => s.now) c s.store with
  | none => (.waits, s)
  | some (served, c, store) =>
    let s := closeChannel name ({ s with store }.setChannel name c)
    let isOpen :=
      match s.channels.lookup name with
      | some c => c.isOpen s.store
      | none => false
    (.served served.toNat isOpen, s)

/-- Carries out a step. -/
def perform (command : Command) (s : Session) : Except Refusal (Reply × Session) := do
  match command with
  | .memory conn chunk data => return (.nothing, s.addLink conn chunk (.memory { unread := data }))
  | .script conn chunk script => return (.nothing, s.addLink conn chunk (.script script))
  | .badSocket conn chunk => return (.nothing, s.addLink conn chunk (.socket { descriptor := -1 }))
  | .notSocket conn chunk =>
    let (descriptor, host) := s.store.host.openFile .plain
    let s := { s with store := { s.store with host } }
    return (.nothing, s.addLink conn chunk (.socket { descriptor }))
  | .socketPair first second chunk => return s.socketPair first second chunk
  | .tcpPair address first second timeout chunk =>
    return s.tcpPair address first second timeout chunk
  | .drop conn =>
    let _ ← s.connection? conn
    return (.nothing, s.removeName conn)
  | .append conn data => s.changeMemory conn (·.append data)
  | .endInput conn => s.changeMemory conn (·.endInput)
  | .failReads conn status error => s.changeMemory conn (·.failReads status error)
  | .failWrites conn error => s.changeMemory conn (·.failWrites error)
  | .failCloses conn error => s.changeMemory conn (·.failCloses error)
  | .read conn count timeout => s.readLink conn count timeout
  | .write conn data => s.transfer conn (Store.write · data)
  | .flush conn => s.transfer conn Store.flush
  | .closeInput conn => s.transfer conn Store.closeInput
  | .closeOutput conn => s.transfer conn Store.closeOutput
  | .close conn => s.transfer conn Store.close
  | .state conn =>
    let id ← s.connection? conn
    return (s.stateOf id, s)
  | .onClose conn channel replacement =>
    let trigger ← s.connection? conn
    let others := s.hooks.filter (·.trigger ≠ trigger)
    return (.nothing, { s with hooks := { trigger, channel, replacement } :: others })
  | .channel name timeout table =>
    return (.nothing, replaceChannel name { table, receiveTimeout := timeout } s)
  | .establish name conn timeout table =>
    let id ← s.optionalConnection? conn
    return s.establish name id timeout table
  | .bind name conn =>
    let _ ← s.channel? name
    let id ← s.optionalConnection? conn
    let (outcome, s) := bindChannel name id s
    return (.status (statusOf BindFailure.status outcome), s)
  | .closeChannel name =>
    let _ ← s.channel? name
    return (.nothing, closeChannel name s)
  | .destroy name =>
    let _ ← s.channel? name
    return (.nothing, destroyChannel name s)
  | .isOpen name =>
    let c ← s.channel? name
    return (.flag (c.isOpen s.store), s)
  | .getTimeout name =>
    let c ← s.channel? name
    return (.milliseconds c.receiveTimeout, s)
  | .setTimeout name timeout =>
    let c ← s.channel? name
    return (.nothing, s.setChannel name (c.setReceiveTimeout timeout))
  | .send name _ message =>
    let c ← s.channel? name
    let (outcome, store) := c.write message s.store
    return (.status (statusOf WriteFailure.status outcome), { s with store })
  | .receive name role =>
    let c ← s.channel? name
    return s.receive name role c
  | .serve name =>
    let c ← s.channel? name
    return s.serve name c

/-- Carries out a step and releases what nothing can reach afterwards. -/
def step (command : Command) (s : Session) : Except Refusal (Reply × Session) := do
  let (reply, s) ← s.perform command
  return (reply, s.reclaim)

/-- Carries out steps one after the other. -/
def run : List Command → Session → Except Refusal (List Reply)
  | [], _ => .ok []
  | command :: commands, s => do
    let (reply, s) ← s.step command
    let replies ← s.run commands
    return reply :: replies

end Session

end ModbusTcp
