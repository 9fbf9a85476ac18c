import ModbusTcp.Message
import ModbusTcp.Message.Table
import ModbusTcp.Status
import ModbusTcp.Transport.Script

/-!
What can be asked of a session, and what it replies.
-/

set_option autoImplicit false

namespace ModbusTcp.Session

/-- Steps of a session. Connections and channels go by names; `none` for a connection stands for no
connection at all. Timeouts are in milliseconds, and `chunk` limits the reads of a new connection.
-/
inductive Command where
  /-- A connection in memory with bytes to read. -/
  | memory (conn : String) (chunk : Nat) (data : List UInt8)
  /-- A connection that plays back results. -/
  | script (conn : String) (chunk : Nat) (script : Script)
  /-- A socket without a descriptor. -/
  | badSocket (conn : String) (chunk : Nat)
  /-- A socket over a file that is none. -/
  | notSocket (conn : String) (chunk : Nat)
  /-- Two local sockets connected with each other. -/
  | socketPair (first second : String) (chunk : Nat)
  /-- A client of a listening socket and the accepted end. -/
  | tcpPair (address first second : String) (timeout : Option Int64) (chunk : Nat)
  /-- Forgets a name. -/
  | drop (conn : String)
  /-- More bytes arrive at a connection in memory. -/
  | append (conn : String) (data : List UInt8)
  /-- The peer of a connection in memory closes its side. -/
  | endInput (conn : String)
  | failReads (conn : String) (status : IoStatus) (error : Errno)
  | failWrites (conn : String) (error : Errno)
  | failCloses (conn : String) (error : Errno)
  /-- Reads at most so many bytes. -/
  | read (conn : String) (count : Nat) (timeout : Option Int64)
  | write (conn : String) (data : List UInt8)
  | flush (conn : String)
  | closeInput (conn : String)
  | closeOutput (conn : String)
  | close (conn : String)
  | state (conn : String)
  /-- Once a channel closes the connection, the one that then has the name `replacement` is bound to
  a channel. -/
  | onClose (conn channel : String) (replacement : Option String)
  /-- A channel without a connection. -/
  | channel (name : String) (timeout : Int64) (table : VariantTable)
  /-- A channel bound to a connection. -/
  | establish (name : String) (conn : Option String) (timeout : Int64) (table : VariantTable)
  | bind (channel : String) (conn : Option String)
  | closeChannel (channel : String)
  | destroy (channel : String)
  | isOpen (channel : String)
  | getTimeout (channel : String)
  | setTimeout (channel : String) (timeout : Int64)
  | send (channel : String) (role : Role) (message : Message role)
  | receive (channel : String) (role : Role)
  | serve (channel : String)

/-- The state of a connection as it is reported. -/
inductive LinkState where
  | memory (written : List UInt8) (flushes closeCalls : Nat)
  | script (written : List UInt8) (flushes : Nat) (closeOrder : List CloseCall) (readsLeft : Nat)
  | socket
  deriving DecidableEq, Repr

/-- What a step gives. -/
inductive Reply where
  | nothing
  | io (result : IoResult)
  /-- A read, with the bytes it gave. -/
  | read (result : IoResult) (data : List UInt8)
  | status (status : Status)
  | flag (value : Bool)
  | milliseconds (value : Int64)
  | message (role : Role) (status : Status) (message : Option (Message role))
  /-- The requests answered, and whether the channel is still open. -/
  | served (count : Nat) (isOpen : Bool)
  | state (isOpen : Bool) (available : Nat) (details : LinkState)
  /-- The step would wait for ever. -/
  | waits

/-- Why a session cannot be carried out. -/
inductive Refusal where
  | noSuchConnection
  | noSuchChannel
  | notInMemory
  deriving DecidableEq, Repr

def Refusal.message : Refusal → String
  | .noSuchConnection => "no such connection"
  | .noSuchChannel => "no such channel"
  | .notInMemory => "not a memory connection"

end ModbusTcp.Session
