import ModbusTcp.Channel.Failure
import ModbusTcp.Message.Decode
import ModbusTcp.Message.Table

/-!
A channel carries messages over one connection at a time.

**Binding.** A channel is bound to a connection or to none, and holds a receive buffer exactly
while it is bound. Binding another connection closes the one before; a connection that cannot be
used is refused and changes nothing. Closing runs in three steps, so that whoever closes the
connection may bind another one in between: the channel lets go of its connection, the connection
is closed, and the buffer goes unless a connection is bound again.

**Reading** takes the bytes up to the length field, then as many as it announces, both under one
deadline that counts from the start of the read, and hands the frame to the variant that the table
has for its function code. **Writing** hands the whole frame over and flushes.
-/

set_option autoImplicit false

namespace ModbusTcp

/-- A channel over connections named by `ρ` (`FrameChannel`). -/
structure Channel (ρ : Type) where
  /-- Decides which variant reads a frame. -/
  table : VariantTable := .standard
  /-- How long a read may take, in milliseconds; zero or less for any time. -/
  receiveTimeout : Int64 := 0
  connection : Option ρ := none
  buffer : Option FrameBuffer := none

namespace Channel

variable {ρ σ : Type}

/-! ## Binding and closing -/

/-- The channel without its connection. The buffer stays. -/
def release (c : Channel ρ) : Channel ρ := { c with connection := none }

/-- The channel without its buffer, unless a connection is bound. -/
def settle (c : Channel ρ) : Channel ρ :=
  if c.connection.isNone then { c with buffer := none } else c

/-- The channel bound to a connection, with a fresh buffer. -/
def attach (c : Channel ρ) (r : ρ) : Channel ρ :=
  { c with connection := some r, buffer := some (.ofCapacity Frame.maximumLength) }

variable [Transport ρ σ]

/-- Closes the input, the output and the connection itself. Each is tried, whatever the others
give. -/
def shutDown (r : ρ) (s : σ) : σ :=
  (Transport.close r (Transport.closeOutput r (Transport.closeInput r s).2).2).2

/-- Closes the connection, if one is bound (`Close`). -/
def close (c : Channel ρ) (s : σ) : Channel ρ × σ :=
  match c.connection with
  | none => (c, s)
  | some r =>
    let c := c.release
    let s := shutDown r s
    (c.settle, s)

/-- Whether a connection may be bound. -/
def usable (r : Option ρ) (s : σ) : Except BindFailure ρ :=
  match r with
  | none => .error .noConnection
  | some r => if Transport.isOpen r s then .ok r else .error .notOpen

/-- Binds a connection and closes the one before (`SetConnection`). -/
def bind (c : Channel ρ) (r : Option ρ) (s : σ) : Except BindFailure Unit × Channel ρ × σ :=
  match usable r s with
  | .error e => (.error e, c, s)
  | .ok r =>
    let (c, s) := c.close s
    (.ok (), c.attach r, s)

/-- A new channel, bound to a connection (`Open`). One that cannot be bound is destroyed again. -/
def establish (table : VariantTable) (receiveTimeout : Int64) (r : Option ρ) (s : σ) :
    Except BindFailure (Channel ρ) × σ :=
  match ({ table, receiveTimeout } : Channel ρ).bind r s with
  | (.error e, c, s) => (.error e, (c.close s).2)
  | (.ok (), c, s) => (.ok c, s)

/-- Whether a connection is bound and can be used (`IsOpen`). -/
def isOpen (c : Channel ρ) (s : σ) : Bool :=
  match c.connection with
  | none => false
  | some r => Transport.isOpen r s

/-- The channel with another timeout for the reads to come (`SetReceiveTimeout`). -/
def setReceiveTimeout (c : Channel ρ) (milliseconds : Int64) : Channel ρ :=
  { c with receiveTimeout := milliseconds }

/-! ## Writing -/

/-- Writes a message and flushes (`Write`). After a failure it is open how much was sent. -/
def write {role : Role} (c : Channel ρ) (m : Message role) (s : σ) :
    Except WriteFailure Unit × σ :=
  match c.connection with
  | none => (.error .unbound, s)
  | some r =>
    match m.send r s with
    | (.error cause, s) => (.error (.notSent cause), s)
    | (.ok (), s) =>
      let (result, s) := Transport.flush r s
      if result.status ≠ .ok then (.error (.notFlushed result), s) else (.ok (), s)

/-! ## Reading -/

/-- The length field in the bytes at the head of a frame. -/
def lengthField (head : List UInt8) : UInt16 :=
  match head.drop Frame.lengthOffset with
  | high :: low :: _ => Word.ofBytes high low
  | _ => 0

/-- Reads the body of a frame, all that the length field announces, behind the head that is already
in the buffer. On success the whole frame is valid and the cursor stands before it. -/
def readBody (r : ρ) (deadline : Deadline) (length : UInt16) (b : FrameBuffer) (s : σ) :
    Option (Except ReadFailure Unit × FrameBuffer × σ) :=
  match Transport.fill r deadline (b.region Frame.prefixLength length.toNat) s with
  | none => none
  | some (result, body, s) =>
    let b := b.store Frame.prefixLength body
    if result.status ≠ .ok then some (.error (.bodyBroken result length), b, s)
    else
      match b.reset (Frame.prefixLength + length.toNat) with
      | (false, b) => some (.error .doesNotFit, b, s)
      | (true, b) =>
        if length < 2 then some (.error (.noFunctionCode length), b, s)
        else some (.ok (), b, s)

/-- Reads one frame into the buffer (`ReadFrame`). -/
def readFrame (r : ρ) (deadline : Deadline) (b : FrameBuffer) (s : σ) :
    Option (Except ReadFailure Unit × FrameBuffer × σ) :=
  match Transport.fill r deadline (b.region 0 Frame.prefixLength) s with
  | none => none
  | some (result, head, s) =>
    let b := b.store 0 head
    if result.status ≠ .ok then some (.error (.headerBroken result), b, s)
    else
      let length := lengthField head
      let limit := b.capacity - Frame.prefixLength
      if limit < length.toNat then some (.error (.lengthTooLarge length limit), b, s)
      else readBody r deadline length b s

/-- Decodes the frame in the buffer with the variant for its function code. -/
def decodeFrame (table : VariantTable) (role : Role) (b : FrameBuffer) :
    Except ReadFailure (Message role) × FrameBuffer :=
  match b.peek? Frame.codeOffset with
  | none => (.error (.malformed .fieldAbsent), b)
  | some code =>
    let d := (table.create role code).decode b
    match d.outcome with
    | .error cause => (.error (.malformed cause), d.buffer)
    | .ok () => (.ok d.value, d.buffer)

/-- What a read has of a channel once it may use the buffer: the connection and the buffer that it
finds then, and its deadline. -/
structure Admission (ρ : Type) where
  connection : ρ
  buffer : FrameBuffer
  deadline : Deadline
  deriving DecidableEq, Repr

/-- What a read finds when it gets the buffer. Its deadline counts from `start`, where it began,
with the timeout that the channel has by then. Nothing if no connection is bound. -/
def admission (c : Channel ρ) (start : Instant) : Option (Admission ρ) :=
  match c.connection, c.buffer with
  | some r, some b => some ⟨r, b, .starting c.receiveTimeout start⟩
  | _, _ => none

/-- Reads the next frame as a message of the given role. Gives the buffer behind it too. No result
if the read waits for ever. -/
def Admission.receive (table : VariantTable) (role : Role) (a : Admission ρ) (s : σ) :
    Option (Except ReadFailure (Message role) × FrameBuffer × σ) :=
  match readFrame a.connection a.deadline a.buffer s with
  | none => none
  | some (.error e, b, s) => some (.error e, b, s)
  | some (.ok (), b, s) =>
    let (outcome, b) := decodeFrame table role b
    some (outcome, b, s)

/-- Reads the next frame as a message of the given role (`ReadRequest`, `ReadResponse`), where
nothing else is done with the channel between the start of the read and its end. -/
def read (role : Role) (start : Instant) (c : Channel ρ) (s : σ) :
    Option (Except ReadFailure (Message role) × Channel ρ × σ) :=
  match c.admission start with
  | none => some (.error .unbound, c, s)
  | some a =>
    match a.receive c.table role s with
    | none => none
    | some (outcome, b, s) => some (outcome, { c with buffer := some b }, s)

/-! ## What a read makes of its phases -/

section

variable {c : Channel ρ} {r : ρ}

theorem admission_of_bound {b : FrameBuffer} (hr : c.connection = some r) (hb : c.buffer = some b)
    (start : Instant) : c.admission start = some ⟨r, b, .starting c.receiveTimeout start⟩ := by
  rw [admission, hr, hb]

theorem admission_of_unbound (hr : c.connection = none) (start : Instant) :
    c.admission start = none := by
  rw [admission, hr]

end

/-- A read of a channel as one equation. -/
theorem read_eq (role : Role) (start : Instant) (c : Channel ρ) (s : σ) :
    c.read role start s =
      match c.connection, c.buffer with
      | some r, some b =>
        match readFrame r (.starting c.receiveTimeout start) b s with
        | none => none
        | some (.error e, b, s) => some (.error e, { c with buffer := some b }, s)
        | some (.ok (), b, s) =>
          let (outcome, b) := decodeFrame c.table role b
          some (outcome, { c with buffer := some b }, s)
      | _, _ => some (.error .unbound, c, s) := by
  unfold read admission
  rcases c.connection with _ | r
  · rfl
  · rcases c.buffer with _ | b
    · rfl
    · simp only [Admission.receive]
      rcases readFrame r (.starting c.receiveTimeout start) b s with _ | ⟨_ | _, b', s'⟩
      · rfl
      · rfl
      · rfl

end Channel

end ModbusTcp
