import ModbusTcp.Region
import ModbusTcp.Word

/-!
The receive buffer: a fixed number of bytes, of which a first part is valid and is read through a
cursor.

A transport fills regions of it, `reset` declares how much is valid and rewinds the cursor, and
the readers take bytes and words from the cursor on. Nothing ever clears a byte. Every operation
that does not fit is refused and changes nothing. Each guard compares before it subtracts, so
unsigned 64-bit arithmetic would give the same answers for all arguments.
-/

set_option autoImplicit false

namespace ModbusTcp

/-- A receive buffer. The first `size` bytes of `data` are valid; the next one to read is at
`position`. -/
structure FrameBuffer where
  data : List UInt8
  size : Nat := 0
  position : Nat := 0
  deriving DecidableEq, Repr

namespace FrameBuffer

/-- A buffer of zeros with nothing valid in it. -/
def ofCapacity (capacity : Nat) : FrameBuffer := ⟨List.replicate capacity 0, 0, 0⟩

def capacity (b : FrameBuffer) : Nat := b.data.length

/-- What every operation keeps: the cursor stands within the valid bytes, and these within the
capacity. -/
def WellFormed (b : FrameBuffer) : Prop := b.position ≤ b.size ∧ b.size ≤ b.capacity

/-- The number of valid bytes from the cursor on (`Remaining`). -/
def remaining (b : FrameBuffer) : Nat := b.size - b.position

/-- The valid bytes (`GetValid`). -/
def valid (b : FrameBuffer) : List UInt8 := b.data.take b.size

/-- The valid bytes from the cursor on. -/
def unread (b : FrameBuffer) : List UInt8 := (b.data.take b.size).drop b.position

/-! ## Filling -/

/-- Whether `count` bytes at `offset` lie within the capacity. -/
def fits (b : FrameBuffer) (offset count : Nat) : Bool :=
  offset ≤ b.capacity && count ≤ b.capacity - offset

/-- The region of `count` bytes at `offset` (`GetWritable`); empty if it does not fit. -/
def region (b : FrameBuffer) (offset count : Nat) : List UInt8 :=
  if b.fits offset count then (b.data.drop offset).take count else []

/-- The buffer with `bytes` stored at `offset`. -/
def store (b : FrameBuffer) (offset : Nat) (bytes : List UInt8) : FrameBuffer :=
  { b with data := b.data.take offset ++ overlay (b.data.drop offset) bytes }

/-- Stores as much of `bytes` as the region of `count` bytes at `offset` takes. The number is the
size of the region. -/
def write (b : FrameBuffer) (offset count : Nat) (bytes : List UInt8) : Nat × FrameBuffer :=
  let room := (b.region offset count).length
  (room, b.store offset (bytes.take room))

/-- Declares the first `length` bytes valid and rewinds the cursor (`Reset`). -/
def reset (b : FrameBuffer) (length : Nat) : Bool × FrameBuffer :=
  if b.capacity < length then (false, b) else (true, { b with size := length, position := 0 })

/-! ## Reading -/

/-- The buffer with the cursor `count` bytes further on. -/
def advance (b : FrameBuffer) (count : Nat) : FrameBuffer :=
  { b with position := b.position + count }

/-- Passes over `count` bytes (`Skip`). -/
def skip (b : FrameBuffer) (count : Nat) : Bool × FrameBuffer :=
  if b.remaining < count then (false, b) else (true, b.advance count)

/-- The valid byte at `offset`, wherever the cursor stands (`PeekU8`). -/
def peek? (b : FrameBuffer) (offset : Nat) : Option UInt8 :=
  if offset < b.size then b.data[offset]? else none

/-- Takes a byte (`ReadU8`). -/
def readByte? (b : FrameBuffer) : Option UInt8 × FrameBuffer :=
  if b.remaining < 1 then (none, b)
  else
    match b.data[b.position]? with
    | some byte => (some byte, b.advance 1)
    | none => (none, b)

/-- Takes a word, its high byte first (`ReadU16`). -/
def readWord? (b : FrameBuffer) : Option UInt16 × FrameBuffer :=
  if b.remaining < 2 then (none, b)
  else
    match b.data[b.position]?, b.data[b.position + 1]? with
    | some h, some l => (some (Word.ofBytes h l), b.advance 2)
    | _, _ => (none, b)

/-- Takes `count` bytes (`ReadBytes`). -/
def readBytes? (b : FrameBuffer) (count : Nat) : Option (List UInt8) × FrameBuffer :=
  if b.remaining < count then (none, b)
  else (some ((b.data.drop b.position).take count), b.advance count)

/-- Takes all bytes that are left (`ReadRemaining`). -/
def readRemaining (b : FrameBuffer) : List UInt8 × FrameBuffer :=
  (b.unread, { b with position := b.size })

end FrameBuffer

end ModbusTcp
