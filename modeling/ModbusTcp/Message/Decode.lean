import ModbusTcp.FrameBuffer
import ModbusTcp.Message.DecodeError
import ModbusTcp.Message.Frame

/-!
Reading a frame from a buffer into a message.

A message reads itself: the variant it has decides how the payload is taken apart, and what it held
before is replaced field by field. `Message.decode` takes the fields before the payload, checks the
length field against what is there, and hands the payload over. A failure leaves the fields that
were replaced before it, and the cursor where the failing field stands; so what a reading gives is
an outcome, a message and a buffer, all three in every case.
-/

set_option autoImplicit false

namespace ModbusTcp

/-- What a reading gives: how it ended, the thing read as far as it came, and the buffer behind. -/
structure Decoded (α : Type) where
  outcome : Except DecodeError Unit
  value : α
  buffer : FrameBuffer

namespace Decoded

variable {α : Type}

/-- A reading that came to its end. -/
def success (value : α) (b : FrameBuffer) : Decoded α := ⟨.ok (), value, b⟩

/-- A reading that failed with the fields taken so far. -/
def failure (error : DecodeError) (value : α) (b : FrameBuffer) : Decoded α :=
  ⟨.error error, value, b⟩

end Decoded

namespace FrameBuffer

variable {α : Type}

/-! ## Taking fields

Each takes a field and goes on with it. `soFar` is what the reading has come to if there is none. -/

def takeByte (b : FrameBuffer) (soFar : α) (next : UInt8 → FrameBuffer → Decoded α) : Decoded α :=
  match b.readByte? with
  | (some byte, b) => next byte b
  | (none, b) => .failure .fieldAbsent soFar b

def takeWord (b : FrameBuffer) (soFar : α) (next : UInt16 → FrameBuffer → Decoded α) : Decoded α :=
  match b.readWord? with
  | (some word, b) => next word b
  | (none, b) => .failure .fieldAbsent soFar b

def takeBytes (b : FrameBuffer) (count : Nat) (form : DataForm) (soFar : α)
    (next : List UInt8 → FrameBuffer → Decoded α) : Decoded α :=
  match b.readBytes? count with
  | (some bytes, b) => next bytes b
  | (none, b) => .failure (.dataTruncated form) soFar b

/-- Takes `count` words, the first one first. -/
def takeWords (b : FrameBuffer) : Nat → α → (List UInt16 → FrameBuffer → Decoded α) → Decoded α
  | 0, _, next => next [] b
  | count + 1, soFar, next =>
    b.takeWord soFar fun word b => b.takeWords count soFar fun words b => next (word :: words) b

end FrameBuffer

namespace Payload

/-! ## The payloads

`size` is the number of payload bytes that the frame announces. -/

/-- Two words make up the whole payload. `half` is the payload when only the first is known. -/
def decodeWords {role : Role} (form : FixedForm) (old : Payload role) (half : UInt16 → Payload role)
    (whole : UInt16 → UInt16 → Payload role) (size : Nat) (b : FrameBuffer) :
    Decoded (Payload role) :=
  if size ≠ form.size then .failure (.wrongSize form size) old b
  else
    b.takeWord old fun first b =>
      b.takeWord (half first) fun second b => .success (whole first second) b

/-- An address and one of the two words that stand for a coil. -/
def decodeCoil (address : UInt16) (value : Bool) (size : Nat) (b : FrameBuffer) :
    Decoded (Payload .request) :=
  if size ≠ FixedForm.writeCoil.size then
    .failure (.wrongSize .writeCoil size) (.writeCoil address value) b
  else
    b.takeWord (.writeCoil address value) fun address b =>
      b.takeWord (.writeCoil address value) fun word b =>
        if word ≠ coilOn ∧ word ≠ coilOff then
          .failure (.coilValue word) (.writeCoil address value) b
        else .success (.writeCoil address (word = coilOn)) b

/-- Start, count, byte count and packed coils. -/
def decodeCoils (start : UInt16) (values : List Bool) (size : Nat) (b : FrameBuffer) :
    Decoded (Payload .request) :=
  if size < 5 then .failure .coilsTooShort (.writeCoils start values) b
  else
    b.takeWord (.writeCoils start values) fun start b =>
      b.takeWord (.writeCoils start values) fun count b =>
        b.takeByte (.writeCoils start values) fun byteCount b =>
          if byteCount.toUInt64 ≠ Bits.packedSize count.toUInt64 ∨ size ≠ 5 + byteCount.toNat then
            .failure (.coilsMismatch byteCount count) (.writeCoils start values) b
          else
            b.takeBytes byteCount.toNat .coils (.writeCoils start values) fun packed b =>
              .success (.writeCoils start (Bits.unpack packed count.toNat)) b

/-- Start, count, byte count and registers. -/
def decodeRegisters (start : UInt16) (values : List UInt16) (size : Nat) (b : FrameBuffer) :
    Decoded (Payload .request) :=
  if size < 5 then .failure .registersTooShort (.writeRegisters start values) b
  else
    b.takeWord (.writeRegisters start values) fun start b =>
      b.takeWord (.writeRegisters start values) fun count b =>
        b.takeByte (.writeRegisters start values) fun byteCount b =>
          if byteCount.toNat ≠ 2 * count.toNat ∨ size ≠ 5 + byteCount.toNat then
            .failure (.registersMismatch byteCount count) (.writeRegisters start values) b
          else
            b.takeWords count.toNat (.writeRegisters start values) fun values b =>
              .success (.writeRegisters start values) b

/-- Room for so many bytes, made of those that were there. -/
def resize (old : List UInt8) (count : Nat) : List UInt8 :=
  overlay (List.replicate count 0) old

/-- All bytes that the frame announces, verbatim. -/
def decodeVerbatim {role : Role} (make : List UInt8 → Payload role) (old : List UInt8)
    (size : Nat) (b : FrameBuffer) : Decoded (Payload role) :=
  b.takeBytes size .verbatim (make (resize old size)) fun data b => .success (make data) b

/-- A byte count and packed bits. -/
def decodePacked (packed : List UInt8) (size : Nat) (b : FrameBuffer) :
    Decoded (Payload .response) :=
  if size < 1 then .failure .bitsTooShort (.bits packed) b
  else
    b.takeByte (.bits packed) fun byteCount b =>
      if size ≠ 1 + byteCount.toNat then
        .failure (.bitsMismatch byteCount size) (.bits packed) b
      else
        b.takeBytes byteCount.toNat .bits (.bits (resize packed byteCount.toNat)) fun packed b =>
          .success (.bits packed) b

/-- A byte count and registers. -/
def decodeValues (values : List UInt16) (size : Nat) (b : FrameBuffer) :
    Decoded (Payload .response) :=
  if size < 1 then .failure .valuesTooShort (.registers values) b
  else
    b.takeByte (.registers values) fun byteCount b =>
      if byteCount % 2 ≠ 0 ∨ size ≠ 1 + byteCount.toNat then
        .failure (.valuesMismatch byteCount size) (.registers values) b
      else
        b.takeWords (byteCount.toNat / 2) (.registers values) fun values b =>
          .success (.registers values) b

/-- One byte, the reason of a refusal. -/
def decodeException (code : UInt8) (size : Nat) (b : FrameBuffer) : Decoded (Payload .response) :=
  if size ≠ FixedForm.exception.size then
    .failure (.wrongSize .exception size) (.exception code) b
  else b.takeByte (.exception code) fun code b => .success (.exception code) b

/-- As many bytes as the reading asks for, or as there are; then its failure, if it has one. -/
def decodeCustom {role : Role} (data : List UInt8) (reading : CustomReading) (size : Nat)
    (b : FrameBuffer) : Decoded (Payload role) :=
  let count := min (reading.consume.getD size) b.remaining
  b.takeBytes count .verbatim (.custom (resize data count) reading) fun data b =>
    match reading.failure with
    | some text => .failure (.refused text) (.custom data reading) b
    | none => .success (.custom data reading) b

/-- Reads `size` bytes of payload into a payload of the same variant (`DecodePayload`). -/
def decode {role : Role} (old : Payload role) (size : Nat) (b : FrameBuffer) :
    Decoded (Payload role) :=
  match old with
  | .readBits start quantity =>
    decodeWords .span (.readBits start quantity) (.readBits · quantity) .readBits size b
  | .readRegisters start quantity =>
    decodeWords .span (.readRegisters start quantity) (.readRegisters · quantity) .readRegisters
      size b
  | .writeCoil address value => decodeCoil address value size b
  | .writeRegister address value =>
    decodeWords .writeRegister (.writeRegister address value) (.writeRegister · value)
      .writeRegister size b
  | .writeCoils start values => decodeCoils start values size b
  | .writeRegisters start values => decodeRegisters start values size b
  | .illegalFunction data => decodeVerbatim .illegalFunction data size b
  | .bits packed => decodePacked packed size b
  | .registers values => decodeValues values size b
  | .wroteSingle address value =>
    decodeWords .wroteSingle (.wroteSingle address value) (.wroteSingle · value) .wroteSingle size b
  | .wroteMultiple start quantity =>
    decodeWords .wroteMultiple (.wroteMultiple start quantity) (.wroteMultiple · quantity)
      .wroteMultiple size b
  | .exception code => decodeException code size b
  | .unsupportedFunction data =>
    decodeVerbatim .unsupportedFunction data size b
  | .custom data reading => decodeCustom data reading size b

end Payload

namespace Message

variable {role : Role}

/-! ## The frame -/

/-- Reads the payload behind the fields before it, which replace the message's own. The variant
has to take all the bytes that the frame announces. -/
def decodePayload (m : Message role) (header : Header) (code : UInt8) (size : Nat)
    (b : FrameBuffer) : Decoded (Message role) :=
  let d := m.payload.decode size b
  let message : Message role := { header, code, payload := d.value }
  match d.outcome with
  | .error e => .failure e message d.buffer
  | .ok () =>
    let taken := d.buffer.position - b.position
    if taken ≠ size then .failure (.unexpectedBytes code size taken) message d.buffer
    else .success message d.buffer

/-- Reads the frame at the cursor into the message (`DecodeFrom`). All five fields before the
payload are asked for, even after one is missing: a word may be missing where a byte is still there.
-/
def decode (m : Message role) (b : FrameBuffer) : Decoded (Message role) :=
  let (transaction?, b) := b.readWord?
  let (protocol?, b) := b.readWord?
  let (length?, b) := b.readWord?
  let (unit?, b) := b.readByte?
  let (code?, b) := b.readByte?
  match transaction?, protocol?, length?, unit?, code? with
  | some transaction, some protocol, some length, some unit, some code =>
    let size := length.toNat - 2
    if length < 2 then .failure (.lengthTooSmall length) m b
    else if b.remaining < size then .failure (.payloadMissing size b.remaining) m b
    else m.decodePayload { transaction, protocol, unit } code size b
  | _, _, _, _, _ => .failure .headerTruncated m b

end Message

end ModbusTcp
