import ModbusTcp.Status

/-!
Why a frame cannot be decoded, as a cause, and the text that reports it.
-/

set_option autoImplicit false

namespace ModbusTcp

/-- The payloads that have one size. -/
inductive FixedForm where
  | span
  | writeCoil
  | writeRegister
  | wroteSingle
  | wroteMultiple
  | exception
  deriving DecidableEq, Repr

namespace FixedForm

/-- The size of the payload in bytes. -/
def size : FixedForm → Nat
  | .exception => 1
  | _ => 4

/-- What such a payload is called in a report. -/
def name : FixedForm → String
  | .span => "address span request"
  | .writeCoil => "write single coil"
  | .writeRegister => "write single register"
  | .wroteSingle => "write single response"
  | .wroteMultiple => "write multiple response"
  | .exception => "exception response"

/-- The size with its unit. -/
def sizeText : FixedForm → String
  | .exception => "1 payload byte"
  | _ => "4 payload bytes"

end FixedForm

/-- The payloads that end in a run of bytes. -/
inductive DataForm where
  | coils
  | bits
  | verbatim
  deriving DecidableEq, Repr

/-- What such a run is called in a report. -/
def DataForm.name : DataForm → String
  | .coils => "write multiple coils data"
  | .bits => "read bits data"
  | .verbatim => "payload"

/-- The cause of a failed decoding. -/
inductive DecodeError where
  /-- Fewer bytes than the fields before the payload take. -/
  | headerTruncated
  /-- The length field does not even count a function code. -/
  | lengthTooSmall (length : UInt16)
  /-- The length field announces more payload than there is. -/
  | payloadMissing (announced present : Nat)
  /-- A payload of one size has another. -/
  | wrongSize (form : FixedForm) (size : Nat)
  /-- The word for a coil is neither of the two that have a meaning. -/
  | coilValue (word : UInt16)
  /-- A list of coils without room for start, count and byte count. -/
  | coilsTooShort
  /-- The byte count, the number of coils and the size of the payload disagree. -/
  | coilsMismatch (byteCount : UInt8) (count : UInt16)
  /-- A list of registers without room for start, count and byte count. -/
  | registersTooShort
  /-- The byte count, the number of registers and the size of the payload disagree. -/
  | registersMismatch (byteCount : UInt8) (count : UInt16)
  /-- An answer with bits, but without a byte count. -/
  | bitsTooShort
  /-- The byte count of an answer with bits disagrees with the size of the payload. -/
  | bitsMismatch (byteCount : UInt8) (size : Nat)
  /-- An answer with registers, but without a byte count. -/
  | valuesTooShort
  /-- The byte count of an answer with registers is odd or disagrees with the payload. -/
  | valuesMismatch (byteCount : UInt8) (size : Nat)
  /-- A variant of the user's own refused its payload. -/
  | refused (text : String)
  /-- The variant took another number of bytes than the frame announces. -/
  | unexpectedBytes (code : UInt8) (announced taken : Nat)
  /-- A run of bytes was taken where fewer are left. The checks above leave no room for this. -/
  | dataTruncated (form : DataForm)
  /-- A byte or a word was taken where none is left. The checks above leave no room for this, and
  nothing looks for it. -/
  | fieldAbsent
  deriving DecidableEq, Repr

namespace DecodeError

/-- The text of a cause. The number of unexpected bytes is a difference of 64-bit words, which
wraps if too many were taken. -/
def message : DecodeError → String
  | .headerTruncated => "frame shorter than the MBAP header and function code"
  | .lengthTooSmall length => s!"length field {length} leaves no room for a function code"
  | .payloadMissing announced present =>
    s!"length field announces {announced} payload bytes, only {present} present"
  | .wrongSize form size => s!"{form.name} needs {form.sizeText}, got {size}"
  | .coilValue word => s!"coil value must be 0xFF00 or 0x0000, got {word}"
  | .coilsTooShort => "write multiple coils payload too short"
  | .coilsMismatch byteCount count =>
    s!"write multiple coils byte count {byteCount} does not match {count} coils"
  | .registersTooShort => "write multiple registers payload too short"
  | .registersMismatch byteCount count =>
    s!"write multiple registers byte count {byteCount} does not match {count} registers"
  | .bitsTooShort => "read bits response lacks a byte count"
  | .bitsMismatch byteCount size =>
    s!"read bits byte count {byteCount} does not match payload of {size} bytes"
  | .valuesTooShort => "read registers response lacks a byte count"
  | .valuesMismatch byteCount size =>
    s!"read registers byte count {byteCount} does not match payload of {size} bytes"
  | .refused text => text
  | .unexpectedBytes code announced taken =>
    let surplus := UInt64.ofNat announced - UInt64.ofNat taken
    s!"function code {code} payload has {surplus} unexpected bytes"
  | .dataTruncated form => form.name ++ " truncated"
  | .fieldAbsent => "field absent"

/-- A failed decoding as a status. -/
def status (e : DecodeError) : Status :=
  { outcome := .ioFailure, message := "malformed frame: " ++ e.message }

end DecodeError

end ModbusTcp
