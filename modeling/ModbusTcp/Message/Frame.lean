import ModbusTcp.Message
import ModbusTcp.Word

/-!
Messages as frames: transaction, protocol and length words, unit byte, function code byte, payload.

The length word counts what follows it. Counts and lengths are cut down to the field that holds
them; a frame that may be sent (`maximumLength`) is too short for that to matter.
-/

set_option autoImplicit false

namespace ModbusTcp

namespace Frame

/-- The longest frame that may travel. -/
def maximumLength : Nat := 260

/-- The bytes up to and with the length field. -/
def prefixLength : Nat := 6

/-- Where the length field stands. -/
def lengthOffset : Nat := 4

/-- Where the function code stands. -/
def codeOffset : Nat := 7

end Frame

/-- The word that switches a coil on. -/
def coilOn : UInt16 := 0xFF00

/-- The word that switches a coil off. -/
def coilOff : UInt16 := 0x0000

/-- The word for the state of a coil. -/
def coilWord (value : Bool) : UInt16 := if value then coilOn else coilOff

/-- The bytes of a payload (`EncodePayload`). -/
def Payload.bytes {role : Role} : Payload role → List UInt8
  | .readBits start quantity => Word.toBytes start ++ Word.toBytes quantity
  | .readRegisters start quantity => Word.toBytes start ++ Word.toBytes quantity
  | .writeCoil address value => Word.toBytes address ++ Word.toBytes (coilWord value)
  | .writeRegister address value => Word.toBytes address ++ Word.toBytes value
  | .writeCoils start values =>
    let packed := Bits.pack values
    Word.toBytes start ++ Word.toBytes (UInt16.ofNat values.length)
      ++ UInt8.ofNat packed.length :: packed
  | .writeRegisters start values =>
    Word.toBytes start ++ Word.toBytes (UInt16.ofNat values.length)
      ++ UInt8.ofNat (2 * values.length) :: values.flatMap Word.toBytes
  | .illegalFunction data => data
  | .bits packed => UInt8.ofNat packed.length :: packed
  | .registers values => UInt8.ofNat (2 * values.length) :: values.flatMap Word.toBytes
  | .wroteSingle address value => Word.toBytes address ++ Word.toBytes value
  | .wroteMultiple start quantity => Word.toBytes start ++ Word.toBytes quantity
  | .exception code => [code]
  | .unsupportedFunction data => data
  | .custom data _ => data

namespace Message

variable {role : Role}

/-- The number of bytes after the function code (`GetPayloadSize`). -/
def payloadSize (m : Message role) : Nat := m.payload.bytes.length

/-- The complete frame of a message, however long (`Encode`). -/
def frame (m : Message role) : List UInt8 :=
  let payload := m.payload.bytes
  Word.toBytes m.header.transaction ++ Word.toBytes m.header.protocol
    ++ Word.toBytes (UInt16.ofNat (2 + payload.length))
    ++ m.header.unit :: m.code :: payload

theorem length_frame (m : Message role) : m.frame.length = 8 + m.payloadSize := by
  simp only [frame, payloadSize, List.length_append, List.length_cons, Word.length_toBytes]
  omega

end Message

end ModbusTcp
