import ModbusTcp.Bits
import ModbusTcp.FunctionCode

/-!
Messages: a header, the function code byte as it stands on the wire, and a payload of one of the
known variants. A request can only hold a payload of a request, an answer only one of a response.

The function code byte is independent of the variant. A table of variants decides which payload
stands for a code (`ModbusTcp.Message.Table`), and a decoded message takes the byte of its frame.
-/

set_option autoImplicit false

namespace ModbusTcp

/-- Who sends a message: the client asks, the server answers. -/
inductive Role where
  | request
  | response
  deriving DecidableEq, Repr

/-- The identifiers that a server copies from a request into its answer. -/
structure Header where
  transaction : UInt16 := 0
  protocol : UInt16 := 0
  unit : UInt8 := 0
  deriving DecidableEq, Repr

/-- How a variant of the user's own reads its payload: it takes `consume` bytes, or as many as the
frame announces, and then fails with the given text if there is one. -/
structure CustomReading where
  consume : Option Nat := none
  failure : Option String := none
  deriving DecidableEq, Repr

/-- What a message carries after the function code. There is a constructor for each class of
messages, such as `AddressSpanRequest` or `ExceptionResponse`, and one for those a user adds. -/
inductive Payload : Role → Type where
  /-- Read `quantity` bits from `start` on. -/
  | readBits (start quantity : UInt16) : Payload .request
  /-- Read `quantity` registers from `start` on. -/
  | readRegisters (start quantity : UInt16) : Payload .request
  /-- Set one coil. -/
  | writeCoil (address : UInt16) (value : Bool) : Payload .request
  /-- Set one register. -/
  | writeRegister (address value : UInt16) : Payload .request
  /-- Set the coils from `start` on. -/
  | writeCoils (start : UInt16) (values : List Bool) : Payload .request
  /-- Set the registers from `start` on. -/
  | writeRegisters (start : UInt16) (values : List UInt16) : Payload .request
  /-- A request with a function code that no variant stands for, its bytes kept verbatim. -/
  | illegalFunction (data : List UInt8) : Payload .request
  /-- The bits read, packed; the wire does not carry their number. -/
  | bits (packed : List UInt8) : Payload .response
  /-- The registers read. -/
  | registers (values : List UInt16) : Payload .response
  /-- The echo of a single write: the address and the raw word. -/
  | wroteSingle (address value : UInt16) : Payload .response
  /-- The confirmation of a multiple write. -/
  | wroteMultiple (start quantity : UInt16) : Payload .response
  /-- The reason why a request was refused. -/
  | exception (code : UInt8) : Payload .response
  /-- An answer with a function code that no variant stands for, its bytes kept verbatim. -/
  | unsupportedFunction (data : List UInt8) : Payload .response
  /-- A variant of the user's own. -/
  | custom {role : Role} (data : List UInt8) (reading : CustomReading) : Payload role
  deriving DecidableEq, Repr

/-- A message (`ModbusMessage`). -/
structure Message (role : Role) where
  header : Header := {}
  /-- The byte on the wire, with the mark of an exception if it has one. -/
  code : UInt8
  payload : Payload role
  deriving DecidableEq, Repr

namespace Message

/-! ## Building messages -/

def readBitsRequest (code : UInt8) (start quantity : UInt16) : Message .request :=
  { code, payload := .readBits start quantity }

def readRegistersRequest (code : UInt8) (start quantity : UInt16) : Message .request :=
  { code, payload := .readRegisters start quantity }

def writeCoilRequest (address : UInt16) (value : Bool) : Message .request :=
  { code := FunctionCode.writeSingleCoil, payload := .writeCoil address value }

def writeRegisterRequest (address value : UInt16) : Message .request :=
  { code := FunctionCode.writeSingleRegister, payload := .writeRegister address value }

def writeCoilsRequest (start : UInt16) (values : List Bool) : Message .request :=
  { code := FunctionCode.writeMultipleCoils, payload := .writeCoils start values }

def writeRegistersRequest (start : UInt16) (values : List UInt16) : Message .request :=
  { code := FunctionCode.writeMultipleRegisters, payload := .writeRegisters start values }

def illegalFunctionRequest (code : UInt8) : Message .request :=
  { code, payload := .illegalFunction [] }

def readBitsResponse (code : UInt8) (bits : List Bool) : Message .response :=
  { code, payload := .bits (Bits.pack bits) }

def readRegistersResponse (code : UInt8) (values : List UInt16) : Message .response :=
  { code, payload := .registers values }

def writeSingleResponse (code : UInt8) (address value : UInt16) : Message .response :=
  { code, payload := .wroteSingle address value }

def writeMultipleResponse (code : UInt8) (start quantity : UInt16) : Message .response :=
  { code, payload := .wroteMultiple start quantity }

def exceptionResponse (function exception : UInt8) : Message .response :=
  { code := FunctionCode.marked function, payload := .exception exception }

def unsupportedFunctionResponse (code : UInt8) : Message .response :=
  { code, payload := .unsupportedFunction [] }

/-! ## Properties and changes -/

variable {role other : Role}

/-- The function that the message is about, without the mark of an exception (`GetFunctionCode`). -/
def function (m : Message role) : UInt8 := FunctionCode.function m.code

/-- Whether the message reports an exception (`IsException`). -/
def isException (m : Message role) : Bool := FunctionCode.isException m.code

/-- The message with the identifiers of another (`CopyHeader`). -/
def copyHeader (m : Message role) (source : Message other) : Message role :=
  { m with header := source.header }

/-- The same span request about another span; any other message as it is. -/
def withSpan (m : Message role) (start quantity : UInt16) : Message role :=
  match role, m with
  | _, ⟨header, code, .readBits _ _⟩ => ⟨header, code, .readBits start quantity⟩
  | _, ⟨header, code, .readRegisters _ _⟩ => ⟨header, code, .readRegisters start quantity⟩
  | _, m => m

/-- The answer that refuses a request with an exception code (`CreateExceptionResponse`). -/
def refusal (request : Message .request) (exception : UInt8) : Message .response :=
  (exceptionResponse request.function exception).copyHeader request

/-- The first `count` bits of an answer that carries bits (`GetBits`); none for any other answer. -/
def bits (m : Message .response) (count : Nat) : List Bool :=
  match m.payload with
  | .bits packed => Bits.unpack packed count
  | _ => []

end Message

end ModbusTcp
