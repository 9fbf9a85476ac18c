import ModbusTcp.Message

/-!
Which variant stands for a function code: a table per role, in which the last entry made for a code
counts. A code without a usable entry gets a placeholder, so every code has a message that can read
its frame.
-/

set_option autoImplicit false

namespace ModbusTcp

/-- An entry of the table. -/
inductive VariantEntry (role : Role) where
  /-- No constructor at all. -/
  | absent
  /-- A constructor that builds nothing. -/
  | barren
  /-- A constructor of this message. -/
  | builds (message : Message role)
  deriving DecidableEq, Repr

/-- The entries for every function code, separate for requests and responses (`MessageFactory`). -/
structure VariantTable where
  requests : UInt8 → VariantEntry .request
  responses : UInt8 → VariantEntry .response

namespace VariantTable

/-- The table without entries. -/
def empty : VariantTable := ⟨fun _ => .absent, fun _ => .absent⟩

/-- The request that the protocol assigns to a function code. -/
def standardRequest (code : UInt8) : VariantEntry .request :=
  if code = FunctionCode.readCoils ∨ code = FunctionCode.readDiscreteInputs then
    .builds (.readBitsRequest code 0 0)
  else if code = FunctionCode.readHoldingRegisters ∨ code = FunctionCode.readInputRegisters then
    .builds (.readRegistersRequest code 0 0)
  else if code = FunctionCode.writeSingleCoil then .builds (.writeCoilRequest 0 false)
  else if code = FunctionCode.writeSingleRegister then .builds (.writeRegisterRequest 0 0)
  else if code = FunctionCode.writeMultipleCoils then .builds (.writeCoilsRequest 0 [])
  else if code = FunctionCode.writeMultipleRegisters then .builds (.writeRegistersRequest 0 [])
  else .absent

/-- The answer that the protocol assigns to a function code. -/
def standardResponse (code : UInt8) : VariantEntry .response :=
  if code = FunctionCode.readCoils ∨ code = FunctionCode.readDiscreteInputs then
    .builds (.readBitsResponse code [])
  else if code = FunctionCode.readHoldingRegisters ∨ code = FunctionCode.readInputRegisters then
    .builds (.readRegistersResponse code [])
  else if code = FunctionCode.writeSingleCoil ∨ code = FunctionCode.writeSingleRegister then
    .builds (.writeSingleResponse code 0 0)
  else if code = FunctionCode.writeMultipleCoils ∨ code = FunctionCode.writeMultipleRegisters then
    .builds (.writeMultipleResponse code 0 0)
  else .absent

/-- The table of the protocol (`CreateStandard`): function codes 1 to 6, 15 and 16. -/
def standard : VariantTable := ⟨standardRequest, standardResponse⟩

/-- The table with another entry for a code of one role (`RegisterRequest`, `RegisterResponse`). -/
def register (t : VariantTable) {role : Role} (code : UInt8) (entry : VariantEntry role) :
    VariantTable :=
  match role, entry with
  | .request, entry => { t with requests := fun c => if c = code then entry else t.requests c }
  | .response, entry => { t with responses := fun c => if c = code then entry else t.responses c }

/-- The entry for a code. -/
def lookup (t : VariantTable) : (role : Role) → UInt8 → VariantEntry role
  | .request, code => t.requests code
  | .response, code => t.responses code

/-- The message for a code that has no usable entry. -/
def placeholder : (role : Role) → UInt8 → Message role
  | .request, code => .illegalFunctionRequest code
  | .response, code =>
    if FunctionCode.isException code then
      .exceptionResponse (FunctionCode.function code) ExceptionCode.none
    else .unsupportedFunctionResponse code

/-- A message ready to read a frame with the given function code (`CreateRequest`,
`CreateResponse`). -/
def create (t : VariantTable) (role : Role) (code : UInt8) : Message role :=
  match t.lookup role code with
  | .builds message => message
  | .absent | .barren => placeholder role code

end VariantTable

end ModbusTcp
