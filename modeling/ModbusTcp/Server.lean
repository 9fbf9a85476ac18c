import ModbusTcp.Channel

/-!
A server that answers every request it can decode: reads get zeros, writes are confirmed, and a
function it does not know is refused.

**Serving** goes on until the stream ends, a frame breaks or an answer cannot be written. A client
that stays silent for the length of the receive timeout has not failed: that read is repeated.
Every turn that goes on has consumed input, so as many turns as there is input left, and one more,
are enough; a server that is not done then waits for ever.
-/

set_option autoImplicit false

namespace ModbusTcp.Server

/-- The most registers that one request may read. -/
def maximumRegisters : UInt16 := 125

/-- The most bits that one request may read. -/
def maximumBits : UInt16 := 2000

/-! ## Answers -/

/-- The answer to a request for bits or registers: zeros. The function decides which of the two. -/
def answerSpan (request : Message .request) (quantity : UInt16) : Message .response :=
  let function := request.function
  if function = FunctionCode.readHoldingRegisters ∨ function = FunctionCode.readInputRegisters then
    if quantity = 0 ∨ maximumRegisters < quantity then
      request.refusal ExceptionCode.illegalDataValue
    else
      (Message.readRegistersResponse function (List.replicate quantity.toNat 0)).copyHeader request
  else if quantity = 0 ∨ maximumBits < quantity then
    request.refusal ExceptionCode.illegalDataValue
  else (Message.readBitsResponse function (List.replicate quantity.toNat false)).copyHeader request

/-- The answer to a request (`Answer`). -/
def answer (request : Message .request) : Message .response :=
  let function := request.function
  match request.payload with
  | .readBits _ quantity | .readRegisters _ quantity => answerSpan request quantity
  | .writeCoil address value =>
    (Message.writeSingleResponse function address (coilWord value)).copyHeader request
  | .writeRegister address value =>
    (Message.writeSingleResponse function address value).copyHeader request
  | .writeCoils start values =>
    (Message.writeMultipleResponse function start (UInt16.ofNat values.length)).copyHeader request
  | .writeRegisters start values =>
    (Message.writeMultipleResponse function start (UInt16.ofNat values.length)).copyHeader request
  | .illegalFunction _ | .custom _ _ => request.refusal ExceptionCode.illegalFunction

/-- The answer that a request without a variant gets; any other request has none of this kind. -/
def illegalFunctionAnswer? (request : Message .request) : Option (Message .response) :=
  match request.payload with
  | .illegalFunction _ => some (request.refusal ExceptionCode.illegalFunction)
  | _ => none

/-- Decodes a single frame as a request of the protocol. A frame that is too short for a function
code is decoded as one of code 0. -/
def decodeRequest (frame : List UInt8) : Decoded (Message .request) :=
  let code := frame[Frame.codeOffset]?.getD 0
  (VariantTable.standard.create .request code).decode ⟨frame, frame.length, 0⟩

/-! ## Serving -/

/-- How a turn of the server ended. -/
inductive Turn where
  /-- The client stayed silent. -/
  | idle
  /-- A request was answered. -/
  | answered
  /-- The client is done with, for whatever reason. -/
  | over
  deriving DecidableEq, Repr

variable {ρ σ : Type} [Transport ρ σ]

/-- Reads a request and answers it. -/
def turn (now : Instant) (c : Channel ρ) (s : σ) : Option (Turn × Channel ρ × σ) :=
  if !c.isOpen s then some (.over, c, s)
  else
    match c.read .request now s with
    | none => none
    | some (.error e, c, s) =>
      let status := e.status
      if status.outcome = .connectionClosed ∧ status.timedOut then some (.idle, c, s)
      else some (.over, c, s)
    | some (.ok request, c, s) =>
      match c.write (answer request) s with
      | (.error _, s) => some (.over, c, s)
      | (.ok (), s) => some (.answered, c, s)

/-- At most so many turns, the first with the given number. Gives the requests answered, counted in
a word of 32 bits; no result if the turns do not suffice. -/
def turns (clock : Nat → Instant) : Nat → Nat → Channel ρ → σ → Option (UInt32 × Channel ρ × σ)
  | 0, _, _, _ => none
  | fuel + 1, number, c, s =>
    match turn (clock number) c s with
    | none => none
    | some (.over, c, s) => some (0, c, s)
    | some (.idle, c, s) => turns clock fuel (number + 1) c s
    | some (.answered, c, s) =>
      (turns clock fuel (number + 1) c s).map fun (served, c, s) => (served + 1, c, s)

/-- The input that the bound connection has left. -/
def backlog (c : Channel ρ) (s : σ) : Nat :=
  match c.connection with
  | none => 0
  | some r => Transport.backlog r s

/-- Answers requests until the client is done with. `clock` gives the time at the start of each
turn. -/
def answerAll (clock : Nat → Instant) (c : Channel ρ) (s : σ) : Option (UInt32 × Channel ρ × σ) :=
  turns clock (backlog c s + 1) 0 c s

/-- Answers requests until the client is done with, and closes the channel (`Serve`). Gives the
number of requests answered; no result if that never happens. -/
def serve (clock : Nat → Instant) (c : Channel ρ) (s : σ) : Option (UInt32 × Channel ρ × σ) :=
  match answerAll clock c s with
  | none => none
  | some (served, c, s) =>
    let (c, s) := c.close s
    some (served, c, s)

end ModbusTcp.Server
