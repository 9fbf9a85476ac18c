import ModbusTcp.Channel

/-!
A channel that several callers use at the same time.

`Channel.read` and the other operations are those of a caller who is alone. Here each of them is cut
where another caller may come in between, as the two locks of a channel allow it. One lock guards
the buffer, and a read keeps it from the moment it may use the buffer up to its end; the other
guards the connection and the timeout, for a moment at a time.

A read looks at the clock first (`begin`). Then it waits until no other read has the buffer, and
only when the buffer is its own does it look which connection is bound and which timeout is set
(`enter`). What it reads then, and the way it ends, is one step here (`finish`): the connections may
do at every call what they like, so they also stand for what others do to them meanwhile.

A timeout is set at once, whoever has the buffer (`SetReceiveTimeout`). So is a connection let go
of, the first step of closing a channel (`Close`); the last step of it, and binding another
connection (`SetConnection`), have to wait for the buffer.
-/

set_option autoImplicit false

namespace ModbusTcp.Callers

open Channel (Admission)

/-- A read that was begun. -/
structure Begun where
  caller : Nat
  role : Role
  /-- What the clock showed then. -/
  start : Instant
  deriving DecidableEq, Repr

/-- A read that has the buffer, and what it found when it got it; nothing if no connection was
bound. -/
structure Holder (ρ : Type) where
  read : Begun
  admission : Option (Admission ρ)
  deriving DecidableEq, Repr

/-- A read that has come to its end. -/
structure Ended where
  read : Begun
  outcome : Except ReadFailure (Message read.role)

/-- Why a read failed, if it did. -/
def Ended.failure? (e : Ended) : Option ReadFailure :=
  match e.outcome with
  | .error f => some f
  | .ok _ => none

/-- A channel and the state of the connections, with the reads of all callers. -/
structure Shared (ρ σ : Type) where
  channel : Channel ρ
  state : σ
  /-- The reads that wait for the buffer. -/
  waiting : List Begun := []
  /-- The read that has it. -/
  holder : Option (Holder ρ) := none
  ended : List Ended := []

/-- What one of the callers does. -/
inductive Step (ρ σ : Type) where
  /-- Begins a read. -/
  | begin (caller : Nat) (role : Role)
  /-- Gets the buffer for the read that it began. -/
  | enter (caller : Nat)
  /-- Reads a message with the buffer, and gives the buffer back. -/
  | finish
  | setReceiveTimeout (milliseconds : Int64)
  /-- Lets go of the connection. -/
  | release
  /-- Lets go of the buffer, unless a connection is bound. -/
  | settle
  /-- Binds a connection. -/
  | attach (r : ρ)
  /-- Does something with connections, or lets time pass. -/
  | others (change : σ → σ)

section Steps

variable {ρ σ : Type} [Transport ρ σ]

/-- The read for which a caller waits. -/
def Shared.waits? (S : Shared ρ σ) (caller : Nat) : Option Begun :=
  S.waiting.find? (·.caller = caller)

/-- Whether a caller has begun a read that is not at its end. -/
def Shared.isReading (S : Shared ρ σ) (caller : Nat) : Bool :=
  (S.waits? caller).isSome || S.holder.any (·.read.caller = caller)

/-- Carries out a step, where `clock` tells the time. No result if the caller has to wait first, and
none if its read waits for ever. -/
def perform (clock : σ → Instant) (step : Step ρ σ) (S : Shared ρ σ) : Option (Shared ρ σ) :=
  match step with
  | .begin caller role =>
    if S.isReading caller then none
    else some { S with waiting := S.waiting ++ [⟨caller, role, clock S.state⟩] }
  | .enter caller =>
    match S.holder, S.waits? caller with
    | none, some begun =>
      some { S with
        waiting := S.waiting.filter (·.caller ≠ caller)
        holder := some ⟨begun, S.channel.admission begun.start⟩ }
    | _, _ => none
  | .finish =>
    match S.holder with
    | none => none
    | some ⟨begun, none⟩ =>
      some { S with holder := none, ended := S.ended ++ [⟨begun, .error .unbound⟩] }
    | some ⟨begun, some a⟩ =>
      match a.receive S.channel.table begun.role S.state with
      | none => none
      | some (outcome, b, s) =>
        some { S with
          channel := { S.channel with buffer := some b }
          state := s
          holder := none
          ended := S.ended ++ [⟨begun, outcome⟩] }
  | .setReceiveTimeout milliseconds =>
    some { S with channel := S.channel.setReceiveTimeout milliseconds }
  | .release => some { S with channel := S.channel.release }
  | .settle => if S.holder.isSome then none else some { S with channel := S.channel.settle }
  | .attach r => if S.holder.isSome then none else some { S with channel := S.channel.attach r }
  | .others change => some { S with state := change S.state }

/-- Carries out one step after the other. -/
def run (clock : σ → Instant) : List (Step ρ σ) → Shared ρ σ → Option (Shared ρ σ)
  | [], S => some S
  | step :: steps, S => (perform clock step S).bind (run clock steps)

end Steps

end ModbusTcp.Callers
