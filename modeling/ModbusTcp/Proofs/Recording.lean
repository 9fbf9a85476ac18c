import ModbusTcp.Transport

/-!
A connection whose calls are written down.

`Recorded` adds to a state the list of the calls made so far, in order, and changes nothing else:
every operation gives what the operation below it gives. A statement about a recorded connection,
whatever lies below, is a statement about which calls are made, also about those that never are.
Whether a connection is open is asked without a trace, since asking changes nothing; who asks is
found out by other answers (`Transport.answering`).
-/

set_option autoImplicit false

namespace ModbusTcp

/-- A call made on a connection, with its arguments. -/
inductive Call (ρ : Type) where
  | readSome (r : ρ) (room : Nat) (deadline : Deadline)
  | write (r : ρ) (data : List UInt8)
  | flush (r : ρ)
  | closeInput (r : ρ)
  | closeOutput (r : ρ)
  | close (r : ρ)
  deriving DecidableEq, Repr

/-- A state and the calls that led to it. -/
structure Recorded (ρ σ : Type) where
  state : σ
  calls : List (Call ρ) := []

namespace Recorded

variable {ρ σ : Type}

/-- Behind one more call. -/
def after {α : Type} (s : Recorded ρ σ) (call : Call ρ) (outcome : α × σ) : α × Recorded ρ σ :=
  (outcome.1, ⟨outcome.2, s.calls ++ [call]⟩)

instance [Transport ρ σ] : Transport ρ (Recorded ρ σ) where
  readSome r room deadline s :=
    (Transport.readSome r room deadline s.state).map (s.after (.readSome r room deadline))
  write r data s := s.after (.write r data) (Transport.write r data s.state)
  flush r s := s.after (.flush r) (Transport.flush r s.state)
  isOpen r s := Transport.isOpen r s.state
  closeInput r s := s.after (.closeInput r) (Transport.closeInput r s.state)
  closeOutput r s := s.after (.closeOutput r) (Transport.closeOutput r s.state)
  close r s := s.after (.close r) (Transport.close r s.state)
  backlog r s := Transport.backlog r s.state

/-! ## What is written down -/

section Calls

variable [Transport ρ σ]

@[simp] theorem calls_write (r : ρ) (data : List UInt8) (s : Recorded ρ σ) :
    (Transport.write r data s).2.calls = s.calls ++ [.write r data] := rfl

@[simp] theorem calls_flush (r : ρ) (s : Recorded ρ σ) :
    (Transport.flush r s).2.calls = s.calls ++ [.flush r] := rfl

end Calls

end Recorded

end ModbusTcp
