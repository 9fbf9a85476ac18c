import ModbusTcp.Proofs.Calls

/-!
Which connections a channel asks whether they are open.

Asking (`IsOpen`) changes nothing in a connection, so it is not among the calls that are written
down. It shows in what becomes of other answers: `Transport.answering` gives the same connections
with other answers, and what comes to the same whatever is answered for a connection does not ask
it. Reading, writing and closing ask no connection at all (`Channel.read_answering` and its like).
Binding (`SetConnection`) asks the connection that is offered, and a channel that is asked whether
it is open asks the one that is bound.
-/

set_option autoImplicit false

namespace ModbusTcp

namespace Transport

variable {ρ σ : Type} [Transport ρ σ]

/-- The connections as they are, but that they are open exactly where `answer` says so. -/
@[reducible] def answering (answer : ρ → σ → Bool) : Transport ρ σ :=
  { ‹Transport ρ σ› with isOpen := answer }

variable {answer : ρ → σ → Bool} {r : ρ} {deadline : Deadline}

/-- What is written down does not have to do with the answers. -/
theorem recorded_answering :
    @Recorded.instTransport ρ σ (answering answer)
      = answering (ρ := ρ) fun r s => answer r s.state := rfl

/-- The reads of a filling are the same ones whatever is answered, and so is where they stop. -/
theorem fillsTo_answering {filled : Nat} {region : List UInt8} {s : σ}
    {out : IoResult × List UInt8 × σ} :
    @FillsTo ρ σ (answering answer) r deadline filled region s out
      ↔ FillsTo r deadline filled region s out := by
  constructor
  · intro h
    induction h with
    | full h => exact .full h
    | failed h hread hfailed => exact .failed h hread hfailed
    | idle h hread hok hidle => exact .idle h hread hok hidle
    | more h hread hok hsome _ ih => exact .more h hread hok hsome ih
  · intro h
    induction h with
    | full h => exact @FillsTo.full ρ σ (answering answer) _ _ _ _ _ h
    | failed h hread hfailed =>
      exact @FillsTo.failed ρ σ (answering answer) _ _ _ _ _ _ _ h hread hfailed
    | idle h hread hok hidle =>
      exact @FillsTo.idle ρ σ (answering answer) _ _ _ _ _ _ _ h hread hok hidle
    | more h hread hok hsome _ ih =>
      exact @FillsTo.more ρ σ (answering answer) _ _ _ _ _ _ _ _ h hread hok hsome ih

theorem fill_answering (region : List UInt8) (s : σ) :
    @fill ρ σ (answering answer) r deadline region s = fill r deadline region s := by
  apply Option.ext
  intro out
  unfold fill
  rw [@fillFrom_eq_some_iff ρ σ (answering answer), fillsTo_answering, fillFrom_eq_some_iff]

end Transport

namespace Channel

open Transport

variable {ρ σ : Type} [Transport ρ σ] {answer : ρ → σ → Bool}

theorem readBody_answering (r : ρ) (deadline : Deadline) (length : UInt16) (b : FrameBuffer)
    (s : σ) :
    @readBody ρ σ (answering answer) r deadline length b s = readBody r deadline length b s := by
  rw [@readBody_eq ρ σ (answering answer), fill_answering, readBody_eq]

theorem readFrame_answering (r : ρ) (deadline : Deadline) (b : FrameBuffer) (s : σ) :
    @readFrame ρ σ (answering answer) r deadline b s = readFrame r deadline b s := by
  rw [@readFrame_eq ρ σ (answering answer), fill_answering, readFrame_eq]
  simp only [readBody_answering]

/-- **A read asks no connection whether it is open.** -/
theorem read_answering (role : Role) (start : Instant) (c : Channel ρ) (s : σ) :
    @read ρ σ (answering answer) role start c s = c.read role start s := by
  rw [@read_eq ρ σ (answering answer), read_eq]
  simp only [readFrame_answering]

theorem write_answering {role : Role} (c : Channel ρ) (m : Message role) (s : σ) :
    @write ρ σ (answering answer) role c m s = c.write m s := rfl

theorem close_answering (c : Channel ρ) (s : σ) :
    @close ρ σ (answering answer) c s = c.close s := rfl

/-- **Binding asks the connection that is offered, and no other.** -/
theorem usable_answering {offered : Option ρ} {s : σ}
    (h : ∀ r, offered = some r → answer r s = Transport.isOpen r s) :
    @usable ρ σ (answering answer) offered s = usable offered s := by
  cases offered with
  | none => rfl
  | some r =>
    change (if answer r s then _ else _) = _
    rw [h r rfl]
    rfl

theorem bind_answering {offered : Option ρ} {s : σ}
    (h : ∀ r, offered = some r → answer r s = Transport.isOpen r s) (c : Channel ρ) :
    @bind ρ σ (answering answer) c offered s = c.bind offered s := by
  unfold bind
  rw [usable_answering h]
  rfl

theorem establish_answering {offered : Option ρ} {s : σ}
    (h : ∀ r, offered = some r → answer r s = Transport.isOpen r s) (table : VariantTable)
    (receiveTimeout : Int64) :
    @establish ρ σ (answering answer) table receiveTimeout offered s
      = establish table receiveTimeout offered s := by
  unfold establish
  rw [bind_answering h]
  rfl

/-- **A channel that is asked whether it is open asks its connection, and no other.** -/
theorem isOpen_answering {c : Channel ρ} {s : σ}
    (h : ∀ r, c.connection = some r → answer r s = Transport.isOpen r s) :
    @isOpen ρ σ (answering answer) c s = c.isOpen s := by
  unfold isOpen
  cases hr : c.connection with
  | none => rfl
  | some r => exact h r hr

end Channel

end ModbusTcp
