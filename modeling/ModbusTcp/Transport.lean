import ModbusTcp.Deadline
import ModbusTcp.Io
import ModbusTcp.Region

/-!
Connections as seen by the framing layer, and filling a region from one.

A state holds one or more connections, and a reference names one of them; a state that is a single
connection has `Unit` as its references. All operations are total functions on the state, except
that a read without a deadline may find nothing and wait for ever: then it has no result (`none`).

`fill` reads until a region is full. It stops at the first failure and at a success without bytes,
and never asks for more than what is missing. It believes what a reader reports: a report beyond
what was asked for ends the filling, unless it is so large that the 64-bit count of the filled bytes
wraps around, which takes the filling back to an earlier place. Nothing bounds how often that may
happen, so the loop has no measure; what it gives, if it comes to an end, is said as a relation
(`FillsTo`, `fillFrom_eq_some_iff`), and proofs about results are by induction on that.
-/

set_option autoImplicit false

namespace ModbusTcp

/-- A state `σ` whose connections are duplex byte streams named by references `ρ` (`Connection`). -/
class Transport (ρ : outParam Type) (σ : Type) where
  /-- Reads at most so many bytes, giving up at the deadline. -/
  readSome : ρ → Nat → Deadline → σ → Option (Delivery × σ)
  /-- Queues bytes for sending. -/
  write : ρ → List UInt8 → σ → IoResult × σ
  /-- Pushes the queued bytes onto the wire. -/
  flush : ρ → σ → IoResult × σ
  /-- Whether the connection can be used. -/
  isOpen : ρ → σ → Bool
  /-- Stops receiving. -/
  closeInput : ρ → σ → IoResult × σ
  /-- Sends what is queued, then stops sending. -/
  closeOutput : ρ → σ → IoResult × σ
  /-- Tears the connection down. -/
  close : ρ → σ → IoResult × σ
  /-- The input that reads can still consume, in bytes and single results. -/
  backlog : ρ → σ → Nat

namespace Transport

variable {ρ σ : Type} [Transport ρ σ]

/-- The number of bytes that count as filled after `filled` of them were and a reader reported
`bytes` more for a room of `room` bytes. The count is a 64-bit word, and only a report beyond the
room can make it wrap. -/
def filledAfter (filled room bytes : Nat) : Nat :=
  if bytes ≤ room then filled + bytes else (filled + bytes) % UInt64.size

/-- Goes on filling a region whose first `filled` bytes are done. No result if a read waits for
ever, nor if one report after the other takes the count back and nothing ever fills the region. -/
def fillFrom (r : ρ) (deadline : Deadline) (filled : Nat) (region : List UInt8) (s : σ) :
    Option (IoResult × List UInt8 × σ) :=
  if filled < region.length then
    match readSome r (region.length - filled) deadline s with
    | none => none
    | some (⟨result, data⟩, s) =>
      if result.status ≠ .ok then some ({ result with bytes := filled }, region, s)
      else if result.bytes = 0 then
        some ({ status := .error, bytes := filled, error := .ioError }, region, s)
      else by
        -- As a term the call would carry its place in this file into the definition.
        apply fillFrom
        · exact r
        · exact deadline
        · exact filledAfter filled (region.length - filled) result.bytes
        · exact region.take filled ++ overlay (region.drop filled) data
        · exact s
  else some (.transferred filled, region, s)
partial_fixpoint

/-- Reads until the region is full (`ReadFully`). Gives the result, with the number of bytes that
were filled in whatever the last read reported, the region, and the state behind. -/
def fill (r : ρ) (deadline : Deadline) (region : List UInt8) (s : σ) :
    Option (IoResult × List UInt8 × σ) :=
  fillFrom r deadline 0 region s

/-! ## What the loop gives -/

/-- What filling comes to from some place on, with a constructor for each way out of the loop and
one for the way on. -/
inductive FillsTo (r : ρ) (deadline : Deadline) :
    Nat → List UInt8 → σ → IoResult × List UInt8 × σ → Prop where
  | full {filled : Nat} {region : List UInt8} {s : σ} : ¬ filled < region.length →
    FillsTo r deadline filled region s (.transferred filled, region, s)
  | failed {filled : Nat} {region : List UInt8} {s s' : σ} {d : Delivery} :
    filled < region.length →
    readSome r (region.length - filled) deadline s = some (d, s') → d.result.status ≠ .ok →
    FillsTo r deadline filled region s ({ d.result with bytes := filled }, region, s')
  | idle {filled : Nat} {region : List UInt8} {s s' : σ} {d : Delivery} :
    filled < region.length →
    readSome r (region.length - filled) deadline s = some (d, s') → d.result.status = .ok →
    d.result.bytes = 0 →
    FillsTo r deadline filled region s
      ({ status := .error, bytes := filled, error := .ioError }, region, s')
  | more {filled : Nat} {region : List UInt8} {s s' : σ} {d : Delivery}
    {out : IoResult × List UInt8 × σ} : filled < region.length →
    readSome r (region.length - filled) deadline s = some (d, s') → d.result.status = .ok →
    d.result.bytes ≠ 0 →
    FillsTo r deadline (filledAfter filled (region.length - filled) d.result.bytes)
      (region.take filled ++ overlay (region.drop filled) d.data) s' out →
    FillsTo r deadline filled region s out

variable {r : ρ} {deadline : Deadline} {filled : Nat} {region : List UInt8} {s s' : σ}
  {d : Delivery}

theorem fillFrom_of_full (h : ¬ filled < region.length) :
    fillFrom r deadline filled region s = some (.transferred filled, region, s) := by
  rw [fillFrom, if_neg h]

theorem fillFrom_of_waiting (h : filled < region.length)
    (hread : readSome r (region.length - filled) deadline s = none) :
    fillFrom r deadline filled region s = none := by
  rw [fillFrom, if_pos h, hread]

theorem fillFrom_of_failed (h : filled < region.length)
    (hread : readSome r (region.length - filled) deadline s = some (d, s'))
    (hfailed : d.result.status ≠ .ok) :
    fillFrom r deadline filled region s
      = some ({ d.result with bytes := filled }, region, s') := by
  rw [fillFrom, if_pos h, hread]
  exact if_pos hfailed

theorem fillFrom_of_idle (h : filled < region.length)
    (hread : readSome r (region.length - filled) deadline s = some (d, s'))
    (hok : d.result.status = .ok) (hidle : d.result.bytes = 0) :
    fillFrom r deadline filled region s
      = some ({ status := .error, bytes := filled, error := .ioError }, region, s') := by
  rw [fillFrom, if_pos h, hread]
  simp only
  rw [if_neg (Decidable.not_not.mpr hok), if_pos hidle]

theorem fillFrom_of_more (h : filled < region.length)
    (hread : readSome r (region.length - filled) deadline s = some (d, s'))
    (hok : d.result.status = .ok) (hsome : d.result.bytes ≠ 0) :
    fillFrom r deadline filled region s
      = fillFrom r deadline (filledAfter filled (region.length - filled) d.result.bytes)
          (region.take filled ++ overlay (region.drop filled) d.data) s' := by
  rw [fillFrom, if_pos h, hread]
  simp only
  rw [if_neg (Decidable.not_not.mpr hok), if_neg hsome]

/-- **The loop gives what filling comes to.** From left to right by induction on the loop, whose
result is that of finitely many rounds. -/
theorem fillFrom_eq_some_iff {out : IoResult × List UInt8 × σ} :
    fillFrom r deadline filled region s = some out ↔ FillsTo r deadline filled region s out := by
  constructor
  · intro h
    apply fillFrom.partial_correctness r deadline (FillsTo r deadline) _ filled region s out h
    intro loop ih filled region s out h
    split at h
    · rename_i hless
      split at h
      · exact nomatch h
      · rename_i result data s' hread
        split at h
        · cases h
          exact .failed hless hread ‹_›
        · split at h
          · cases h
            exact .idle hless hread (Decidable.not_not.mp ‹_›) ‹_›
          · exact .more hless hread (Decidable.not_not.mp ‹_›) ‹_› (ih _ _ _ _ h)
    · cases h
      exact .full ‹_›
  · intro h
    induction h with
    | full h => exact fillFrom_of_full h
    | failed h hread hfailed => exact fillFrom_of_failed h hread hfailed
    | idle h hread hok hidle => exact fillFrom_of_idle h hread hok hidle
    | more h hread hok hsome _ ih => rw [fillFrom_of_more h hread hok hsome, ih]

end Transport

end ModbusTcp
