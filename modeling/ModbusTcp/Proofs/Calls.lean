import ModbusTcp.Proofs.Framing
import ModbusTcp.Proofs.Recording
import ModbusTcp.Proofs.Writing

/-!
What a channel does to the connection that it is bound to.

A read (`ReadMessage`) is one filling or two, and what is made of their bytes does not touch the
connection (`Channel.readBody_eq`, `Channel.readFrame_eq`, `Channel.read_eq_readFrame`). Whatever it
comes to, it leaves a state that nothing but reads of the bound connection lead to
(`Channel.read_leaves`); so what no such read can change, no read of a channel changes. A write
(`Write`) makes one call or two, and closing (`Close`) makes three, in one order. Over a recorded
connection all of this can be read off the calls that are written down.
-/

set_option autoImplicit false

namespace ModbusTcp

/-! ## Reads of a connection -/

namespace Transport

variable {ρ σ : Type} [Transport ρ σ] {r : ρ} {s s' s'' : σ}

/-- Any number of reads of a connection, one after the other. -/
inductive Reads (r : ρ) : σ → σ → Prop where
  | none (s : σ) : Reads r s s
  | one {room : Nat} {deadline : Deadline} {d : Delivery} {s s' s'' : σ} :
    readSome r room deadline s = some (d, s') → Reads r s' s'' → Reads r s s''

theorem Reads.trans (h : Reads r s s') (h' : Reads r s' s'') : Reads r s s'' := by
  induction h with
  | none => exact h'
  | one hread _ ih => exact .one hread (ih h')

/-- What every read keeps is kept by any number of them. -/
theorem Reads.keeps (P : σ → Prop)
    (hP : ∀ room deadline s d s', readSome r room deadline s = some (d, s') → P s → P s')
    (h : Reads r s s') (hs : P s) : P s' := by
  induction h with
  | none => exact hs
  | one hread _ ih => exact ih (hP _ _ _ _ _ hread hs)

/-- One case for each way out of the loop, and one for the way on. -/
theorem FillsTo.reads {deadline : Deadline} {filled : Nat} {region : List UInt8}
    {out : IoResult × List UInt8 × σ} (h : FillsTo r deadline filled region s out) :
    Reads r s out.2.2 := by
  induction h with
  | full => exact .none _
  | failed _ hread => exact .one hread (.none _)
  | idle _ hread => exact .one hread (.none _)
  | more _ hread _ _ _ ih => exact .one hread ih

theorem fill_reads {deadline : Deadline} {region region' : List UInt8} {result : IoResult}
    (h : fill r deadline region s = some (result, region', s')) : Reads r s s' :=
  (fillFrom_eq_some_iff.mp h).reads

end Transport

/-! ## Calls on a recorded connection -/

/-- The connection that a call is made on. -/
def Call.connection {ρ : Type} : Call ρ → ρ
  | .readSome r _ _ | .write r _ | .flush r | .closeInput r | .closeOutput r | .close r => r

/-- Whether a call is a read. -/
def Call.isRead {ρ : Type} : Call ρ → Bool
  | .readSome .. => true
  | _ => false

/-- Whether a call moves bytes; any other closes something. -/
def Call.isTransfer {ρ : Type} : Call ρ → Bool
  | .readSome .. | .write .. | .flush _ => true
  | .closeInput _ | .closeOutput _ | .close _ => false

theorem Call.isTransfer_of_isRead {ρ : Type} {call : Call ρ} (h : call.isRead) :
    call.isTransfer := by
  cases call with
  | readSome r room deadline => rfl
  | _ => exact nomatch h

namespace Recorded

open Transport

variable {ρ σ : Type} [Transport ρ σ] {r : ρ} {s s' : Recorded ρ σ}

theorem readSome_eq_some {room : Nat} {deadline : Deadline} {d : Delivery}
    (h : readSome r room deadline s = some (d, s')) :
    readSome r room deadline s.state = some (d, s'.state)
      ∧ s'.calls = s.calls ++ [.readSome r room deadline] := by
  obtain ⟨⟨_, state⟩, hread, heq⟩ := Option.map_eq_some_iff.mp h
  cases heq
  exact ⟨hread, rfl⟩

theorem reads_state (h : Reads r s s') : Reads r s.state s'.state := by
  induction h with
  | none => exact .none _
  | one hread _ ih => exact .one (readSome_eq_some hread).1 ih

/-- Reads write down reads of the connection, and nothing else. -/
theorem calls_of_reads (h : Reads r s s') :
    ∃ calls, s'.calls = s.calls ++ calls ∧ ∀ call ∈ calls, call.connection = r ∧ call.isRead := by
  induction h with
  | none s => exact ⟨[], (List.append_nil _).symm, nofun⟩
  | @one room deadline _ s _ _ hread _ ih =>
    obtain ⟨calls, hcalls, hall⟩ := ih
    refine ⟨.readSome r room deadline :: calls, ?_, ?_⟩
    · rw [hcalls, (readSome_eq_some hread).2, List.append_assoc, List.singleton_append]
    · intro call hcall
      rcases List.mem_cons.mp hcall with rfl | hcall
      · exact ⟨rfl, rfl⟩
      · exact hall call hcall

end Recorded

/-! ## A read is made of fillings -/

namespace Channel

open Transport

variable {ρ σ : Type} [Transport ρ σ]

/-- What is made of the body of a frame: an outcome, and a buffer. -/
def bodyRead (length : UInt16) (b : FrameBuffer) (result : IoResult) (body : List UInt8) :
    Except ReadFailure Unit × FrameBuffer :=
  let b := b.store Frame.prefixLength body
  if result.status ≠ .ok then (.error (.bodyBroken result length), b)
  else
    match b.reset (Frame.prefixLength + length.toNat) with
    | (false, b) => (.error .doesNotFit, b)
    | (true, b) => (if length < 2 then .error (.noFunctionCode length) else .ok (), b)

/-- What is made of the head of a frame, in the buffer that holds it: a failure, or the length of
the body. -/
def headRead (b : FrameBuffer) (result : IoResult) (head : List UInt8) :
    Except ReadFailure UInt16 :=
  if result.status ≠ .ok then .error (.headerBroken result)
  else if b.capacity - Frame.prefixLength < (lengthField head).toNat then
    .error (.lengthTooLarge (lengthField head) (b.capacity - Frame.prefixLength))
  else .ok (lengthField head)

/-- Reading a body is one filling. -/
theorem readBody_eq (r : ρ) (deadline : Deadline) (length : UInt16) (b : FrameBuffer) (s : σ) :
    readBody r deadline length b s
      = (fill r deadline (b.region Frame.prefixLength length.toNat) s).map
        fun (result, body, s') =>
          ((bodyRead length b result body).1, (bodyRead length b result body).2, s') := by
  unfold readBody
  rcases fill r deadline (b.region Frame.prefixLength length.toNat) s with _ | ⟨result, body, s'⟩
  · rfl
  · simp only [Option.map_some, bodyRead]
    by_cases hfailed : result.status ≠ .ok
    · simp only [if_pos hfailed]
    · simp only [if_neg hfailed]
      rcases (b.store Frame.prefixLength body).reset (Frame.prefixLength + length.toNat)
        with ⟨_ | _, b'⟩
      · rfl
      · by_cases hcode : length < 2
        · simp only [if_pos hcode]
        · simp only [if_neg hcode]

/-- Reading a frame is a filling, and another one if the head tells for how much. -/
theorem readFrame_eq (r : ρ) (deadline : Deadline) (b : FrameBuffer) (s : σ) :
    readFrame r deadline b s
      = (fill r deadline (b.region 0 Frame.prefixLength) s).bind fun (result, head, s') =>
        match headRead (b.store 0 head) result head with
        | .error e => some (.error e, b.store 0 head, s')
        | .ok length => readBody r deadline length (b.store 0 head) s' := by
  unfold readFrame
  rcases fill r deadline (b.region 0 Frame.prefixLength) s with _ | ⟨result, head, s'⟩
  · rfl
  · simp only [Option.bind_some, headRead]
    split
    · rfl
    · split
      · rfl
      · rfl

/-- The message that comes of a frame in the buffer, if one was read. -/
def decodeRead (table : VariantTable) (role : Role) (outcome : Except ReadFailure Unit)
    (b : FrameBuffer) : Except ReadFailure (Message role) × FrameBuffer :=
  match outcome with
  | .error e => (.error e, b)
  | .ok () => decodeFrame table role b

/-- Reading a message is reading a frame, and then no more of the connection. -/
theorem read_eq_readFrame {c : Channel ρ} {r : ρ} {b : FrameBuffer} (hr : c.connection = some r)
    (hb : c.buffer = some b) (role : Role) (start : Instant) (s : σ) :
    c.read role start s = (readFrame r (.starting c.receiveTimeout start) b s).map
      fun (outcome, b', s') => ((decodeRead c.table role outcome b').1,
        { c with buffer := some (decodeRead c.table role outcome b').2 }, s') := by
  simp only [read_eq, hr, hb]
  rcases readFrame r (.starting c.receiveTimeout start) b s with _ | ⟨_ | _, b', s'⟩
  · rfl
  · rfl
  · rfl

end Channel

/-! ## The operations of a channel -/

namespace Channel

open Transport

variable {ρ σ : Type} [Transport ρ σ] {c c' : Channel ρ} {r : ρ} {s s' : σ} {b b' : FrameBuffer}

/-- What reading a frame leaves behind, however it ends. -/
structure FrameLeft (r : ρ) (b : FrameBuffer) (s : σ) (outcome : Except ReadFailure Unit)
    (b' : FrameBuffer) (s' : σ) : Prop where
  reads : Reads r s s'
  capacity : b'.capacity = b.capacity
  formed : outcome = .ok () → b'.WellFormed

theorem readBody_leaves {deadline : Deadline} {length : UInt16} {outcome : Except ReadFailure Unit}
    (h : readBody r deadline length b s = some (outcome, b', s')) :
    FrameLeft r b s outcome b' s' := by
  unfold readBody at h
  split at h
  · exact nomatch h
  · rename_i result body s₁ hfill
    have hreads := fill_reads hfill
    have hcapacity := b.capacity_store Frame.prefixLength body
    simp only at h
    split at h
    · cases h
      exact ⟨hreads, hcapacity, nofun⟩
    · generalize b.store Frame.prefixLength body = stored at h hcapacity
      unfold FrameBuffer.reset at h
      by_cases hfits : stored.capacity < Frame.prefixLength + length.toNat
      · rw [if_pos hfits] at h
        cases h
        exact ⟨hreads, hcapacity, nofun⟩
      · rw [if_neg hfits] at h
        simp only at h
        split at h
        · cases h
          exact ⟨hreads, hcapacity, nofun⟩
        · cases h
          exact ⟨hreads, hcapacity, fun _ => ⟨Nat.zero_le _, Nat.not_lt.mp hfits⟩⟩

theorem readFrame_leaves {deadline : Deadline} {outcome : Except ReadFailure Unit}
    (h : readFrame r deadline b s = some (outcome, b', s')) : FrameLeft r b s outcome b' s' := by
  unfold readFrame at h
  split at h
  · exact nomatch h
  · rename_i result head s₁ hfill
    have hreads := fill_reads hfill
    have hcapacity := b.capacity_store 0 head
    simp only at h
    split at h
    · cases h
      exact ⟨hreads, hcapacity, nofun⟩
    · split at h
      · cases h
        exact ⟨hreads, hcapacity, nofun⟩
      · obtain ⟨hbody, hkept, hformed⟩ := readBody_leaves h
        exact ⟨hreads.trans hbody, hkept.trans hcapacity, hformed⟩

theorem capacity_decodeFrame (hb : b.WellFormed) (table : VariantTable) (role : Role) :
    (decodeFrame table role b).2.capacity = b.capacity := by
  unfold decodeFrame
  split
  · rfl
  · rename_i code _
    rw [Message.decode_eq hb]
    simp only [Parsed.behind]
    split <;> exact b.capacity_advance _

/-- **A read does nothing but read.** Of the channel only the contents of the buffer change. -/
theorem read_leaves {role : Role} {start : Instant} {outcome : Except ReadFailure (Message role)}
    (hc : c.BoundTo r) (h : c.read role start s = some (outcome, c', s')) :
    Reads r s s' ∧ c'.BoundTo r ∧ c' = { c with buffer := c'.buffer } := by
  obtain ⟨hr, b, hb, hcapacity⟩ := hc
  rw [read_eq, hr, hb] at h
  simp only at h
  split at h
  · cases h
  · rename_i failure b' s₁ hframe
    obtain ⟨hreads, hkept, -⟩ := readFrame_leaves hframe
    cases h
    exact ⟨hreads, ⟨rfl, b', rfl, hkept.trans hcapacity⟩, by rw [hr]⟩
  · rename_i b' s₁ hframe
    obtain ⟨hreads, hkept, hformed⟩ := readFrame_leaves hframe
    have hdecoded := capacity_decodeFrame (hformed rfl) c.table role
    cases h
    exact ⟨hreads, ⟨rfl, _, rfl, hdecoded.trans (hkept.trans hcapacity)⟩, by rw [hr]⟩

theorem close_of_bound (hr : c.connection = some r) (s : σ) :
    c.close s = ({ c with connection := none, buffer := none }, shutDown r s) := by
  rw [close, hr]
  rfl

theorem close_of_unbound (hr : c.connection = none) (s : σ) : c.close s = (c, s) := by
  rw [close, hr]

section Recorded

variable {s : Recorded ρ σ}

/-- A write hands over the frame or makes no call, and flushes or does not. -/
theorem calls_write {role : Role} (hr : c.connection = some r) (m : Message role)
    (s : Recorded ρ σ) :
    ∃ calls, (c.write m s).2.calls = s.calls ++ calls
      ∧ ∀ call ∈ calls, call.connection = r ∧ call.isTransfer := by
  refine ⟨c.writeCalls m s.state, calls_write_eq c m s, ?_⟩
  rw [writeCalls, hr]
  simp only
  split
  · exact fun _ => nofun
  · split
    · intro call hcall
      rcases List.mem_cons.mp hcall with rfl | hcall
      · exact ⟨rfl, rfl⟩
      · rw [List.mem_singleton.mp hcall]
        exact ⟨rfl, rfl⟩
    · intro call hcall
      rw [List.mem_singleton.mp hcall]
      exact ⟨rfl, rfl⟩

/-- The calls that close a connection, in their order. -/
def closing (r : ρ) : List (Call ρ) := [.closeInput r, .closeOutput r, .close r]

theorem calls_shutDown (r : ρ) (s : Recorded ρ σ) :
    (shutDown r s).calls = s.calls ++ closing r := by
  have hcalls : (shutDown r s).calls
      = ((s.calls ++ [.closeInput r]) ++ [.closeOutput r]) ++ [.close r] := rfl
  rw [hcalls, List.append_assoc, List.append_assoc]
  rfl

end Recorded

end Channel

end ModbusTcp
