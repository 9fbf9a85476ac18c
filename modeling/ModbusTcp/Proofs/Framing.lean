import ModbusTcp.Channel
import ModbusTcp.Proofs.Input
import ModbusTcp.Proofs.Parsing

/-!
What a channel reads, said over the symbols that its connection gives.

`Framing.step` is the reading of one message as it should be: six bytes, then as many as the length
field announces, and a message that the table's variant for the eighth byte makes of exactly these
bytes. It knows no buffer, no chunks and no deadline, and it says of every way a reading can fail
which symbols it took and which status it reports. `Framing.run` takes one step after the other.

The main statement is `Channel.readAll_refines_run`: a sequence of reads of a bound channel
(`ReadRequest`, `ReadResponse`) gives what `Framing.run` gives. Its proof goes once through the
code, function by function: filling (`Transport.fill_of_delivers`), the body and the whole frame
(`readBody_of_delivers`, `readFrame_of_delivers`), decoding (`decodeFrame_of_unread`) and a single
read (`read_of_delivers`); the sequence is an induction on the reads.
-/

set_option autoImplicit false

namespace ModbusTcp

/-! ## The reference -/

namespace Framing

open InputSymbol

variable {role : Role}

/-- The longest body that fits a frame. -/
def limit : Nat := 254

/-- The text of an event in a report. -/
def describe : Event → String
  | .timeout => "receive timeout elapsed"
  | .endOfStream => "end of stream"
  | .reset error | .failure error => error.message

/-- A failure of the connection, or bytes that are not a message. -/
def failed (text : String) : Status :=
  { outcome := .ioFailure, message := "I/O exception - failed to read: " ++ text }

/-- A frame that an event broke off after `count` of `wanted` bytes of a part of it. -/
def truncated (part : String) (count wanted : Nat) (e : Event) : Status :=
  { outcome := .frameTruncated
    message :=
      s!"premature end of stream ({part} truncated after {count} of {wanted} bytes): "
        ++ describe e
    timedOut := e = .timeout }

/-- The report of an event that came after `count` bytes of the head. -/
def headBroken (count : Nat) (e : Event) : Status :=
  match e with
  | .failure error => failed error.message
  | e =>
    if count = 0 then
      { outcome := .connectionClosed
        message := "no frame received: " ++ describe e
        timedOut := e = .timeout }
    else truncated "header" count 6 e

/-- The report of an event that came after `count` bytes of the body. -/
def bodyBroken (count : Nat) (length : UInt16) (e : Event) : Status :=
  match e with
  | .failure error => failed error.message
  | e => truncated "message" count length.toNat e

/-- The body behind a head, and with it the frame. -/
def body (head : List UInt8) (symbols : List InputSymbol) :
    Except Status (List UInt8) × List InputSymbol :=
  let length := wordAt head 4
  match take length.toNat symbols with
  | ⟨bytes, some e, rest⟩ => (.error (bodyBroken bytes.length length e), rest)
  | ⟨bytes, none, rest⟩ =>
    if length < 2 then
      (.error (failed s!"frame of length {length} carries no function code"), rest)
    else (.ok (head ++ bytes), rest)

/-- The next frame. A body that is too long is refused before it is taken. -/
def frame (symbols : List InputSymbol) : Except Status (List UInt8) × List InputSymbol :=
  match take 6 symbols with
  | ⟨bytes, some e, rest⟩ => (.error (headBroken bytes.length e), rest)
  | ⟨head, none, rest⟩ =>
    let length := wordAt head 4
    if limit < length.toNat then
      (.error (failed s!"length field {length} exceeds the maximum of {limit}"), rest)
    else body head rest

/-- The message that a frame spells for the variant that the table has for its eighth byte. -/
def message (table : VariantTable) (role : Role) (bytes : List UInt8) : Result (Message role) :=
  let d := (table.create role (byteAt bytes 7)).decode ⟨bytes, bytes.length, 0⟩
  match d.outcome with
  | .error e => .error (failed ("malformed frame: " ++ e.message))
  | .ok () => .ok d.value

/-- **The reading of one message.** -/
def step (table : VariantTable) (role : Role) (symbols : List InputSymbol) :
    Result (Message role) × List InputSymbol :=
  let (outcome, rest) := frame symbols
  (outcome.bind (message table role), rest)

theorem step_of_failed {symbols rest : List InputSymbol} {status : Status}
    (h : frame symbols = (.error status, rest)) (table : VariantTable) (role : Role) :
    step table role symbols = (.error status, rest) := by
  rw [step, h]
  simp only [Except.bind]

theorem step_of_framed {symbols rest : List InputSymbol} {bytes : List UInt8}
    (h : frame symbols = (.ok bytes, rest)) (table : VariantTable) (role : Role) :
    step table role symbols = (message table role bytes, rest) := by
  rw [step, h]
  simp only [Except.bind]

/-- What a read came to, with the role it was asked for. -/
abbrev Reading := (role : Role) × Result (Message role)

/-- One reading after the other. -/
def run (table : VariantTable) : List Role → List InputSymbol → List Reading × List InputSymbol
  | [], symbols => ([], symbols)
  | role :: roles, symbols =>
    let (outcome, rest) := step table role symbols
    let (readings, rest) := run table roles rest
    (⟨role, outcome⟩ :: readings, rest)

/-! ## Reports -/

open Transport

theorem status_headerBroken {e : Event} {count : Nat} {result : IoResult}
    (h : Ends (some e) count result) :
    (ReadFailure.headerBroken result).status = headBroken count e := by
  obtain ⟨status, bytes, error⟩ := result
  obtain ⟨hcount, hstatus, he⟩ := h
  cases hcount
  rcases status with _ | _ | _ | _ | _
  · exact absurd rfl hstatus
  all_goals
    cases he
    rfl

theorem status_bodyBroken {e : Event} {count : Nat} {result : IoResult}
    (h : Ends (some e) count result) (length : UInt16) :
    (ReadFailure.bodyBroken result length).status = bodyBroken count length e := by
  obtain ⟨status, bytes, error⟩ := result
  obtain ⟨hcount, hstatus, he⟩ := h
  cases hcount
  rcases status with _ | _ | _ | _ | _
  · exact absurd rfl hstatus
  all_goals
    cases he
    rfl

end Framing

/-! ## Frames in a buffer -/

namespace Channel

open Framing InputSymbol Transport

variable {ρ σ : Type} [Transport ρ σ] {r : ρ} {s : σ} {symbols : List InputSymbol} {b : FrameBuffer}

theorem lengthField_eq {head : List UInt8} (h : head.length = 6) :
    lengthField head = wordAt head 4 := by
  match head, h with
  | [_, _, _, _, high, low], _ => rfl

/-- What reading a frame into a buffer leaves behind, against what taking it from the symbols gives:
the same failure, or the same bytes in the buffer and the cursor before them. -/
structure FrameRead (r : ρ) (reference : Except Status (List UInt8) × List InputSymbol)
    (outcome : Except ReadFailure Unit) (b : FrameBuffer) (s : σ) : Prop where
  capacity : b.capacity = 260
  failed : ∀ status, reference.1 = .error status → ∃ f, outcome = .error f ∧ f.status = status
  framed : ∀ bytes, reference.1 = .ok bytes →
    outcome = .ok () ∧ b.WellFormed ∧ b.position = 0 ∧ b.unread = bytes ∧ 8 ≤ bytes.length
  rest : Delivers r s reference.2

theorem FrameRead.of_failed {f : ReadFailure} {status : Status} {rest : List InputSymbol}
    (hcapacity : b.capacity = 260) (hstatus : f.status = status) (hrest : Delivers r s rest) :
    FrameRead r (.error status, rest) (.error f) b s := by
  refine ⟨hcapacity, ?_, nofun, hrest⟩
  rintro _ ⟨rfl⟩
  exact ⟨f, rfl, hstatus⟩

theorem FrameRead.of_framed {bytes : List UInt8} {rest : List InputSymbol}
    (hcapacity : b.capacity = 260) (hb : b.WellFormed) (hposition : b.position = 0)
    (hunread : b.unread = bytes) (hcode : 8 ≤ bytes.length) (hrest : Delivers r s rest) :
    FrameRead r (.ok bytes, rest) (.ok ()) b s := by
  refine ⟨hcapacity, nofun, ?_, hrest⟩
  rintro _ ⟨rfl⟩
  exact ⟨rfl, hb, hposition, hunread, hcode⟩

theorem readBody_of_delivers {head : List UInt8} (h : Delivers r s symbols)
    (hcapacity : b.capacity = 260) (hhead : b.data.take 6 = head) (hlength : head.length = 6)
    (hlimit : (wordAt head 4).toNat ≤ limit) (deadline : Deadline) :
    ∃ outcome b' s', readBody r deadline (wordAt head 4) b s = some (outcome, b', s')
      ∧ FrameRead r (Framing.body head symbols) outcome b' s' := by
  rw [limit] at hlimit
  have hregion : (b.region 6 (wordAt head 4).toNat).length = (wordAt head 4).toNat :=
    FrameBuffer.length_region_of_fits (by omega)
  obtain ⟨result, s', hfill, hends, hrest⟩ :=
    fill_of_delivers h deadline (b.region 6 (wordAt head 4).toNat)
  rw [hregion] at hfill hends hrest
  rw [readBody, Frame.prefixLength, hfill, Framing.body]
  simp only
  rcases htaken : take (wordAt head 4).toNat symbols with ⟨bytes, event, rest⟩
  rw [htaken] at hends hrest
  rcases event with _ | e
  · -- All of the body came, so the store leaves no byte of an earlier frame within the frame.
    have hbytes : bytes.length = (wordAt head 4).toNat := length_of_take htaken
    have hfits : 6 + (wordAt head 4).toNat ≤ (b.store 6 bytes).capacity := by
      rw [FrameBuffer.capacity_store]
      omega
    have hstored : (b.store 6 bytes).data.take (6 + (wordAt head 4).toNat) = head ++ bytes := by
      rw [← hbytes, FrameBuffer.take_store (by omega), hhead]
    rw [overlay_of_length_eq (hbytes.trans hregion.symm), if_neg (not_not.mpr hends.2),
      FrameBuffer.reset, if_neg (Nat.not_lt.mpr hfits)]
    simp only
    by_cases hcode : wordAt head 4 < 2
    · rw [if_pos hcode, if_pos hcode]
      exact ⟨_, _, s', rfl, .of_failed ((b.capacity_store 6 bytes).trans hcapacity) rfl hrest⟩
    · rw [if_neg hcode, if_neg hcode]
      have htwo : 2 ≤ (wordAt head 4).toNat := by
        rw [UInt16.lt_iff_toNat_lt] at hcode
        exact Nat.not_lt.mp hcode
      refine ⟨_, _, s', rfl, .of_framed ((b.capacity_store 6 bytes).trans hcapacity)
        ⟨Nat.zero_le _, hfits⟩ rfl ?_ ?_ hrest⟩
      · rw [FrameBuffer.unread, hstored, List.drop_zero]
      · rw [List.length_append]
        omega
  · simp only
    rw [if_pos hends.2.1]
    exact ⟨_, _, s', rfl,
      .of_failed ((b.capacity_store ..).trans hcapacity) (status_bodyBroken hends _) hrest⟩

theorem readFrame_of_delivers (h : Delivers r s symbols) (hcapacity : b.capacity = 260)
    (deadline : Deadline) :
    ∃ outcome b' s', readFrame r deadline b s = some (outcome, b', s')
      ∧ FrameRead r (Framing.frame symbols) outcome b' s' := by
  have hregion : (b.region 0 6).length = 6 := FrameBuffer.length_region_of_fits (by omega)
  obtain ⟨result, s', hfill, hends, hrest⟩ := fill_of_delivers h deadline (b.region 0 6)
  rw [hregion] at hfill hends hrest
  rw [readFrame, Frame.prefixLength, hfill, Framing.frame]
  simp only
  rcases htaken : take 6 symbols with ⟨head, event, rest⟩
  rw [htaken] at hends hrest
  rcases event with _ | e
  · have hlength : head.length = 6 := length_of_take htaken
    have hstored : (b.store 0 head).data.take 6 = head := by
      have hbuffer : (b.store 0 head).data.take (0 + head.length) = b.data.take 0 ++ head :=
        FrameBuffer.take_store (by omega)
      rwa [hlength, List.take_zero, List.nil_append] at hbuffer
    rw [overlay_of_length_eq (hlength.trans hregion.symm), if_neg (not_not.mpr hends.2),
      lengthField_eq hlength, FrameBuffer.capacity_store, hcapacity, show 260 - 6 = limit from rfl]
    simp only
    by_cases hlimit : limit < (wordAt head 4).toNat
    · rw [if_pos hlimit, if_pos hlimit]
      exact ⟨_, _, s', rfl, .of_failed ((b.capacity_store ..).trans hcapacity) rfl hrest⟩
    · rw [if_neg hlimit, if_neg hlimit]
      exact readBody_of_delivers hrest ((b.capacity_store ..).trans hcapacity) hstored hlength
        (Nat.not_lt.mp hlimit) deadline
  · simp only
    rw [if_pos hends.2.1]
    exact ⟨_, _, s', rfl,
      .of_failed ((b.capacity_store ..).trans hcapacity) (status_headerBroken hends) hrest⟩

/-- A frame that stands in a buffer is decoded as the bytes that it is, whatever stands behind. -/
theorem decodeFrame_of_unread (hb : b.WellFormed) (hposition : b.position = 0)
    {bytes : List UInt8} (hunread : b.unread = bytes) (hcode : 8 ≤ bytes.length)
    (table : VariantTable) (role : Role) :
    (decodeFrame table role b).1.mapError ReadFailure.status = Framing.message table role bytes
      ∧ (decodeFrame table role b).2.capacity = b.capacity := by
  -- The eighth valid byte is the eighth unread one, since the cursor stands at the start.
  have hpeek : b.peek? Frame.codeOffset = some (byteAt bytes 7) := by
    have hvalid : b.valid = bytes := (FrameBuffer.valid_eq_unread hposition).trans hunread
    rw [FrameBuffer.peek?_eq, hvalid, Frame.codeOffset, byteAt, List.getD_eq_getElem?_getD,
      List.getElem?_eq_getElem (show 7 < bytes.length by omega), Option.getD_some]
  rw [decodeFrame, hpeek, Framing.message]
  simp only
  -- Both decodings are the same parse, so the buffers may differ outside of the frame.
  rw [Message.decode_eq hb, Message.decode_eq (FrameBuffer.wellFormed_whole bytes), hunread,
    FrameBuffer.unread_whole]
  simp only [Parsed.behind]
  rcases ((table.create role (byteAt bytes 7)).parse bytes).outcome with cause | done
  · exact ⟨rfl, rfl⟩
  · exact ⟨rfl, rfl⟩

/-! ## Reading -/

/-- A channel that is bound to a connection, and has the buffer that goes with it. -/
def BoundTo (c : Channel ρ) (r : ρ) : Prop :=
  c.connection = some r ∧ ∃ b, c.buffer = some b ∧ b.capacity = 260

theorem boundTo_attach (c : Channel ρ) (r : ρ) : (c.attach r).BoundTo r :=
  ⟨rfl, _, rfl, FrameBuffer.capacity_ofCapacity 260⟩

/-- **A read of a bound channel is a step of the reference.** What earlier reads left in the buffer
plays no part. -/
theorem read_of_delivers {c : Channel ρ} (hc : c.BoundTo r) (h : Delivers r s symbols) (role : Role)
    (start : Instant) :
    ∃ outcome b' s', c.read role start s = some (outcome, { c with buffer := b' }, s')
      ∧ outcome.mapError ReadFailure.status = (step c.table role symbols).1
      ∧ ({ c with buffer := b' } : Channel ρ).BoundTo r
      ∧ Delivers r s' (step c.table role symbols).2 := by
  obtain ⟨hr, b, hb, hcapacity⟩ := hc
  obtain ⟨outcome, b', s', hread, hframe⟩ :=
    readFrame_of_delivers h hcapacity (Deadline.starting c.receiveTimeout start)
  rw [read_eq, hr, hb]
  simp only
  rw [hread]
  have hrest := hframe.rest
  rcases hreference : Framing.frame symbols with ⟨status | bytes, rest⟩
  · have hstep := step_of_failed hreference c.table role
    obtain ⟨f, rfl, rfl⟩ := hframe.failed status (by rw [hreference])
    rw [hreference] at hrest
    rw [hstep]
    exact ⟨.error f, some b', s', rfl, rfl, ⟨rfl, b', rfl, hframe.capacity⟩, hrest⟩
  · have hstep := step_of_framed hreference c.table role
    obtain ⟨rfl, hformed, hposition, hunread, hcode⟩ := hframe.framed bytes (by rw [hreference])
    obtain ⟨hmessage, hkept⟩ := decodeFrame_of_unread hformed hposition hunread hcode c.table role
    rcases hdecoded : decodeFrame c.table role b' with ⟨outcome, b''⟩
    rw [hdecoded] at hmessage hkept
    rw [hreference] at hrest
    simp only [hstep, hdecoded]
    exact ⟨outcome, some b'', s', rfl, hmessage, ⟨rfl, b'', rfl, hkept.trans hframe.capacity⟩,
      hrest⟩

/-- Reads one message after the other, each as a message of its role and with its deadline counting
from its start. No result if one of the reads waits for ever. -/
def readAll : List (Role × Instant) → Channel ρ → σ → Option (List Reading × Channel ρ × σ)
  | [], c, s => some ([], c, s)
  | (role, start) :: calls, c, s => do
    let (outcome, c, s) ← c.read role start s
    let (readings, c, s) ← readAll calls c s
    return (⟨role, outcome.mapError ReadFailure.status⟩ :: readings, c, s)

/-- Reads one after the other, by induction on the reads: what a read leaves is a bound channel and
the rest of the symbols. -/
theorem readAll_of_delivers {c : Channel ρ} (hc : c.BoundTo r) (h : Delivers r s symbols)
    (calls : List (Role × Instant)) :
    ∃ b' s', c.readAll calls s
        = some ((run c.table (calls.map Prod.fst) symbols).1, { c with buffer := b' }, s')
      ∧ ({ c with buffer := b' } : Channel ρ).BoundTo r
      ∧ Delivers r s' (run c.table (calls.map Prod.fst) symbols).2 := by
  induction calls generalizing c s symbols with
  | nil => exact ⟨c.buffer, s, rfl, hc, h⟩
  | cons call calls ih =>
    obtain ⟨role, start⟩ := call
    obtain ⟨outcome, b', s', hread, houtcome, hkept, hrest⟩ := read_of_delivers hc h role start
    obtain ⟨b'', s'', hreadings, hbound, hdelivers⟩ := ih hkept hrest
    refine ⟨b'', s'', ?_, hbound, hdelivers⟩
    rw [readAll, hread]
    simp only [Option.bind_eq_bind, Option.bind_some, Option.pure_def, hreadings, houtcome,
      List.map_cons, run]

/-- **Reading refines the reference.** Let a connection give a sequence of symbols, in whatever
chunks, to a channel that is bound to it, whatever its table, its timeout and the contents of its
buffer. Then any sequence of reads comes to an end, each read gives the value or the status that
the reference gives, and the connection still gives what the reference leaves of the symbols. Of
the channel only the contents of the buffer change. -/
theorem readAll_refines_run {c : Channel ρ} (hr : c.connection = some r) (hb : c.buffer = some b)
    (hcapacity : b.capacity = Frame.maximumLength) (h : Delivers r s symbols)
    (calls : List (Role × Instant)) :
    let reference := run c.table (calls.map Prod.fst) symbols
    ∃ b' s', c.readAll calls s = some (reference.1, { c with buffer := some b' }, s')
      ∧ b'.capacity = Frame.maximumLength ∧ Delivers r s' reference.2 := by
  intro reference
  obtain ⟨_, s', hread, ⟨_, b', rfl, hkept⟩, hrest⟩ :=
    readAll_of_delivers ⟨hr, b, hb, hcapacity⟩ h calls
  exact ⟨b', s', hread, hkept, hrest⟩

/-- A request in three chunks that split its fields, two bytes before a timeout, and the end, read
into a buffer that is full of other bytes. -/
theorem readAll_refines_run_chunks :
    let s : Script :=
      { reads := [.data [0, 1, 0], .data [0, 0, 6, 0x11, 3, 0], .data [0x6B, 0, 3, 0, 2],
          .result .expired] }
    let b : FrameBuffer := ⟨List.replicate 260 0xFF, 11, 4⟩
    let c : Channel Unit := { receiveTimeout := 50, connection := some (), buffer := some b }
    c.connection = some () ∧ c.buffer = some b ∧ b.capacity = Frame.maximumLength
      ∧ Delivers () s s.symbols
      ∧ ∃ b' s', c.readAll [(.request, ⟨0⟩), (.request, ⟨9⟩), (.response, ⟨10⟩)] s
          = some ([⟨.request, .ok ⟨⟨1, 0, 0x11⟩, 3, .readRegisters 0x6B 3⟩⟩,
              ⟨.request, .error (truncated "header" 2 6 .timeout)⟩,
              ⟨.response, .error (headBroken 0 .endOfStream)⟩], { c with buffer := some b' }, s')
        ∧ Delivers () s' [] := by
  intro s b c
  have hr : c.connection = some () := rfl
  have hb : c.buffer = some b := rfl
  have hcapacity : b.capacity = Frame.maximumLength := List.length_replicate
  have hdelivers : Delivers () s s.symbols := Script.delivers (by decide)
  obtain ⟨b', s', hread, _, hrest⟩ := readAll_refines_run hr hb hcapacity hdelivers
    [(.request, ⟨0⟩), (.request, ⟨9⟩), (.response, ⟨10⟩)]
  exact ⟨hr, hb, hcapacity, hdelivers, b', s', hread, hrest⟩

end Channel

end ModbusTcp
