import ModbusTcp.Proofs.Bounds

/-!
Reading a message never touches what is not there.

The code that reads a frame (`ReadFrame`) and takes it apart (`DecodeFrom`) asks for regions of the
buffer, looks at single bytes of it and subtracts unsigned numbers, and checks little of this again.
Here the same steps are made once more with a check in front of each of these accesses: one that is
not granted ends the reading, with the access as its result. Where the code has a branch for an
access that fails, or for a value that is not there, the checked steps have none.

Step by step the checked reading gives what the reading gives (`readBodyChecked_eq` up to
`readChecked_eq`), so every access on the way is granted, and the branches that are left out are
never taken. The main statement is `Channel.read_stays_within`.
-/

set_option autoImplicit false

namespace ModbusTcp

/-! ## Accesses -/

/-- Something that is only in order under a condition. -/
inductive Access where
  /-- Asks for a region of the buffer. -/
  | region (b : FrameBuffer) (offset count : Nat)
  /-- Looks at some bytes of a region. -/
  | bytes (region : List UInt8) (offset count : Nat)
  /-- Declares the first bytes of the buffer valid. -/
  | reset (b : FrameBuffer) (length : Nat)
  /-- Looks at a valid byte. -/
  | peek (b : FrameBuffer) (offset : Nat)
  /-- Subtracts unsigned numbers. -/
  | difference (minuend subtrahend : Nat)
  deriving DecidableEq, Repr

/-- What a checked operation gives: a value, or the first access that is not in order. Nothing if a
read waits for ever. -/
abbrev Checked (α : Type) := Option (Except Access α)

namespace Checked

variable {α β : Type}

/-- A value, where every access was in order. -/
def value (v : α) : Checked α := some (.ok v)

/-- Goes on with the value, if there is one. -/
def andThen (x : Checked α) (next : α → Checked β) : Checked β :=
  match x with
  | none => none
  | some (.error a) => some (.error a)
  | some (.ok v) => next v

theorem andThen_map_ok (x : Option α) (next : α → Checked β) :
    andThen (x.map .ok) next = x.bind next := by
  cases x <;> rfl

end Checked

namespace Access

/-- Whether an access gets what it asks for, and no difference wraps around. -/
def granted : Access → Bool
  | .region b offset count => (b.region offset count).length = count
  | .bytes available offset count => offset + count ≤ available.length
  | .reset b length => (b.reset length).1
  | .peek b offset => (b.peek? offset).isSome
  | .difference minuend subtrahend => subtrahend ≤ minuend

/-- Goes on if the access is granted. -/
def before {α : Type} (a : Access) (next : Checked α) : Checked α :=
  if a.granted then next else some (.error a)

variable {α : Type} (next : Checked α)

theorem before_of_granted {a : Access} (h : a.granted = true) : a.before next = next := if_pos h

theorem before_region {b : FrameBuffer} {offset count : Nat} (h : offset + count ≤ b.capacity) :
    (region b offset count).before next = next :=
  before_of_granted next (decide_eq_true (FrameBuffer.length_region_of_fits h))

theorem before_bytes {available : List UInt8} {offset count : Nat}
    (h : offset + count ≤ available.length) : (bytes available offset count).before next = next :=
  before_of_granted next (decide_eq_true h)

theorem before_reset {b : FrameBuffer} {length : Nat} (h : length ≤ b.capacity) :
    (reset b length).before next = next :=
  before_of_granted next ((b.reset_fst length).trans (decide_eq_true h))

theorem before_peek {b : FrameBuffer} {offset : Nat} (h : (b.peek? offset).isSome = true) :
    (peek b offset).before next = next :=
  before_of_granted next h

theorem before_difference {minuend subtrahend : Nat} (h : subtrahend ≤ minuend) :
    (difference minuend subtrahend).before next = next :=
  before_of_granted next (decide_eq_true h)

end Access

/-! ## Checked decoding -/

namespace Message

variable {role : Role}

/-- `decodePayload` with checks: of the number of bytes that the variant took, and of the number
that it left. -/
def decodePayloadChecked (m : Message role) (header : Header) (code : UInt8) (size : Nat)
    (b : FrameBuffer) : Checked (Decoded (Message role)) :=
  let d := m.payload.decode size b
  let message : Message role := { header, code, payload := d.value }
  match d.outcome with
  | .error e => .value (.failure e message d.buffer)
  | .ok () =>
    (Access.difference d.buffer.position b.position).before <|
    let taken := d.buffer.position - b.position
    if taken ≠ size then
      (Access.difference size taken).before <|
      .value (.failure (.unexpectedBytes code size taken) message d.buffer)
    else .value (.success message d.buffer)

/-- `decode` with checks: of the number of payload bytes that the length field announces, and of the
number of bytes that are left. -/
def decodeChecked (m : Message role) (b : FrameBuffer) : Checked (Decoded (Message role)) :=
  let (transaction?, b) := b.readWord?
  let (protocol?, b) := b.readWord?
  let (length?, b) := b.readWord?
  let (unit?, b) := b.readByte?
  let (code?, b) := b.readByte?
  match transaction?, protocol?, length?, unit?, code? with
  | some transaction, some protocol, some length, some unit, some code =>
    if length < 2 then .value (.failure (.lengthTooSmall length) m b)
    else
      (Access.difference length.toNat 2).before <|
      (Access.difference b.size b.position).before <|
      let size := length.toNat - 2
      if b.remaining < size then .value (.failure (.payloadMissing size b.remaining) m b)
      else m.decodePayloadChecked { transaction, protocol, unit } code size b
  | _, _, _, _, _ => .value (.failure .headerTruncated m b)

end Message

/-! ## Checked reading -/

namespace Channel

open Transport

variable {ρ σ : Type} [Transport ρ σ]

/-- `readBody` with checks: of the region for the body, and of the frame that becomes valid. -/
def readBodyChecked (r : ρ) (deadline : Deadline) (length : UInt16) (b : FrameBuffer) (s : σ) :
    Checked (Except ReadFailure Unit × FrameBuffer × σ) :=
  (Access.region b Frame.prefixLength length.toNat).before <|
  match fill r deadline (b.region Frame.prefixLength length.toNat) s with
  | none => none
  | some (result, body, s) =>
    let b := b.store Frame.prefixLength body
    if result.status ≠ .ok then .value (.error (.bodyBroken result length), b, s)
    else
      (Access.reset b (Frame.prefixLength + length.toNat)).before <|
      let b := (b.reset (Frame.prefixLength + length.toNat)).2
      if length < 2 then .value (.error (.noFunctionCode length), b, s)
      else .value (.ok (), b, s)

/-- `readFrame` with checks: of the region for the head, of the length field in it, and of the
longest body that the buffer has room for. -/
def readFrameChecked (r : ρ) (deadline : Deadline) (b : FrameBuffer) (s : σ) :
    Checked (Except ReadFailure Unit × FrameBuffer × σ) :=
  (Access.region b 0 Frame.prefixLength).before <|
  match fill r deadline (b.region 0 Frame.prefixLength) s with
  | none => none
  | some (result, head, s) =>
    let b := b.store 0 head
    if result.status ≠ .ok then .value (.error (.headerBroken result), b, s)
    else
      (Access.bytes head Frame.lengthOffset 2).before <|
      (Access.difference b.capacity Frame.prefixLength).before <|
      let length := lengthField head
      let limit := b.capacity - Frame.prefixLength
      if limit < length.toNat then .value (.error (.lengthTooLarge length limit), b, s)
      else readBodyChecked r deadline length b s

/-- `decodeFrame` with checks: of the function code that is looked at, and of those of the
decoding. -/
def decodeFrameChecked (table : VariantTable) (role : Role) (b : FrameBuffer) :
    Checked (Except ReadFailure (Message role) × FrameBuffer) :=
  (Access.peek b Frame.codeOffset).before <|
  let code := (b.peek? Frame.codeOffset).getD 0
  ((table.create role code).decodeChecked b).andThen fun d =>
    match d.outcome with
    | .error cause => .value (.error (.malformed cause), d.buffer)
    | .ok () => .value (.ok d.value, d.buffer)

/-- `read` with the checks of all its steps. -/
def readChecked (role : Role) (start : Instant) (c : Channel ρ) (s : σ) :
    Checked (Except ReadFailure (Message role) × Channel ρ × σ) :=
  match c.admission start with
  | none => .value (.error .unbound, c, s)
  | some a =>
    (readFrameChecked a.connection a.deadline a.buffer s).andThen fun (outcome, b, s) =>
      match outcome with
      | .error e => .value (.error e, { c with buffer := some b }, s)
      | .ok () =>
        (decodeFrameChecked c.table role b).andThen fun (outcome, b) =>
          .value (outcome, { c with buffer := some b }, s)

end Channel

/-! ## Nothing is decoded from outside -/

namespace Message

variable {role : Role} {b : FrameBuffer}

/-- The payload decoder takes no bytes back. -/
theorem position_le_decode (hb : b.WellFormed) (old : Payload role) (size : Nat) :
    b.position ≤ (old.decode size b).buffer.position := by
  obtain ⟨n, -, hn⟩ := (old.leads_decode size b).advance hb
  rw [hn]
  exact Nat.le_add_right _ _

theorem decodePayloadChecked_eq (hb : b.WellFormed) (m : Message role) (header : Header)
    (code : UInt8) {size : Nat}
    (htaken : (m.payload.decode size b).outcome = .ok () →
      (m.payload.decode size b).buffer.position - b.position ≤ size) :
    m.decodePayloadChecked header code size b = .value (m.decodePayload header code size b) := by
  have hposition := position_le_decode hb m.payload size
  unfold decodePayloadChecked decodePayload
  simp only
  cases houtcome : (m.payload.decode size b).outcome with
  | error e => rfl
  | ok done =>
    simp only
    rw [Access.before_difference _ hposition]
    split
    · rw [Access.before_difference _ (htaken houtcome)]
    · rfl

/-- Of a header that is too short both make the same. Behind a whole header the checks are in order,
if the payload decoder does not take more bytes than are announced. -/
theorem decodeChecked_eq (hb : b.WellFormed) (m : Message role)
    (htaken : ∀ size, size = (wordAt b.unread 4).toNat - 2 → 8 + size ≤ b.unread.length →
      (m.payload.decode size (b.advance 8)).outcome = .ok () →
      (m.payload.decode size (b.advance 8)).buffer.position - (b.advance 8).position ≤ size) :
    m.decodeChecked b = .value (m.decode b) := by
  have hremaining : b.remaining = b.unread.length := (FrameBuffer.length_unread hb).symm
  by_cases hshort : b.unread.length < 8
  · rw [decode_of_short hb hshort, decodeChecked]
    generalize hn : b.unread.length = n at hshort hremaining
    -- For each length another field is the first that is missing, and a later byte may be there.
    match n with
    | 0 | 1 | 2 | 3 | 4 | 5 | 6 | 7 =>
      simp (disch := ((try simp only [FrameBuffer.remaining_advance]); omega)) only
        [FrameBuffer.readWord?_of_le, FrameBuffer.readByte?_of_le, FrameBuffer.readWord?_advance,
          FrameBuffer.readByte?_advance, FrameBuffer.readWord?_of_remaining_lt,
          FrameBuffer.readByte?_of_remaining_lt, Nat.reduceAdd, FrameBuffer.advance_zero]
    | n + 8 => omega
  · have hbehind : (b.advance 8).WellFormed := hb.advance (by omega)
    rw [decodeChecked, decode, FrameBuffer.readWord?_of_le (by omega)]
    simp (disch := omega) only [FrameBuffer.readWord?_advance, FrameBuffer.readByte?_advance,
      Nat.reduceAdd]
    split
    · rfl
    · rename_i hlength
      have htwo : 2 ≤ (wordAt b.unread 4).toNat := by
        rw [UInt16.lt_iff_toNat_lt] at hlength
        exact Nat.le_of_not_lt hlength
      rw [Access.before_difference _ htwo, Access.before_difference _ hbehind.1]
      split
      · rfl
      · rename_i hpresent
        rw [FrameBuffer.remaining_advance] at hpresent
        exact decodePayloadChecked_eq hbehind m _ _ (htaken _ rfl (by omega))

/-- A variant of the library takes what is announced, or fails. -/
theorem decodeChecked_of_library (hb : b.WellFormed) {m : Message role}
    (hm : m.variant.IsLibrary) : m.decodeChecked b = .value (m.decode b) := by
  refine decodeChecked_eq hb m fun size _ hpresent hok => ?_
  have hrest : size ≤ (b.advance 8).unread.length := by
    rw [FrameBuffer.unread_advance, List.length_drop]
    omega
  have hbehind : (b.advance 8).WellFormed := by
    refine hb.advance ?_
    rw [← FrameBuffer.length_unread hb]
    omega
  have hdecode := Payload.decode_eq hbehind hrest m.payload
  rw [hdecode] at hok ⊢
  rcases Payload.settles_parse hm hrest with ⟨-, htaken⟩ | ⟨e, hfailed, -⟩
  · rw [Parsed.behind, htaken]
    exact Nat.le_of_eq (Nat.add_sub_cancel_left ..)
  · rw [Parsed.behind, hfailed] at hok
    cases hok

/-- Any variant takes no more than there is, which in a frame that was read is what is announced. -/
theorem decodeChecked_of_frameIn (hb : Channel.FrameIn b) (m : Message role) :
    m.decodeChecked b = .value (m.decode b) := by
  obtain ⟨hbehind, hremaining⟩ := hb.behind_header
  refine decodeChecked_eq hb.formed m fun size hsize _ _ => ?_
  obtain ⟨n, hn, htaken⟩ := (m.payload.leads_decode size (b.advance 8)).advance hbehind
  rw [htaken, FrameBuffer.advance, Nat.add_sub_cancel_left, hsize, ← hremaining]
  exact hn

end Message

/-! ## Nothing is read from outside -/

namespace Channel

open Transport

variable {ρ σ : Type} [Transport ρ σ] {r : ρ} {c : Channel ρ} {b : FrameBuffer} {role : Role}

theorem decodeFrameChecked_eq (hb : FrameIn b) (table : VariantTable) (role : Role) :
    decodeFrameChecked table role b = .value (decodeFrame table role b) := by
  obtain ⟨code, hcode⟩ := Option.isSome_iff_exists.mp hb.peek_code
  rw [decodeFrameChecked, Access.before_peek _ hb.peek_code, decodeFrame, hcode]
  simp only [Option.getD_some]
  rw [Message.decodeChecked_of_frameIn hb]
  obtain ⟨_ | _, value, b'⟩ := (table.create role code).decode b
  · rfl
  · rfl

theorem readBodyChecked_eq (hcapacity : b.capacity = 260) {length : UInt16}
    (hlimit : length.toNat ≤ 254) (r : ρ) (deadline : Deadline) (s : σ) :
    readBodyChecked r deadline length b s = (readBody r deadline length b s).map .ok := by
  have hfits : Frame.prefixLength + length.toNat ≤ b.capacity := by
    rw [hcapacity, Frame.prefixLength]
    omega
  unfold readBodyChecked readBody
  rw [Access.before_region _ hfits]
  rcases fill r deadline (b.region Frame.prefixLength length.toNat) s with _ | ⟨result, body, s'⟩
  · rfl
  · have hkept : Frame.prefixLength + length.toNat
        ≤ (b.store Frame.prefixLength body).capacity := by
      rwa [FrameBuffer.capacity_store]
    simp only
    split
    · rfl
    · rw [Access.before_reset _ hkept]
      simp only [FrameBuffer.reset, if_neg (Nat.not_lt.mpr hkept)]
      split <;> rfl

theorem readFrameChecked_eq (hcapacity : b.capacity = 260) (r : ρ) (deadline : Deadline) (s : σ) :
    readFrameChecked r deadline b s = (readFrame r deadline b s).map .ok := by
  have hfits : 0 + Frame.prefixLength ≤ b.capacity := by
    rw [hcapacity]
    decide
  unfold readFrameChecked readFrame
  rw [Access.before_region _ hfits]
  rcases hfill : fill r deadline (b.region 0 Frame.prefixLength) s with _ | ⟨result, head, s'⟩
  · rfl
  · have hkept : (b.store 0 head).capacity = 260 := (b.capacity_store ..).trans hcapacity
    have hlength : Frame.lengthOffset + 2 ≤ head.length := by
      rw [length_of_fill hfill, FrameBuffer.length_region_of_fits hfits]
      decide
    simp only
    split
    · rfl
    · rw [Access.before_bytes _ hlength, Access.before_difference _ (by rw [hkept]; decide)]
      split
      · rfl
      · rename_i hlimit
        rw [hkept, Frame.prefixLength] at hlimit
        exact readBodyChecked_eq hkept (by omega) r deadline s'

/-- **Every access of a read is granted.** -/
theorem readChecked_eq (hc : c.BoundTo r) (role : Role) (start : Instant) (s : σ) :
    c.readChecked role start s = (c.read role start s).map .ok := by
  obtain ⟨hr, b, hb, hcapacity⟩ := hc
  -- The checks of the decoding need a frame that was read; behind a failure nothing is decoded.
  rw [readChecked, read, admission_of_bound hr hb]
  simp only
  rw [readFrameChecked_eq hcapacity, Checked.andThen_map_ok, Admission.receive]
  rcases hframe : readFrame r (.starting c.receiveTimeout start) b s with _ | ⟨e | done, b', s'⟩
  · rfl
  · rfl
  · have hin : FrameIn b' := (frameOutcome_of_readFrame hcapacity hframe).framed rfl
    simp only [Option.bind_some]
    rw [decodeFrameChecked_eq hin]
    rfl

/-- What a read comes to that got a whole frame: two fillings put it into the buffer, and its
message was decoded there, with success or without. -/
def DecodedFrom (c : Channel ρ) (r : ρ) (deadline : Deadline) (b : FrameBuffer) (s : σ)
    (outcome : Except ReadFailure (Message role)) (c' : Channel ρ) (s' : σ) : Prop :=
  ∃ framed head body, FrameFilled r deadline b s framed s' head body
    ∧ outcome = (decodeFrame c.table role framed).1
    ∧ c'.buffer = some (decodeFrame c.table role framed).2

/-- A read fails before there is a frame, or gets one. -/
theorem decodedFrom_of_read (hr : c.connection = some r) (hb : c.buffer = some b)
    (hcapacity : b.capacity = 260) {start : Instant} {s s' : σ}
    {outcome : Except ReadFailure (Message role)} {c' : Channel ρ}
    (h : c.read role start s = some (outcome, c', s')) :
    (∃ f, outcome = .error f ∧ f ≠ .doesNotFit ∧ ∀ cause, f ≠ .malformed cause)
      ∨ DecodedFrom c r (.starting c.receiveTimeout start) b s outcome c' s' := by
  rw [read_eq_readFrame hr hb] at h
  obtain ⟨⟨framed, b', s₁⟩, hframe, heq⟩ := Option.map_eq_some_iff.mp h
  cases heq
  rcases readFrame_cases hcapacity hframe with ⟨f, rfl, hfailed⟩ | ⟨rfl, head, body, hfilled⟩
  · exact .inl ⟨f, rfl, hfailed⟩
  · exact .inr ⟨b', head, body, hfilled, rfl, rfl⟩

/-- **Reading a message never touches what is not there.** Take a bound channel, any connection and
any variants, those of the user's own among them.

The read with a check in front of each access gives what the read gives: so both regions have the
size that was asked for, the frame fits the buffer, it has a function code, and no difference wraps
around. What the read gives is never that the frame does not fit or is too short for its header. If
it got as far as decoding, the head was filled into the first six bytes of the buffer and the body
into just as many behind it as the head announces.

What a decoder does to a buffer, the readers of the buffer do, and wherever these lead, the cursor
stands within the valid bytes. A variant of the library finds all fields that it takes and leaves
none, in every buffer and wherever the cursor stands there. -/
theorem read_stays_within (hr : c.connection = some r) (hb : c.buffer = some b)
    (hcapacity : b.capacity = Frame.maximumLength) (role : Role) (start : Instant) (s : σ) :
    c.readChecked role start s = (c.read role start s).map .ok
      ∧ (∀ outcome c' s', c.read role start s = some (outcome, c', s') →
        outcome ≠ .error .doesNotFit ∧ (∀ e, outcome = .error (.malformed e) → e.Within)
          ∧ c'.BoundTo r
          ∧ ((∃ m, outcome = .ok m) ∨ (∃ e, outcome = .error (.malformed e)) →
            DecodedFrom c r (.starting c.receiveTimeout start) b s outcome c' s'))
      ∧ ∀ (m : Message role) (b : FrameBuffer), b.WellFormed →
        b.Leads (m.decode b).buffer ∧ (∀ b', b.Leads b' → b'.position ≤ b'.size)
          ∧ (m.variant.IsLibrary → m.decodeChecked b = .value (m.decode b)
            ∧ ∀ e, (m.decode b).outcome = .error e → e.OfLibrary) := by
  have hbound : c.BoundTo r := ⟨hr, b, hb, hcapacity⟩
  refine ⟨readChecked_eq hbound role start s, ?_, ?_⟩
  · intro outcome c' s' hread
    have hleft := (read_leaves hbound hread).2.1
    -- A read that failed before there was a frame has nothing to say of decoding.
    rcases decodedFrom_of_read hr hb hcapacity hread with ⟨f, rfl, hfits, hundecoded⟩ | hdecoded
    · refine ⟨fun h => hfits (Except.error.inj h), ?_, hleft, ?_⟩
      · intro e he
        exact absurd (Except.error.inj he) (hundecoded e)
      · rintro (⟨m, hm⟩ | ⟨e, he⟩)
        · cases hm
        · exact absurd (Except.error.inj he) (hundecoded e)
    · have hframed := hdecoded
      obtain ⟨framed, head, body, hfilled, houtcome, -⟩ := hdecoded
      obtain ⟨hfits, hwithin⟩ := decodeFrame_within hfilled.frameIn c.table role
      rw [← houtcome] at hfits hwithin
      exact ⟨hfits, hwithin, hleft, fun _ => hframed⟩
  · intro m b hformed
    refine ⟨m.leads_decode b, ?_, ?_⟩
    · intro b' hleads
      obtain ⟨n, hn, rfl⟩ := hleads.advance hformed
      exact (hformed.advance hn).1
    · intro hm
      exact ⟨Message.decodeChecked_of_library hformed hm,
        fun e he => Message.decode_of_library hformed hm he⟩

set_option maxRecDepth 2000 in
/-- A variant of the user's own that takes one byte of two, in a buffer full of other bytes: the
read reports the byte that is left. -/
theorem read_stays_within_custom :
    let s : Script := { reads := [.data [0, 1, 0], .data [0, 0, 4, 0x11, 0x41, 7, 8]] }
    let b : FrameBuffer := ⟨List.replicate 260 0xFF, 11, 4⟩
    let custom : Message .request := { code := 0x41, payload := .custom [] { consume := some 1 } }
    let c : Channel Unit :=
      { table := .register .standard 0x41 (.builds custom)
        connection := some (), buffer := some b }
    let outcome : Except ReadFailure (Message .request) :=
      .error (.malformed (.unexpectedBytes 0x41 2 1))
    c.connection = some () ∧ c.buffer = some b ∧ b.capacity = Frame.maximumLength
      ∧ ∃ c', c.read .request ⟨0⟩ s = some (outcome, c', {})
        ∧ c.readChecked .request ⟨0⟩ s = some (.ok (outcome, c', {})) ∧ c'.BoundTo ()
        ∧ ∃ framed, FrameFilled () none b s framed ({} : Script) [0, 1, 0, 0, 0, 4]
          [0x11, 0x41, 7, 8] := by
  intro s b custom c outcome
  have hcapacity : b.capacity = Frame.maximumLength := List.length_replicate
  have hread : (c.read .request ⟨0⟩ s).map (fun (outcome, _, s') => (outcome, s'))
      = some (outcome, {}) := by cbv
  obtain ⟨⟨outcome', c', s'⟩, hread, hpair⟩ := Option.map_eq_some_iff.mp hread
  cases hpair
  obtain ⟨hchecked, hwithin, -⟩ :=
    read_stays_within (c := c) rfl rfl hcapacity .request ⟨0⟩ s
  obtain ⟨-, -, hbound, hdecoded⟩ := hwithin _ _ _ hread
  obtain ⟨framed, head, body, hfilled, -, -⟩ := hdecoded (.inr ⟨_, rfl⟩)
  -- What was filled in can be computed, now that it is known where it was.
  have hhead : fill () none (b.region 0 6) s
      = some (.transferred 6, [0, 1, 0, 0, 0, 4], { reads := [.data [0x11, 0x41, 7, 8]] }) := by
    cbv
  have hbody : fill () none ((b.store 0 [0, 1, 0, 0, 0, 4]).region 6 4)
      ({ reads := [.data [0x11, 0x41, 7, 8]] } : Script)
      = some (.transferred 4, [0x11, 0x41, 7, 8], {}) := by
    cbv
  have hnone : Deadline.starting c.receiveTimeout ⟨0⟩ = none := if_pos (by decide)
  rw [hnone] at hfilled
  obtain ⟨result, s₁, result', hfirst, -, hsecond, -⟩ := hfilled.fillings
  rw [hhead] at hfirst
  cases hfirst
  cases hbody.symm.trans hsecond
  rw [hread] at hchecked
  exact ⟨rfl, rfl, hcapacity, c', hread, hchecked, hbound, framed, hfilled⟩

end Channel

end ModbusTcp
