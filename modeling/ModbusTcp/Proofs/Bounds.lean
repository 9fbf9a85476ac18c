import ModbusTcp.Proofs.Calls

/-!
What keeps the reading of a message within its bounds.

The readers of a buffer (`ReadU8`, `ReadU16`, `ReadBytes`), called in any order, lead its cursor to
no place outside the valid bytes (`FrameBuffer.Leads`), and a decoder does nothing to a buffer but
call readers (`Message.leads_decode`). A frame that was read (`ReadFrame`) is made of two fillings
of just the announced sizes (`Channel.FrameFilled`), so it stands in the buffer whole
(`Channel.FrameIn`), and its header has nothing left to complain about.

The decoders of the library check the number of payload bytes once and then take as many
(`Payload.settles_parse`), so none of them misses a field or leaves a byte (`decode_of_library`).
-/

set_option autoImplicit false

namespace ModbusTcp

/-! ## Cursors -/

namespace FrameBuffer

/-- The buffers to which the readers lead from a buffer, called in any order and number and with any
outcome. -/
inductive Leads (b : FrameBuffer) : FrameBuffer → Prop where
  | start : Leads b b
  | byte {b' : FrameBuffer} : Leads b b' → Leads b b'.readByte?.2
  | word {b' : FrameBuffer} : Leads b b' → Leads b b'.readWord?.2
  | bytes {b' : FrameBuffer} (count : Nat) : Leads b b' → Leads b (b'.readBytes? count).2
  | skip {b' : FrameBuffer} (count : Nat) : Leads b b' → Leads b (b'.skip count).2
  | rest {b' : FrameBuffer} : Leads b b' → Leads b b'.readRemaining.2

/-- A reader leaves the buffer as it is, or moves its cursor within the valid bytes. -/
theorem readers_advance (b : FrameBuffer) (hb : b.WellFormed) :
    (∃ n ≤ b.remaining, b.readByte?.2 = b.advance n)
      ∧ (∃ n ≤ b.remaining, b.readWord?.2 = b.advance n)
      ∧ (∀ count, ∃ n ≤ b.remaining, (b.readBytes? count).2 = b.advance n)
      ∧ (∀ count, ∃ n ≤ b.remaining, (b.skip count).2 = b.advance n)
      ∧ ∃ n ≤ b.remaining, b.readRemaining.2 = b.advance n := by
  have hnone : ∃ n ≤ b.remaining, b = b.advance n := ⟨0, Nat.zero_le _, rfl⟩
  refine ⟨?_, ?_, ?_, ?_, ?_⟩
  · unfold readByte?
    split
    · exact hnone
    · split
      · exact ⟨1, by omega, rfl⟩
      · exact hnone
  · unfold readWord?
    split
    · exact hnone
    · split
      · exact ⟨2, by omega, rfl⟩
      · exact hnone
  · intro count
    unfold readBytes?
    split
    · exact hnone
    · exact ⟨count, by omega, rfl⟩
  · intro count
    unfold skip
    split
    · exact hnone
    · exact ⟨count, by omega, rfl⟩
  · refine ⟨b.unread.length, b.length_unread_le, ?_⟩
    rw [readRemaining_eq hb]

theorem Leads.trans {b b' b'' : FrameBuffer} (h : b.Leads b') (h' : b'.Leads b'') :
    b.Leads b'' := by
  induction h' with
  | start => exact h
  | byte _ ih => exact ih.byte
  | word _ ih => exact ih.word
  | bytes count _ ih => exact ih.bytes count
  | skip count _ ih => exact ih.skip count
  | rest _ ih => exact ih.rest

/-- **The cursor never leaves the valid bytes,** whatever readers are called. -/
theorem Leads.advance {b b' : FrameBuffer} (h : Leads b b') (hb : b.WellFormed) :
    ∃ n ≤ b.remaining, b' = b.advance n := by
  have hnext : ∀ {n : Nat} {b'' : FrameBuffer}, n ≤ b.remaining →
      (∃ k ≤ (b.advance n).remaining, b'' = (b.advance n).advance k) →
      ∃ n ≤ b.remaining, b'' = b.advance n := by
    rintro n _ hn ⟨k, hk, rfl⟩
    rw [remaining_advance] at hk
    exact ⟨n + k, by omega, advance_advance b n k⟩
  induction h with
  | start => exact ⟨0, Nat.zero_le _, rfl⟩
  | byte _ ih =>
    obtain ⟨n, hn, rfl⟩ := ih
    exact hnext hn ((b.advance n).readers_advance (hb.advance hn)).1
  | word _ ih =>
    obtain ⟨n, hn, rfl⟩ := ih
    exact hnext hn ((b.advance n).readers_advance (hb.advance hn)).2.1
  | bytes count _ ih =>
    obtain ⟨n, hn, rfl⟩ := ih
    exact hnext hn (((b.advance n).readers_advance (hb.advance hn)).2.2.1 count)
  | skip count _ ih =>
    obtain ⟨n, hn, rfl⟩ := ih
    exact hnext hn (((b.advance n).readers_advance (hb.advance hn)).2.2.2.1 count)
  | rest _ ih =>
    obtain ⟨n, hn, rfl⟩ := ih
    exact hnext hn ((b.advance n).readers_advance (hb.advance hn)).2.2.2.2

end FrameBuffer

namespace Channel

open Transport

variable {ρ σ : Type} [Transport ρ σ]

/-! ## A frame that was read -/

/-- A region keeps its size when it is filled, whatever the reads report. -/
theorem length_of_fillsTo {r : ρ} {deadline : Deadline} {filled : Nat} {region : List UInt8} {s : σ}
    {out : IoResult × List UInt8 × σ} (h : FillsTo r deadline filled region s out) :
    out.2.1.length = region.length := by
  induction h with
  | full | failed | idle => rfl
  | more _ _ _ _ _ ih =>
    -- The loop goes on with bytes of the region overwritten.
    rw [ih, List.length_append, length_overlay, ← List.length_append, List.take_append_drop]

theorem length_of_fill {r : ρ} {deadline : Deadline} {region region' : List UInt8} {s s' : σ}
    {result : IoResult} (h : fill r deadline region s = some (result, region', s')) :
    region'.length = region.length :=
  length_of_fillsTo (fillFrom_eq_some_iff.mp h)

/-- A whole frame before the cursor: as many bytes as the length field announces, a function code
among them. -/
structure FrameIn (b : FrameBuffer) : Prop where
  formed : b.WellFormed
  position : b.position = 0
  length : b.unread.length = 6 + (wordAt b.unread 4).toNat
  code : 2 ≤ (wordAt b.unread 4).toNat

/-- What reading a frame comes to: the buffer is never too small for a frame that was read, nothing
is decoded yet, and a success leaves a whole frame. -/
structure FrameOutcome (outcome : Except ReadFailure Unit) (b : FrameBuffer) : Prop where
  fits : outcome ≠ .error .doesNotFit
  undecoded : ∀ cause, outcome ≠ .error (.malformed cause)
  framed : outcome = .ok () → FrameIn b

theorem FrameOutcome.of_failure {f : ReadFailure} (hfits : f ≠ .doesNotFit)
    (hundecoded : ∀ cause, f ≠ .malformed cause) (b : FrameBuffer) : FrameOutcome (.error f) b where
  fits h := hfits (Except.error.inj h)
  undecoded cause h := hundecoded cause (Except.error.inj h)
  framed h := by cases h

theorem FrameOutcome.of_frameIn {b : FrameBuffer} (h : FrameIn b) : FrameOutcome (.ok ()) b where
  fits h := by cases h
  undecoded _ h := by cases h
  framed _ := h

section Frame

variable {r : ρ} {deadline : Deadline} {b b' : FrameBuffer} {s s' : σ}
  {outcome : Except ReadFailure Unit}

/-- A body that was read stands behind the head, and the two are all that is valid. Otherwise the
connection failed, or the body is too short for a function code. -/
theorem readBody_cases {length : UInt16} (hcapacity : b.capacity = 260)
    (hlimit : length.toNat ≤ 254)
    (h : readBody r deadline length b s = some (outcome, b', s')) :
    (∃ f, outcome = .error f ∧ f ≠ .doesNotFit ∧ ∀ cause, f ≠ .malformed cause)
    ∨ outcome = .ok () ∧ ∃ result body,
      fill r deadline (b.region 6 length.toNat) s = some (result, body, s') ∧ result.status = .ok
      ∧ body.length = length.toNat ∧ 2 ≤ length.toNat
      ∧ b'.WellFormed ∧ b'.position = 0 ∧ b'.unread = b.data.take 6 ++ body := by
  unfold readBody at h
  split at h
  · cases h
  · rename_i result body s₁ hfill
    rw [Frame.prefixLength] at hfill h
    have hbody : body.length = length.toNat := by
      rw [length_of_fill hfill, FrameBuffer.length_region_of_fits (by omega)]
    have hfits : 6 + length.toNat ≤ (b.store 6 body).capacity := by
      rw [FrameBuffer.capacity_store]
      omega
    have hstored : (b.store 6 body).data.take (6 + length.toNat) = b.data.take 6 ++ body := by
      rw [← hbody, FrameBuffer.take_store (by omega)]
    simp only [FrameBuffer.reset, if_neg (Nat.not_lt.mpr hfits)] at h
    split at h
    · cases h
      exact .inl ⟨_, rfl, ReadFailure.noConfusion, fun _ => ReadFailure.noConfusion⟩
    · rename_i hok
      split at h
      · cases h
        exact .inl ⟨_, rfl, ReadFailure.noConfusion, fun _ => ReadFailure.noConfusion⟩
      · rename_i hcode
        cases h
        have htwo : 2 ≤ length.toNat := by
          rw [UInt16.lt_iff_toNat_lt] at hcode
          exact Nat.not_lt.mp hcode
        refine .inr ⟨rfl, result, body, hfill, not_not.mp hok, hbody, htwo,
          ⟨Nat.zero_le _, hfits⟩, rfl, ?_⟩
        rw [FrameBuffer.unread, hstored, List.drop_zero]

/-- A frame that two fillings have put into a buffer: its head into the first six bytes, and behind
it its body, as many bytes as the head announces. -/
structure FrameFilled (r : ρ) (deadline : Deadline) (b : FrameBuffer) (s : σ) (b' : FrameBuffer)
    (s' : σ) (head body : List UInt8) : Prop where
  fillings : ∃ result s₁ result', fill r deadline (b.region 0 6) s = some (result, head, s₁)
    ∧ result.status = .ok
    ∧ fill r deadline ((b.store 0 head).region 6 (wordAt head 4).toNat) s₁
      = some (result', body, s')
    ∧ result'.status = .ok
  formed : b'.WellFormed
  position : b'.position = 0
  unread : b'.unread = head ++ body
  head_length : head.length = 6
  body_length : body.length = (wordAt head 4).toNat
  code : 2 ≤ (wordAt head 4).toNat

/-- **What reading a frame comes to:** a failure of the reading itself, or a frame in the buffer. -/
theorem readFrame_cases (hcapacity : b.capacity = 260)
    (h : readFrame r deadline b s = some (outcome, b', s')) :
    (∃ f, outcome = .error f ∧ f ≠ .doesNotFit ∧ ∀ cause, f ≠ .malformed cause)
    ∨ outcome = .ok () ∧ ∃ head body, FrameFilled r deadline b s b' s' head body := by
  unfold readFrame at h
  split at h
  · cases h
  · rename_i result head s₁ hfill
    rw [Frame.prefixLength] at hfill h
    have hlength : head.length = 6 := by
      rw [length_of_fill hfill, FrameBuffer.length_region_of_fits (by omega)]
    have hstored : (b.store 0 head).data.take 6 = head := by
      have hbuffer : (b.store 0 head).data.take (0 + head.length) = b.data.take 0 ++ head :=
        FrameBuffer.take_store (by omega)
      rwa [hlength, List.take_zero, List.nil_append] at hbuffer
    have hkept : (b.store 0 head).capacity = 260 := (b.capacity_store ..).trans hcapacity
    simp only [lengthField_eq hlength, hkept] at h
    split at h
    · cases h
      exact .inl ⟨_, rfl, ReadFailure.noConfusion, fun _ => ReadFailure.noConfusion⟩
    · rename_i hok
      split at h
      · cases h
        exact .inl ⟨_, rfl, ReadFailure.noConfusion, fun _ => ReadFailure.noConfusion⟩
      · rcases readBody_cases hkept (by omega) h with hfailed |
          ⟨hread, result', body, hbody, hok', hsize, hcode, hformed, hposition, hunread⟩
        · exact .inl hfailed
        · rw [hstored] at hunread
          exact .inr ⟨hread, head, body, ⟨result, s₁, result', hfill, not_not.mp hok, hbody, hok'⟩,
            hformed, hposition, hunread, hlength, hsize, hcode⟩

theorem FrameFilled.frameIn {head body : List UInt8}
    (h : FrameFilled r deadline b s b' s' head body) : FrameIn b' := by
  -- The head is the first part of the frame, so its length field is the one of the frame.
  have hword : wordAt b'.unread 4 = wordAt head 4 := by
    rw [h.unread, ← wordAt_take (show 4 + 1 < 6 by omega) (head ++ body),
      List.take_left' h.head_length]
  constructor
  · exact h.formed
  · exact h.position
  · rw [hword, h.unread, List.length_append, h.head_length, h.body_length]
  · rw [hword]
    exact h.code

theorem frameOutcome_of_readFrame (hcapacity : b.capacity = 260)
    (h : readFrame r deadline b s = some (outcome, b', s')) : FrameOutcome outcome b' := by
  rcases readFrame_cases hcapacity h with ⟨f, rfl, hfits, hundecoded⟩ | ⟨rfl, _, _, hfilled⟩
  · exact .of_failure hfits hundecoded _
  · exact .of_frameIn hfilled.frameIn

theorem FrameIn.remaining (h : FrameIn b) : b.remaining = 6 + (wordAt b.unread 4).toNat :=
  (FrameBuffer.length_unread h.formed).symm.trans h.length

theorem FrameIn.behind_header (h : FrameIn b) :
    (b.advance 8).WellFormed ∧ (b.advance 8).remaining = (wordAt b.unread 4).toNat - 2 := by
  have hremaining := h.remaining
  have hcode := h.code
  refine ⟨h.formed.advance (by omega), ?_⟩
  rw [FrameBuffer.remaining_advance]
  omega

theorem FrameIn.peek_code (h : FrameIn b) : (b.peek? Frame.codeOffset).isSome = true := by
  -- The cursor stands at the start, so the valid bytes are the unread ones.
  have hvalid : b.valid = b.unread := by
    rw [FrameBuffer.unread, h.position, List.drop_zero, FrameBuffer.valid]
  have hlength := h.length
  have hcode := h.code
  rw [FrameBuffer.peek?_eq, hvalid, Frame.codeOffset, List.getElem?_eq_getElem (by omega)]
  rfl

end Frame

end Channel

/-! ## Decoding only calls readers -/

namespace FrameBuffer

variable {α : Type} {b₀ b : FrameBuffer}

theorem Leads.takeByte (h : b₀.Leads b) {soFar : α} {next : UInt8 → FrameBuffer → Decoded α}
    (hnext : ∀ byte b', b₀.Leads b' → b₀.Leads (next byte b').buffer) :
    b₀.Leads (b.takeByte soFar next).buffer := by
  have hread := h.byte
  unfold FrameBuffer.takeByte
  split <;> rename_i hbyte <;> rw [hbyte] at hread
  · exact hnext _ _ hread
  · exact hread

theorem Leads.takeWord (h : b₀.Leads b) {soFar : α} {next : UInt16 → FrameBuffer → Decoded α}
    (hnext : ∀ word b', b₀.Leads b' → b₀.Leads (next word b').buffer) :
    b₀.Leads (b.takeWord soFar next).buffer := by
  have hread := h.word
  unfold FrameBuffer.takeWord
  split <;> rename_i hword <;> rw [hword] at hread
  · exact hnext _ _ hread
  · exact hread

theorem Leads.takeBytes (h : b₀.Leads b) {count : Nat} {form : DataForm} {soFar : α}
    {next : List UInt8 → FrameBuffer → Decoded α}
    (hnext : ∀ bytes b', b₀.Leads b' → b₀.Leads (next bytes b').buffer) :
    b₀.Leads (b.takeBytes count form soFar next).buffer := by
  have hread := h.bytes count
  unfold FrameBuffer.takeBytes
  split <;> rename_i hbytes <;> rw [hbytes] at hread
  · exact hnext _ _ hread
  · exact hread

theorem Leads.takeWords (h : b₀.Leads b) {count : Nat} {soFar : α}
    {next : List UInt16 → FrameBuffer → Decoded α}
    (hnext : ∀ words b', b₀.Leads b' → b₀.Leads (next words b').buffer) :
    b₀.Leads (b.takeWords count soFar next).buffer := by
  induction count generalizing b next with
  | zero => exact hnext [] b h
  | succ count ih =>
    rw [FrameBuffer.takeWords]
    exact h.takeWord fun word b' h' => ih h' fun words b'' h'' => hnext (word :: words) b'' h''

end FrameBuffer

namespace Payload

variable {role : Role}

open FrameBuffer

theorem leads_decodeWords (form : FixedForm) (old : Payload role) (half : UInt16 → Payload role)
    (whole : UInt16 → UInt16 → Payload role) (size : Nat) (b : FrameBuffer) :
    b.Leads (decodeWords form old half whole size b).buffer := by
  unfold decodeWords
  split
  · exact .start
  · exact Leads.start.takeWord fun _ _ h => h.takeWord fun _ _ h => h

/-- A decoder of a payload moves the cursor by readers alone. -/
theorem leads_decode (old : Payload role) (size : Nat) (b : FrameBuffer) :
    b.Leads (old.decode size b).buffer := by
  cases old with
  | readBits start quantity => exact leads_decodeWords ..
  | readRegisters start quantity => exact leads_decodeWords ..
  | writeCoil address value =>
    rw [decode, decodeCoil]
    split
    · exact .start
    · refine Leads.start.takeWord fun _ _ h => h.takeWord fun _ _ h => ?_
      split <;> exact h
  | writeRegister address value => exact leads_decodeWords ..
  | writeCoils start values =>
    rw [decode, decodeCoils]
    split
    · exact .start
    · refine Leads.start.takeWord fun _ _ h => h.takeWord fun _ _ h => h.takeByte fun _ _ h => ?_
      split
      · exact h
      · exact h.takeBytes fun _ _ h => h
  | writeRegisters start values =>
    rw [decode, decodeRegisters]
    split
    · exact .start
    · refine Leads.start.takeWord fun _ _ h => h.takeWord fun _ _ h => h.takeByte fun _ _ h => ?_
      split
      · exact h
      · exact h.takeWords fun _ _ h => h
  | illegalFunction data => exact Leads.start.takeBytes fun _ _ h => h
  | bits packed =>
    rw [decode, decodePacked]
    split
    · exact .start
    · refine Leads.start.takeByte fun _ _ h => ?_
      split
      · exact h
      · exact h.takeBytes fun _ _ h => h
  | registers values =>
    rw [decode, decodeValues]
    split
    · exact .start
    · refine Leads.start.takeByte fun _ _ h => ?_
      split
      · exact h
      · exact h.takeWords fun _ _ h => h
  | wroteSingle address value => exact leads_decodeWords ..
  | wroteMultiple start quantity => exact leads_decodeWords ..
  | exception code =>
    rw [decode, decodeException]
    split
    · exact .start
    · exact Leads.start.takeByte fun _ _ h => h
  | unsupportedFunction data => exact Leads.start.takeBytes fun _ _ h => h
  | custom data reading =>
    rw [decode, decodeCustom]
    refine Leads.start.takeBytes fun _ _ h => ?_
    split <;> exact h

end Payload

theorem Message.buffer_decodePayload {role : Role} (m : Message role) (header : Header)
    (code : UInt8) (size : Nat) (b : FrameBuffer) :
    (m.decodePayload header code size b).buffer = (m.payload.decode size b).buffer := by
  unfold decodePayload
  simp only
  split
  · rfl
  · split <;> rfl

/-- So does the decoder of a message. -/
theorem Message.leads_decode {role : Role} (m : Message role) (b : FrameBuffer) :
    b.Leads (m.decode b).buffer := by
  have hheader : b.Leads b.readWord?.2.readWord?.2.readWord?.2.readByte?.2.readByte?.2 :=
    .byte (.byte (.word (.word (.word .start))))
  simp only [decode]
  generalize b.readWord?.2.readWord?.2.readWord?.2.readByte?.2.readByte?.2 = b' at hheader
  split
  · split
    · exact hheader
    · split
      · exact hheader
      · rw [buffer_decodePayload]
        exact hheader.trans (m.payload.leads_decode _ _)
  · exact hheader

/-! ## Decoding misses nothing -/

/-- A failure that lies in what the payload says. -/
def DecodeError.OfContent : DecodeError → Prop
  | .wrongSize .. | .coilValue _ | .coilsTooShort | .coilsMismatch .. | .registersTooShort
  | .registersMismatch .. | .bitsTooShort | .bitsMismatch .. | .valuesTooShort
  | .valuesMismatch .. => True
  | .headerTruncated | .lengthTooSmall _ | .payloadMissing .. | .refused _ | .unexpectedBytes ..
  | .dataTruncated _ | .fieldAbsent => False

/-- A failure of decoding that can strike a whole frame. A variant of the user's own may refuse its
payload or leave bytes of it, but takes none that are not announced. -/
def DecodeError.Within : DecodeError → Prop
  | .headerTruncated | .lengthTooSmall _ | .payloadMissing .. | .dataTruncated _
  | .fieldAbsent => False
  | .unexpectedBytes _ announced taken => taken ≤ announced
  | _ => True

theorem DecodeError.OfContent.within {e : DecodeError} (h : e.OfContent) : e.Within := by
  cases e <;> first | exact trivial | exact h.elim

/-- A failure that a variant of the library can come to: no field is missing, no run of bytes is too
short, and no byte is left. -/
def DecodeError.OfLibrary (e : DecodeError) : Prop :=
  e ≠ .fieldAbsent ∧ (∀ form, e ≠ .dataTruncated form)
    ∧ ∀ code announced taken, e ≠ .unexpectedBytes code announced taken

theorem DecodeError.OfContent.ofLibrary {e : DecodeError} (h : e.OfContent) : e.OfLibrary := by
  refine ⟨?_, ?_, ?_⟩
  · rintro rfl
    exact h
  · rintro form rfl
    exact h
  · rintro code announced taken rfl
    exact h

/-- A reading that takes all of so many bytes, or fails for what they say. -/
def Parsed.Settles {α : Type} (p : Parsed α) (size : Nat) : Prop :=
  (p.outcome = .ok () ∧ p.taken = size) ∨ ∃ e, p.outcome = .error e ∧ e.OfContent

namespace Payload

variable {role : Role}

theorem settles_parseWords (form : FixedForm) (old : Payload role)
    (whole : UInt16 → UInt16 → Payload role) (p : List UInt8) :
    (parseWords form old whole p).Settles p.length := by
  unfold parseWords
  split
  · rename_i hlength
    exact .inl ⟨rfl, hlength.symm⟩
  · exact .inr ⟨_, rfl, trivial⟩

theorem settles_parseCoil (address : UInt16) (value : Bool) (p : List UInt8) :
    (parseCoil address value p).Settles p.length := by
  unfold parseCoil
  split
  · rename_i hlength
    split
    · exact .inl ⟨rfl, hlength.symm⟩
    · exact .inr ⟨_, rfl, trivial⟩
  · exact .inr ⟨_, rfl, trivial⟩

theorem settles_parseException (code : UInt8) (p : List UInt8) :
    (parseException code p).Settles p.length := by
  unfold parseException
  split
  · rename_i hlength
    exact .inl ⟨rfl, hlength.symm⟩
  · exact .inr ⟨_, rfl, trivial⟩

/-- The payloads with a byte count of their own: too short for it, in agreement with it or not. -/
theorem settles_counted {p : List UInt8} {short agrees : Prop} [Decidable short] [Decidable agrees]
    {tooShort mismatch : DecodeError} (hshort : tooShort.OfContent) (hmismatch : mismatch.OfContent)
    (old whole half : Payload role) (taken : Nat) :
    (if short then .refused tooShort old 0
      else if agrees then .accepted whole p.length
      else .refused mismatch half taken : Parsed (Payload role)).Settles p.length := by
  split
  · exact .inr ⟨_, rfl, hshort⟩
  · split
    · exact .inl ⟨rfl, rfl⟩
    · exact .inr ⟨_, rfl, hmismatch⟩

/-- **A variant of the library takes what it was given or finds fault with it.** -/
theorem settles_parse {old : Payload role} (hold : old.variant.IsLibrary) {size : Nat}
    {unread : List UInt8} (hsize : size ≤ unread.length) :
    (old.parse size unread).Settles size := by
  have hlength : (unread.take size).length = size := List.length_take_of_le hsize
  have hsettles : (old.parse size unread).Settles (unread.take size).length := by
    cases old with
    | readBits start quantity => exact settles_parseWords ..
    | readRegisters start quantity => exact settles_parseWords ..
    | writeCoil address value => exact settles_parseCoil ..
    | writeRegister address value => exact settles_parseWords ..
    | writeCoils start values => refine settles_counted ?_ ?_ .. <;> exact trivial
    | writeRegisters start values => refine settles_counted ?_ ?_ .. <;> exact trivial
    | illegalFunction data => exact .inl ⟨rfl, hlength.symm⟩
    | bits packed => refine settles_counted ?_ ?_ .. <;> exact trivial
    | registers values => refine settles_counted ?_ ?_ .. <;> exact trivial
    | wroteSingle address value => exact settles_parseWords ..
    | wroteMultiple start quantity => exact settles_parseWords ..
    | exception code => exact settles_parseException ..
    | unsupportedFunction data => exact .inl ⟨rfl, hlength.symm⟩
    | custom data reading => exact absurd rfl (hold reading)
  rwa [hlength] at hsettles

theorem isLibrary_or_custom (old : Payload role) :
    old.variant.IsLibrary ∨ ∃ data reading, old = .custom data reading := by
  cases old with
  | custom data reading => exact .inr ⟨data, reading, rfl⟩
  | _ => exact .inl fun _ => Variant.noConfusion

/-- No variant takes more bytes than there are, and none misses a field. -/
theorem parse_within (old : Payload role) (unread : List UInt8) :
    ((old.parse unread.length unread).outcome = .ok () →
        (old.parse unread.length unread).taken ≤ unread.length)
      ∧ ∀ e, (old.parse unread.length unread).outcome = .error e → e.Within := by
  rcases old.isLibrary_or_custom with hold | ⟨data, reading, rfl⟩
  · rcases settles_parse hold (Nat.le_refl unread.length) with ⟨hok, htaken⟩ | ⟨e, he, hcontent⟩
    · refine ⟨fun _ => Nat.le_of_eq htaken, ?_⟩
      intro e he
      rw [hok] at he
      cases he
    · constructor
      · intro hok
        rw [he] at hok
        cases hok
      · intro e' he'
        rw [he] at he'
        cases he'
        exact hcontent.within
  · rw [parse, parseCustom]
    rcases reading.failure with _ | text
    · refine ⟨fun _ => List.length_take_le' .., ?_⟩
      intro e he
      cases he
    · constructor
      · intro hok
        cases hok
      · rintro e ⟨rfl⟩
        exact trivial

end Payload

namespace Message

variable {role : Role} {b : FrameBuffer}

/-- **A variant of the library misses no field and leaves no byte,** whatever bytes stand behind the
cursor. -/
theorem decode_of_library (hb : b.WellFormed) {m : Message role} (hm : m.variant.IsLibrary)
    {e : DecodeError} (he : (m.decode b).outcome = .error e) : e.OfLibrary := by
  rw [decode_eq hb, Parsed.behind, parse] at he
  simp only at he
  -- The checks of the header come first, each with a failure of its own.
  split at he
  · cases he
    exact ⟨DecodeError.noConfusion, fun _ => DecodeError.noConfusion,
      fun _ _ _ => DecodeError.noConfusion⟩
  · split at he
    · cases he
      exact ⟨DecodeError.noConfusion, fun _ => DecodeError.noConfusion,
      fun _ _ _ => DecodeError.noConfusion⟩
    · split at he
      · cases he
        exact ⟨DecodeError.noConfusion, fun _ => DecodeError.noConfusion,
      fun _ _ _ => DecodeError.noConfusion⟩
      · rename_i hwhole
        have hsize : (wordAt b.unread 4).toNat - 2 ≤ (b.unread.drop 8).length := by
          rw [List.length_drop]
          omega
        rw [parsePayload] at he
        rcases Payload.settles_parse hm hsize with ⟨hok, htaken⟩ | ⟨e', hfailed, hcontent⟩
        · simp only [hok, htaken, ne_eq, not_true_eq_false, if_false] at he
          cases he
        · simp only [hfailed] at he
          cases he
          exact hcontent.ofLibrary

/-- **A whole frame is decoded, refused or found faulty,** by a variant of the user's own too. -/
theorem decode_of_frameIn (hb : Channel.FrameIn b) (m : Message role) {e : DecodeError}
    (he : (m.decode b).outcome = .error e) : e.Within := by
  have hlength := hb.length
  have hcode := hb.code
  have hsize : (wordAt b.unread 4).toNat - 2 = (b.unread.drop 8).length := by
    rw [List.length_drop]
    omega
  -- The header announces all bytes behind it, so only the payload is left to fail.
  have hpayload := m.payload.parse_within (b.unread.drop 8)
  rw [decode_eq hb.formed, Parsed.behind, parse] at he
  simp only at he
  rw [if_neg (by omega), if_neg (by rw [UInt16.lt_iff_toNat_lt]; exact Nat.not_lt.mpr hcode),
    if_neg (by omega), hsize, parsePayload] at he
  split at he
  · rename_i hfailed
    cases he
    exact hpayload.2 _ hfailed
  · rename_i hok
    split at he
    · cases he
      exact hpayload.1 hok
    · cases he

end Message

namespace Channel

open Transport

variable {ρ σ : Type} [Transport ρ σ] {r : ρ} {c : Channel ρ} {b : FrameBuffer} {role : Role}

theorem decodeFrame_within (hb : FrameIn b) (table : VariantTable) (role : Role) :
    (decodeFrame table role b).1 ≠ .error .doesNotFit
      ∧ ∀ e, (decodeFrame table role b).1 = .error (.malformed e) → e.Within := by
  unfold decodeFrame
  split
  · rename_i hcode
    have hpeek := hb.peek_code
    rw [hcode] at hpeek
    cases hpeek
  · simp only
    split
    · rename_i hfailed
      refine ⟨?_, ?_⟩
      · intro h
        cases h
      · rintro e ⟨rfl⟩
        exact Message.decode_of_frameIn hb _ hfailed
    · refine ⟨?_, ?_⟩
      · intro h
        cases h
      · intro e he
        cases he

end Channel

end ModbusTcp
