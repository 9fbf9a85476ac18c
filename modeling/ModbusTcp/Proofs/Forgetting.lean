import ModbusTcp.Proofs.Parsing

/-!
Decoding forgets the past.

One object is decoded into again and again (`DecodeFrom`), and one buffer holds frame after frame.
Neither may show in what is decoded: not the fields that an object held before, not the bytes that
were consumed or that stand behind the valid ones, and not the size of the buffer or the place of
its cursor.

A decoder sees a buffer through its unread bytes alone (`Message.decode_eq`), so it is left to look
at the parsers. Two readings are `Parsed.Alike` if nothing but the value of a failed one tells them
apart. Each shape of payload gives readings that are alike for any two values it is parsed into
(`Payload.alike_parse`), and so do the fields before it (`Message.alike_parse`). The main statement
is `Message.decode_forgets`.
-/

set_option autoImplicit false

namespace ModbusTcp

/-! ## Readings that are alike -/

/-- Two readings of the same bytes that end in the same way after the same number of bytes, and
come to the same value if they succeed. What a failure leaves of the old values may differ. -/
structure Parsed.Alike {α : Type} (p q : Parsed α) : Prop where
  outcome : p.outcome = q.outcome
  taken : p.taken = q.taken
  value : p.outcome = .ok () → p.value = q.value

namespace Parsed

variable {α : Type}

theorem Alike.refl (p : Parsed α) : p.Alike p := ⟨rfl, rfl, fun _ => rfl⟩

/-- Two refusals for the same reason, whatever they leave. -/
theorem alike_refused (error : DecodeError) (value value' : α) (taken : Nat) :
    (refused error value taken).Alike (refused error value' taken) := by
  refine ⟨rfl, rfl, ?_⟩
  intro h
  exact nomatch h

end Parsed

/-! ## Payloads -/

namespace Payload

open Parsed

variable {role : Role}

theorem alike_parseWords (form : FixedForm) (old old' : Payload role)
    (whole : UInt16 → UInt16 → Payload role) (p : List UInt8) :
    (parseWords form old whole p).Alike (parseWords form old' whole p) := by
  unfold parseWords
  split
  · exact .refl _
  · exact alike_refused ..

theorem alike_parseCoil (address address' : UInt16) (value value' : Bool) (p : List UInt8) :
    (parseCoil address value p).Alike (parseCoil address' value' p) := by
  unfold parseCoil
  split
  · split
    · exact .refl _
    · exact alike_refused ..
  · exact alike_refused ..

theorem alike_parseException (code code' : UInt8) (p : List UInt8) :
    (parseException code p).Alike (parseException code' p) := by
  unfold parseException
  split
  · exact .refl _
  · exact alike_refused ..

/-- The payloads with a byte count of their own. Whether they are too short for it, and whether it
agrees with them, is in the bytes. -/
theorem alike_counted {short agrees : Prop} [Decidable short] [Decidable agrees]
    (tooShort mismatch : DecodeError) (old old' half half' whole : Payload role)
    (size taken : Nat) :
    (if short then .refused tooShort old 0
      else if agrees then .accepted whole size
      else .refused mismatch half taken : Parsed (Payload role)).Alike
    (if short then .refused tooShort old' 0
      else if agrees then .accepted whole size
      else .refused mismatch half' taken) := by
  split
  · exact alike_refused ..
  · split
    · exact .refl _
    · exact alike_refused ..

/-- **What a payload held before plays no part in parsing.** Any two payloads of one variant give
readings that are alike. -/
theorem alike_parse {old old' : Payload role} (h : old.variant = old'.variant) (size : Nat)
    (unread : List UInt8) : (old.parse size unread).Alike (old'.parse size unread) := by
  -- The other payload can only be of the same constructor, so there is one case for each.
  cases old <;> cases old' <;> simp only [variant, reduceCtorEq, Variant.custom.injEq] at h
  case readBits | readRegisters | writeRegister | wroteSingle | wroteMultiple =>
    exact alike_parseWords ..
  case writeCoil => exact alike_parseCoil ..
  case writeCoils | writeRegisters | bits | registers => exact alike_counted ..
  case exception => exact alike_parseException ..
  case illegalFunction | unsupportedFunction => exact .refl _
  case custom =>
    subst h
    exact .refl _

end Payload

/-! ## Messages -/

namespace Message

open Parsed

variable {role : Role}

theorem alike_parsePayload {m m' : Message role} (h : m.variant = m'.variant) (header : Header)
    (code : UInt8) (size : Nat) (rest : List UInt8) :
    (m.parsePayload header code size rest).Alike (m'.parsePayload header code size rest) := by
  obtain ⟨houtcome, htaken, hvalue⟩ := Payload.alike_parse h size rest
  unfold parsePayload
  simp only [← houtcome, ← htaken]
  split
  · exact alike_refused ..
  · rename_i hok
    split
    · exact alike_refused ..
    · rw [hvalue hok]
      exact .refl _

/-- **What a message held before plays no part in parsing.** As long as the fields before the
payload are not complete, it is left as it was; behind them all of it is replaced. -/
theorem alike_parse {m m' : Message role} (h : m.variant = m'.variant) (unread : List UInt8) :
    (m.parse unread).Alike (m'.parse unread) := by
  unfold parse
  simp only
  split
  · exact alike_refused ..
  · split
    · exact alike_refused ..
    · split
      · exact alike_refused ..
      · exact alike_parsePayload h ..

/-- **Decoding forgets the past of the message and of the buffer.** Two messages of one variant that
are decoded from the same unread bytes come to the same end, for the same cause if they fail, and
take the same number of bytes; and if they succeed they are equal, header and all. What they held
before may differ, and so may everything else about the two buffers. -/
theorem decode_forgets {m m' : Message role} (hvariant : m.variant = m'.variant)
    {b b' : FrameBuffer} (hb : b.WellFormed) (hb' : b'.WellFormed)
    (hunread : b.unread = b'.unread) :
    (m.decode b).outcome = (m'.decode b').outcome
      ∧ (∃ taken, (m.decode b).buffer = b.advance taken ∧ (m'.decode b').buffer = b'.advance taken)
      ∧ ((m.decode b).outcome = .ok () → (m.decode b).value = (m'.decode b').value) := by
  obtain ⟨houtcome, htaken, hvalue⟩ := alike_parse hvariant b.unread
  rw [decode_eq hb, decode_eq hb', ← hunread]
  refine ⟨houtcome, ⟨(m.parse b.unread).taken, rfl, ?_⟩, hvalue⟩
  rw [htaken]
  rfl

/-- Three coils are decoded into an object that held ten others and had been an exception of another
exchange, out of the middle of a buffer with other bytes on both sides; and into a fresh object. -/
theorem decode_forgets_coils :
    let frame : List UInt8 := [0, 1, 0, 0, 0, 8, 0x11, 15, 0, 0x13, 0, 3, 1, 5]
    let b : FrameBuffer := ⟨[0xAA, 0xBB] ++ frame ++ [0xCC, 0xDD, 0xEE], 16, 2⟩
    let b' : FrameBuffer := ⟨frame, 14, 0⟩
    let m : Message .request := ⟨⟨7, 8, 9⟩, 0x90, .writeCoils 10 (List.replicate 10 true)⟩
    let m' : Message .request := .writeCoilsRequest 0 []
    m.variant = m'.variant ∧ b.WellFormed ∧ b'.WellFormed ∧ b.unread = b'.unread
      ∧ (m.decode b).outcome = .ok () ∧ (m'.decode b').outcome = .ok ()
      ∧ (m.decode b).value = (m'.decode b').value
      ∧ (m.decode b).value = ⟨⟨1, 0, 0x11⟩, 15, .writeCoils 0x13 [true, false, true]⟩
      ∧ (m.decode b).buffer.position = 16 ∧ (m'.decode b').buffer.position = 14 := by
  intro frame b b' m m'
  have hb : b.WellFormed := ⟨by decide, by decide⟩
  have hb' : b'.WellFormed := ⟨by decide, by decide⟩
  have hunread : b.unread = b'.unread := by decide
  have hok : (m.decode b).outcome = .ok () := by rfl
  have hvariant : m.variant = m'.variant := rfl
  obtain ⟨houtcome, -, hvalue⟩ := decode_forgets hvariant hb hb' hunread
  exact ⟨hvariant, hb, hb', hunread, hok, houtcome ▸ hok, hvalue hok, by decide, by decide,
    by decide⟩

end Message

end ModbusTcp
