import ModbusTcp.Proofs.Parsing

/-!
The grammar of the protocol: which frames there are, and what each of them says.

The grammar is written over the bytes alone, field by field at its offset, and knows neither
cursor nor decoder. `Grammar.IsFrame` says when the front of a run of bytes is a frame of a role,
and `Grammar.message` what message it spells. The main statement, `decode_accepts_grammar`, is that
a message of the variant that the table of the protocol has for the function code accepts
(`DecodeFrom`) exactly these frames and reads exactly these fields.

A count of coils or registers is a 16-bit number, the byte count beside it an 8-bit one. The
grammar compares them as numbers, so no count that only agrees modulo 256 is a frame.
-/

set_option autoImplicit false

namespace ModbusTcp

namespace Grammar

/-! ## Payloads -/

/-- The payloads of requests with a function code. -/
def IsRequestPayload (code : UInt8) (p : List UInt8) : Prop :=
  if code = 1 ∨ code = 2 ∨ code = 3 ∨ code = 4 ∨ code = 6 then p.length = 4
  else if code = 5 then p.length = 4 ∧ (wordAt p 2 = 0xFF00 ∨ wordAt p 2 = 0x0000)
  else if code = 15 then
    5 ≤ p.length ∧ (byteAt p 4).toNat = ((wordAt p 2).toNat + 7) / 8
      ∧ p.length = 5 + (byteAt p 4).toNat
  else if code = 16 then
    5 ≤ p.length ∧ (byteAt p 4).toNat = 2 * (wordAt p 2).toNat
      ∧ p.length = 5 + (byteAt p 4).toNat
  else True

/-- The payloads of answers with a function code. -/
def IsResponsePayload (code : UInt8) (p : List UInt8) : Prop :=
  if code = 1 ∨ code = 2 then p.length = 1 + (byteAt p 0).toNat
  else if code = 3 ∨ code = 4 then
    p.length = 1 + (byteAt p 0).toNat ∧ (byteAt p 0).toNat % 2 = 0
  else if code = 5 ∨ code = 6 ∨ code = 15 ∨ code = 16 then p.length = 4
  else if 0x80 ≤ code then p.length = 1
  else True

/-- What the payload of a request says. -/
def requestPayload (code : UInt8) (p : List UInt8) : Payload .request :=
  if code = 1 ∨ code = 2 then .readBits (wordAt p 0) (wordAt p 2)
  else if code = 3 ∨ code = 4 then .readRegisters (wordAt p 0) (wordAt p 2)
  else if code = 5 then .writeCoil (wordAt p 0) (wordAt p 2 = 0xFF00)
  else if code = 6 then .writeRegister (wordAt p 0) (wordAt p 2)
  else if code = 15 then
    .writeCoils (wordAt p 0) ((List.range (wordAt p 2).toNat).map (Bits.bitAt (p.drop 5)))
  else if code = 16 then
    .writeRegisters (wordAt p 0)
      ((List.range (wordAt p 2).toNat).map fun i => wordAt p (5 + 2 * i))
  else .illegalFunction p

/-- What the payload of an answer says. -/
def responsePayload (code : UInt8) (p : List UInt8) : Payload .response :=
  if code = 1 ∨ code = 2 then .bits (p.drop 1)
  else if code = 3 ∨ code = 4 then
    .registers ((List.range ((byteAt p 0).toNat / 2)).map fun i => wordAt p (1 + 2 * i))
  else if code = 5 ∨ code = 6 then .wroteSingle (wordAt p 0) (wordAt p 2)
  else if code = 15 ∨ code = 16 then .wroteMultiple (wordAt p 0) (wordAt p 2)
  else if 0x80 ≤ code then .exception (byteAt p 0)
  else .unsupportedFunction p

/-- The payloads of a role. -/
def IsPayload : Role → UInt8 → List UInt8 → Prop
  | .request => IsRequestPayload
  | .response => IsResponsePayload

/-- What the payload of a role says. -/
def payload : (role : Role) → UInt8 → List UInt8 → Payload role
  | .request => requestPayload
  | .response => responsePayload

instance (code : UInt8) (p : List UInt8) : Decidable (IsRequestPayload code p) := by
  unfold IsRequestPayload
  infer_instance

instance (code : UInt8) (p : List UInt8) : Decidable (IsResponsePayload code p) := by
  unfold IsResponsePayload
  infer_instance

instance (role : Role) (code : UInt8) (p : List UInt8) : Decidable (IsPayload role code p) :=
  match role with
  | .request => inferInstanceAs (Decidable (IsRequestPayload code p))
  | .response => inferInstanceAs (Decidable (IsResponsePayload code p))

/-! ## Frames -/

/-- The value of the length field, which counts what follows it. -/
def lengthOf (bytes : List UInt8) : Nat := (wordAt bytes 4).toNat

/-- The payload that the length field announces, behind the function code. -/
def payloadOf (bytes : List UInt8) : List UInt8 := (bytes.drop 8).take (lengthOf bytes - 2)

/-- Whether a frame of the role stands at the front of the bytes. -/
def IsFrame (role : Role) (bytes : List UInt8) : Prop :=
  8 ≤ bytes.length ∧ 2 ≤ lengthOf bytes ∧ 6 + lengthOf bytes ≤ bytes.length
    ∧ IsPayload role (byteAt bytes 7) (payloadOf bytes)

instance (role : Role) (bytes : List UInt8) : Decidable (IsFrame role bytes) :=
  inferInstanceAs (Decidable (_ ∧ _ ∧ _ ∧ _))

/-- The message that the frame at the front of the bytes spells. -/
def message (role : Role) (bytes : List UInt8) : Message role :=
  { header :=
      { transaction := wordAt bytes 0, protocol := wordAt bytes 2, unit := byteAt bytes 6 }
    code := byteAt bytes 7
    payload := payload role (byteAt bytes 7) (payloadOf bytes) }

end Grammar

/-! ## The parsers decide the grammar

One lemma for each shape of payload, put together for each role. -/

open VariantTable (standard)

namespace Payload

open Grammar

theorem parseWords_decides {role : Role} (form : FixedForm) (old : Payload role)
    (whole : UInt16 → UInt16 → Payload role) (p : List UInt8) :
    (parseWords form old whole p).Decides (p.length = 4) (whole (wordAt p 0) (wordAt p 2))
      p.length := by
  rw [parseWords]
  by_cases h : p.length = 4
  · rw [if_pos h, h]
    exact .inl ⟨rfl, rfl⟩
  · rw [if_neg h]
    exact .inr ⟨h, _, rfl⟩

theorem parseCoil_decides (address : UInt16) (value : Bool) (p : List UInt8) :
    (parseCoil address value p).Decides
      (p.length = 4 ∧ (wordAt p 2 = 0xFF00 ∨ wordAt p 2 = 0x0000))
      (.writeCoil (wordAt p 0) (wordAt p 2 = 0xFF00)) p.length := by
  rw [parseCoil]
  by_cases h : p.length = 4
  · rw [if_pos h, h]
    by_cases hword : wordAt p 2 = coilOn ∨ wordAt p 2 = coilOff
    · rw [if_pos hword]
      exact .inl ⟨⟨rfl, hword⟩, rfl⟩
    · rw [if_neg hword]
      exact .inr ⟨fun hp => hword hp.2, _, rfl⟩
  · rw [if_neg h]
    exact .inr ⟨fun hp => h hp.1, _, rfl⟩

theorem parseCoils_decides (start : UInt16) (values : List Bool) (p : List UInt8) :
    (parseCoils start values p).Decides
      (5 ≤ p.length ∧ (byteAt p 4).toNat = ((wordAt p 2).toNat + 7) / 8
        ∧ p.length = 5 + (byteAt p 4).toNat)
      (.writeCoils (wordAt p 0) ((List.range (wordAt p 2).toNat).map (Bits.bitAt (p.drop 5))))
      p.length := by
  rw [parseCoils, Bits.unpack_eq_map_bitAt]
  by_cases h : p.length < 5
  · rw [if_pos h]
    exact .inr ⟨fun hp => Nat.not_lt.mpr hp.1 h, _, rfl⟩
  · rw [if_neg h]
    by_cases hfits : (byteAt p 4).toNat = ((wordAt p 2).toNat + 7) / 8
        ∧ p.length = 5 + (byteAt p 4).toNat
    · rw [if_pos hfits]
      exact .inl ⟨⟨Nat.not_lt.mp h, hfits⟩, rfl⟩
    · rw [if_neg hfits]
      exact .inr ⟨fun hp => hfits hp.2, _, rfl⟩

theorem parseRegisters_decides (start : UInt16) (values : List UInt16) (p : List UInt8) :
    (parseRegisters start values p).Decides
      (5 ≤ p.length ∧ (byteAt p 4).toNat = 2 * (wordAt p 2).toNat
        ∧ p.length = 5 + (byteAt p 4).toNat)
      (.writeRegisters (wordAt p 0)
        ((List.range (wordAt p 2).toNat).map fun i => wordAt p (5 + 2 * i)))
      p.length := by
  rw [parseRegisters]
  by_cases h : p.length < 5
  · rw [if_pos h]
    exact .inr ⟨fun hp => Nat.not_lt.mpr hp.1 h, _, rfl⟩
  · rw [if_neg h]
    by_cases hfits : (byteAt p 4).toNat = 2 * (wordAt p 2).toNat
        ∧ p.length = 5 + (byteAt p 4).toNat
    · -- The byte count is twice the count, so the words behind it are as many as announced.
      have hcount : (p.drop 5).length / 2 = (wordAt p 2).toNat := by
        rw [List.length_drop]
        omega
      rw [if_pos hfits, wordsOf_eq_map_wordAt, hcount]
      simp only [wordAt_drop]
      exact .inl ⟨⟨Nat.not_lt.mp h, hfits⟩, rfl⟩
    · rw [if_neg hfits]
      exact .inr ⟨fun hp => hfits hp.2, _, rfl⟩

theorem parsePacked_decides (packed : List UInt8) (p : List UInt8) :
    (parsePacked packed p).Decides (p.length = 1 + (byteAt p 0).toNat) (.bits (p.drop 1))
      p.length := by
  rw [parsePacked]
  by_cases h : p.length < 1
  · rw [if_pos h]
    exact .inr ⟨fun hp => by omega, _, rfl⟩
  · rw [if_neg h]
    by_cases hfits : p.length = 1 + (byteAt p 0).toNat
    · rw [if_pos hfits]
      exact .inl ⟨hfits, rfl⟩
    · rw [if_neg hfits]
      exact .inr ⟨hfits, _, rfl⟩

theorem parseValues_decides (values : List UInt16) (p : List UInt8) :
    (parseValues values p).Decides
      (p.length = 1 + (byteAt p 0).toNat ∧ (byteAt p 0).toNat % 2 = 0)
      (.registers ((List.range ((byteAt p 0).toNat / 2)).map fun i => wordAt p (1 + 2 * i)))
      p.length := by
  rw [parseValues]
  by_cases h : p.length < 1
  · rw [if_pos h]
    exact .inr ⟨fun hp => by omega, _, rfl⟩
  · rw [if_neg h]
    by_cases hfits : p.length = 1 + (byteAt p 0).toNat ∧ (byteAt p 0).toNat % 2 = 0
    · have hcount : (p.drop 1).length / 2 = (byteAt p 0).toNat / 2 := by
        rw [List.length_drop, hfits.1, Nat.add_sub_cancel_left]
      rw [if_pos hfits, wordsOf_eq_map_wordAt, hcount]
      simp only [wordAt_drop]
      exact .inl ⟨hfits, rfl⟩
    · rw [if_neg hfits]
      exact .inr ⟨hfits, _, rfl⟩

theorem parseException_decides (code : UInt8) (p : List UInt8) :
    (parseException code p).Decides (p.length = 1) (.exception (byteAt p 0)) p.length := by
  rw [parseException]
  by_cases h : p.length = 1
  · rw [if_pos h, h]
    exact .inl ⟨rfl, rfl⟩
  · rw [if_neg h]
    exact .inr ⟨h, _, rfl⟩

/-- The request that stands for a code decides the payloads of that code. -/
theorem parse_request_decides {code : UInt8} {old : Payload .request}
    (hold : old.variant = (standard.create .request code).variant) (p : List UInt8) :
    (old.parse p.length p).Decides (IsRequestPayload code p) (requestPayload code p) p.length := by
  rcases VariantTable.variant_create_request code with ⟨hcode, hv⟩ | ⟨hcode, hv⟩ | ⟨hcode, hv⟩
    | ⟨hcode, hv⟩ | ⟨hcode, hv⟩ | ⟨hcode, hv⟩ | ⟨hcode, hv⟩
  -- The variant leaves one shape of payload for each group of codes.
  all_goals
    rw [hv] at hold
    cases old <;> simp only [variant, reduceCtorEq] at hold
    rw [parse, List.take_length]
  · rcases hcode with rfl | rfl <;> exact parseWords_decides ..
  · rcases hcode with rfl | rfl <;> exact parseWords_decides ..
  · subst hcode
    exact parseCoil_decides ..
  · subst hcode
    exact parseWords_decides ..
  · subst hcode
    exact parseCoils_decides ..
  · subst hcode
    exact parseRegisters_decides ..
  · simp only [IsRequestPayload, requestPayload, hcode, or_self, if_false]
    exact .inl ⟨trivial, rfl⟩

/-- The answer that stands for a code decides the payloads of that code. -/
theorem parse_response_decides {code : UInt8} {old : Payload .response}
    (hold : old.variant = (standard.create .response code).variant) (p : List UInt8) :
    (old.parse p.length p).Decides (IsResponsePayload code p) (responsePayload code p)
      p.length := by
  rcases VariantTable.variant_create_response code with ⟨hcode, hv⟩ | ⟨hcode, hv⟩ | ⟨hcode, hv⟩
    | ⟨hcode, hv⟩ | ⟨hcode, hv⟩ | ⟨hcode, hv⟩
  all_goals
    rw [hv] at hold
    cases old <;> simp only [variant, reduceCtorEq] at hold
    rw [parse, List.take_length]
  · rcases hcode with rfl | rfl <;> exact parsePacked_decides ..
  · rcases hcode with rfl | rfl <;> exact parseValues_decides ..
  · rcases hcode with rfl | rfl <;> exact parseWords_decides ..
  · rcases hcode with rfl | rfl <;> exact parseWords_decides ..
  · have hother := VariantTable.not_assigned_of_marked hcode
    simp only [IsResponsePayload, responsePayload, hother, hcode, or_self, if_false, if_true]
    exact parseException_decides ..
  · simp only [IsResponsePayload, responsePayload, hcode, or_self, if_false]
    exact .inl ⟨trivial, rfl⟩

theorem parse_decides {role : Role} {code : UInt8} {old : Payload role}
    (hold : old.variant = (standard.create role code).variant) (p : List UInt8) :
    (old.parse p.length p).Decides (IsPayload role code p) (payload role code p) p.length := by
  cases role with
  | request => exact parse_request_decides hold p
  | response => exact parse_response_decides hold p

end Payload

namespace Message

open Grammar

variable {role : Role}

/-- A message of the variant for the function code decides the frames of its role. Fewer bytes
than a function code needs are refused by every variant. -/
theorem parse_decides {m : Message role} {unread : List UInt8}
    (hm : 8 ≤ unread.length → m.variant = (standard.create role (byteAt unread 7)).variant) :
    (m.parse unread).Decides (IsFrame role unread) (message role unread)
      (6 + lengthOf unread) := by
  rw [parse, IsFrame, ← lengthOf]
  by_cases hshort : unread.length < 8
  · rw [if_pos hshort]
    exact .inr ⟨fun h => Nat.not_lt.mpr h.1 hshort, _, rfl⟩
  · rw [if_neg hshort]
    by_cases hlength : wordAt unread 4 < 2
    · rw [if_pos hlength]
      exact .inr ⟨fun h => Nat.not_lt.mpr h.2.1 (UInt16.lt_iff_toNat_lt.mp hlength), _, rfl⟩
    · have htwo : 2 ≤ lengthOf unread := by
        rw [UInt16.lt_iff_toNat_lt] at hlength
        exact Nat.not_lt.mp hlength
      rw [if_neg hlength]
      by_cases hmissing : unread.length < 6 + lengthOf unread
      · rw [if_pos hmissing]
        exact .inr ⟨fun h => Nat.not_lt.mpr h.2.2.1 hmissing, _, rfl⟩
      · rw [if_neg hmissing]
        have hvariant := hm (Nat.not_lt.mp hshort)
        have hpayload : (payloadOf unread).length = lengthOf unread - 2 := by
          rw [payloadOf, List.length_take, List.length_drop]
          omega
        have hlibrary : m.payload.variant.IsLibrary := by
          rw [← Message.variant, hvariant]
          exact VariantTable.isLibrary_variant_create role _
        have hdecides := Payload.parse_decides hvariant (payloadOf unread)
        rw [hpayload, payloadOf, Payload.parse_take hlibrary, ← payloadOf] at hdecides
        rw [parsePayload]
        rcases hdecides with ⟨hok, haccepted⟩ | ⟨hnot, e, hrefused⟩
        · refine .inl ⟨⟨Nat.not_lt.mp hshort, htwo, Nat.not_lt.mp hmissing, hok⟩, ?_⟩
          have hsum : 8 + (lengthOf unread - 2) = 6 + lengthOf unread := by omega
          simp only [haccepted, Parsed.accepted, ne_eq, not_true_eq_false, if_false, hsum]
          rfl
        · refine .inr ⟨fun h => hnot h.2.2.2, e, ?_⟩
          simp only [hrefused, Parsed.refused]

/-- What a frame says is said in the variant that the table has for its function code. -/
theorem variant_message (role : Role) (bytes : List UInt8) :
    (message role bytes).variant = (standard.create role (byteAt bytes 7)).variant := by
  generalize hcode : byteAt bytes 7 = code
  cases role with
  | request =>
    have hpayload : (message .request bytes).payload = requestPayload code (payloadOf bytes) := by
      rw [← hcode]
      rfl
    rw [Message.variant, hpayload]
    unfold requestPayload
    rcases VariantTable.variant_create_request code with ⟨hcode, hv⟩ | ⟨hcode, hv⟩ | ⟨hcode, hv⟩
      | ⟨hcode, hv⟩ | ⟨hcode, hv⟩ | ⟨hcode, hv⟩ | ⟨hcode, hv⟩
    · rcases hcode with rfl | rfl <;> exact hv.symm
    · rcases hcode with rfl | rfl <;> exact hv.symm
    · subst hcode; exact hv.symm
    · subst hcode; exact hv.symm
    · subst hcode; exact hv.symm
    · subst hcode; exact hv.symm
    · simp only [hcode, or_self, if_false, hv, Payload.variant]
  | response =>
    have hpayload : (message .response bytes).payload = responsePayload code (payloadOf bytes) := by
      rw [← hcode]
      rfl
    rw [Message.variant, hpayload]
    unfold responsePayload
    rcases VariantTable.variant_create_response code with ⟨hcode, hv⟩ | ⟨hcode, hv⟩ | ⟨hcode, hv⟩
      | ⟨hcode, hv⟩ | ⟨hcode, hv⟩ | ⟨hcode, hv⟩
    · rcases hcode with rfl | rfl <;> exact hv.symm
    · rcases hcode with rfl | rfl <;> exact hv.symm
    · rcases hcode with rfl | rfl <;> exact hv.symm
    · rcases hcode with rfl | rfl <;> exact hv.symm
    · have hother := VariantTable.not_assigned_of_marked hcode
      simp only [hother, hcode, or_self, if_false, if_true, hv, Payload.variant]
    · simp only [hcode, or_self, if_false, hv, Payload.variant]

/-- What was decoded is what the frame at the front of the unread bytes says. -/
theorem eq_message_of_decoded {b b' : FrameBuffer} (hb : b.WellFormed) {old m : Message role}
    (hold : old.variant = (standard.create role (byteAt b.unread 7)).variant)
    (hdecoded : old.decode b = .success m b') :
    IsFrame role b.unread ∧ m = message role b.unread := by
  have hdecides := parse_decides (fun _ => hold)
  rw [decode_eq hb] at hdecoded
  have hframe : IsFrame role b.unread :=
    hdecides.outcome_iff.mp (congrArg Decoded.outcome hdecoded)
  rw [hdecides.eq_accepted hframe] at hdecoded
  exact ⟨hframe, (congrArg Decoded.value hdecoded).symm⟩

/-- **Decoding accepts exactly the frames of the grammar, and reads exactly their fields.** For
every buffer and every place of its cursor, a message of the variant that the table has for the
function code, whatever it held before, takes the unread bytes if and only if a frame of its role
stands at their front. Then it holds what the frame says, and the cursor stands behind the frame.
With fewer than eight unread bytes there is no function code, and no message of any variant takes
them. -/
theorem decode_accepts_grammar {b : FrameBuffer} (hb : b.WellFormed) {m : Message role}
    (hm : 8 ≤ b.unread.length → m.variant = (standard.create role (byteAt b.unread 7)).variant) :
    ((m.decode b).outcome = .ok () ↔ IsFrame role b.unread)
    ∧ (IsFrame role b.unread →
      m.decode b = .success (message role b.unread) (b.advance (6 + lengthOf b.unread))) := by
  have hdecides := parse_decides hm
  rw [decode_eq hb]
  refine ⟨hdecides.outcome_iff, fun hframe => ?_⟩
  rw [hdecides.eq_accepted hframe]
  rfl

/-- Ten coils in two bytes, behind two bytes already read and before one that is not valid. -/
theorem decode_accepts_grammar_coils :
    let b : FrameBuffer :=
      ⟨[0xAA, 0xBB, 0, 1, 0, 0, 0, 9, 0x11, 15, 0, 0x13, 0, 10, 2, 0xCD, 0x01, 0xEE], 17, 2⟩
    let m : Message .request := .writeCoilsRequest 7 [true]
    b.WellFormed
    ∧ m.variant = (standard.create .request (byteAt b.unread 7)).variant
    ∧ (m.decode b).outcome = .ok ()
    ∧ m.decode b = .success
        ⟨⟨1, 0, 0x11⟩, 15, .writeCoils 0x13
          [true, false, true, true, false, false, true, true, true, false]⟩ (b.advance 15) := by
  intro b m
  have hb : b.WellFormed := ⟨by decide, by decide⟩
  have hm : m.variant = (standard.create .request (byteAt b.unread 7)).variant := by decide
  have hframe : IsFrame .request b.unread := by decide
  have hmessage : message .request b.unread = ⟨⟨1, 0, 0x11⟩, 15, .writeCoils 0x13
      [true, false, true, true, false, false, true, true, true, false]⟩ := by decide
  have hlength : 6 + lengthOf b.unread = 15 := by decide
  have h := decode_accepts_grammar hb fun _ => hm
  rw [hmessage, hlength] at h
  exact ⟨hb, hm, h.1.mpr hframe, h.2 hframe⟩

end Message

end ModbusTcp
