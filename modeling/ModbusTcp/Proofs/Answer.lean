import ModbusTcp.Proofs.MessageSequence
import ModbusTcp.Proofs.Reencoding
import ModbusTcp.Server

/-!
Every request that can be read gets an answer (`Answer`) that can be sent and read.

`Server.IsAnswerTo` says over the bytes of a request frame which kind of answer it calls for: zeros
for a read of a quantity that is allowed, the echo of a single write, the confirmation of a multiple
write, and an exception for anything else. `answer_isAnswerTo` finds that answer for each shape of
request. What is said of an answer besides, that it names the same function, that it is of the
variant a client expects for its code and that it is short enough to travel, is true of every answer
of these kinds. The main statement is `answer_of_decoded`.
-/

set_option autoImplicit false

namespace ModbusTcp

/-! ## Function codes -/

namespace FunctionCode

theorem function_marked (code : UInt8) : function (marked code) = function code := by
  obtain ⟨⟨code⟩⟩ := code
  revert code
  decide +kernel

theorem marked_function (code : UInt8) : marked (function code) = marked code := by
  obtain ⟨⟨code⟩⟩ := code
  revert code
  decide +kernel

theorem function_of_assigned {code : UInt8} (h : code ∈ VariantTable.codes) :
    function code = code := by
  simp only [VariantTable.codes, List.mem_cons, List.not_mem_nil, or_false] at h
  rcases h with rfl | rfl | rfl | rfl | rfl | rfl | rfl | rfl <;> rfl

theorem le_marked (code : UInt8) : 0x80 ≤ marked code := by
  obtain ⟨⟨code⟩⟩ := code
  revert code
  decide +kernel

end FunctionCode

open VariantTable (standard)

/-- A code with the mark of an exception is one of an exception. -/
theorem VariantTable.variant_create_marked (code : UInt8) :
    (standard.create .response (FunctionCode.marked code)).variant = .exception := by
  have hmark := FunctionCode.le_marked code
  have hother := not_assigned_of_marked hmark
  rcases variant_create_response (FunctionCode.marked code) with ⟨hcode, _⟩ | ⟨hcode, _⟩
    | ⟨hcode, _⟩ | ⟨hcode, _⟩ | ⟨_, hv⟩ | ⟨hcode, _⟩
  · simp [hother] at hcode
  · simp [hother] at hcode
  · simp [hother] at hcode
  · simp [hother] at hcode
  · exact hv
  · exact absurd hmark hcode.2.2.2.2.2.2.2.2

namespace Server

open Grammar

/-! ## Kinds of answers -/

/-- An exception in answer to a function code. -/
def Refuses (code reason : UInt8) (a : Message .response) : Prop :=
  a.code = FunctionCode.marked code ∧ a.payload = .exception reason

/-- The kind of answer that a request frame calls for. -/
def IsAnswerTo (f : List UInt8) (a : Message .response) : Prop :=
  let code := byteAt f 7
  let quantity := wordAt f 10
  if code = 1 ∨ code = 2 then
    if 1 ≤ quantity.toNat ∧ quantity.toNat ≤ 2000 then
      a.code = code ∧ a.payload = .bits (List.replicate ((quantity.toNat + 7) / 8) 0)
    else Refuses code 3 a
  else if code = 3 ∨ code = 4 then
    if 1 ≤ quantity.toNat ∧ quantity.toNat ≤ 125 then
      a.code = code ∧ a.payload = .registers (List.replicate quantity.toNat 0)
    else Refuses code 3 a
  else if code = 5 ∨ code = 6 then
    a.code = code ∧ a.payload = .wroteSingle (wordAt f 8) quantity
      ∧ a.frame = f.take (6 + lengthOf f)
  else if code = 15 ∨ code = 16 then
    a.code = code ∧ a.payload = .wroteMultiple (wordAt f 8) quantity
  else Refuses code 1 a

variable {f : List UInt8} {a : Message .response}

theorem refuses_refusal (request : Message .request) (reason : UInt8) :
    Refuses request.code reason (request.refusal reason) :=
  ⟨FunctionCode.marked_function request.code, rfl⟩

/-! ## What every answer has -/

theorem header_answer (request : Message .request) : (answer request).header = request.header := by
  have hspan : ∀ quantity, (answerSpan request quantity).header = request.header := by
    intro quantity
    unfold answerSpan
    simp only
    split
    · split <;> rfl
    · split <;> rfl
  unfold answer
  simp only
  split
  · exact hspan _
  · exact hspan _
  all_goals rfl

/-- No answer is too long: a read is refused before its data outgrow a frame. -/
theorem payloadSize_answer_le (request : Message .request) :
    (answer request).payloadSize ≤ 251 := by
  have hspan : ∀ quantity, (answerSpan request quantity).payloadSize ≤ 251 := by
    intro quantity
    unfold answerSpan
    simp only
    split
    · split
      · exact Nat.le_of_ble_eq_true rfl
      · rename_i hquantity
        rw [not_or, maximumRegisters, UInt16.lt_iff_toNat_lt] at hquantity
        refine Nat.le_trans (Nat.le_of_eq (Payload.length_bytes_registers _)) ?_
        rw [List.length_replicate]
        have h : ¬ 125 < quantity.toNat := hquantity.2
        omega
    · split
      · exact Nat.le_of_ble_eq_true rfl
      · rename_i hquantity
        rw [not_or, maximumBits, UInt16.lt_iff_toNat_lt] at hquantity
        refine Nat.le_trans (Nat.le_of_eq (Payload.length_bytes_bits _)) ?_
        rw [Bits.length_pack, List.length_replicate]
        have h : ¬ 2000 < quantity.toNat := hquantity.2
        omega
  unfold answer
  simp only
  split
  · exact hspan _
  · exact hspan _
  all_goals exact Nat.le_of_ble_eq_true rfl

/-- An answer has the code of its request and what a client expects for that code, or it is an
exception. -/
theorem IsAnswerTo.expected_or_refuses (h : IsAnswerTo f a) :
    (a.code = byteAt f 7 ∧ a.variant = (standard.create .response (byteAt f 7)).variant)
      ∨ ∃ reason, Refuses (byteAt f 7) reason a := by
  unfold IsAnswerTo at h
  simp only at h
  generalize byteAt f 7 = code at h ⊢
  -- Each kind of answer has one payload, and the payload decides the variant.
  by_cases hbits : code = 1 ∨ code = 2
  · rw [if_pos hbits] at h
    split at h
    · refine .inl ⟨h.1, ?_⟩
      rw [Message.variant, h.2]
      rcases hbits with rfl | rfl <;> rfl
    · exact .inr ⟨_, h⟩
  rw [if_neg hbits] at h
  by_cases hregisters : code = 3 ∨ code = 4
  · rw [if_pos hregisters] at h
    split at h
    · refine .inl ⟨h.1, ?_⟩
      rw [Message.variant, h.2]
      rcases hregisters with rfl | rfl <;> rfl
    · exact .inr ⟨_, h⟩
  rw [if_neg hregisters] at h
  by_cases hsingle : code = 5 ∨ code = 6
  · rw [if_pos hsingle] at h
    refine .inl ⟨h.1, ?_⟩
    rw [Message.variant, h.2.1]
    rcases hsingle with rfl | rfl <;> rfl
  rw [if_neg hsingle] at h
  by_cases hmultiple : code = 15 ∨ code = 16
  · rw [if_pos hmultiple] at h
    refine .inl ⟨h.1, ?_⟩
    rw [Message.variant, h.2]
    rcases hmultiple with rfl | rfl <;> rfl
  · rw [if_neg hmultiple] at h
    exact .inr ⟨_, h⟩

/-- An answer names the function that it was asked for. -/
theorem IsAnswerTo.function (h : IsAnswerTo f a) :
    a.function = FunctionCode.function (byteAt f 7) := by
  rcases h.expected_or_refuses with ⟨hcode, _⟩ | ⟨_, hcode, _⟩
  · rw [Message.function, hcode]
  · rw [Message.function, hcode, FunctionCode.function_marked]

/-- An answer is what a client expects for its code. -/
theorem IsAnswerTo.variant (h : IsAnswerTo f a) :
    a.variant = (standard.create .response a.code).variant := by
  rcases h.expected_or_refuses with ⟨hcode, hvariant⟩ | ⟨_, hcode, hpayload⟩
  · rw [hvariant, hcode]
  · rw [hcode, VariantTable.variant_create_marked, Message.variant, hpayload]
    rfl

/-! ## The answer to each shape of request -/

/-- When a quantity is refused: if there is nothing to read, or too much. -/
theorem refused_iff (quantity limit : UInt16) :
    (quantity = 0 ∨ limit < quantity)
      ↔ ¬ (1 ≤ quantity.toNat ∧ quantity.toNat ≤ limit.toNat) := by
  rw [UInt16.lt_iff_toNat_lt, ← UInt16.toNat_inj, UInt16.toNat_zero]
  omega

theorem answerSpan_bits (request : Message .request) (quantity : UInt16)
    (hcode : request.code = 1 ∨ request.code = 2) :
    if 1 ≤ quantity.toNat ∧ quantity.toNat ≤ 2000 then
      (answerSpan request quantity).code = request.code
        ∧ (answerSpan request quantity).payload
          = .bits (List.replicate ((quantity.toNat + 7) / 8) 0)
    else Refuses request.code 3 (answerSpan request quantity) := by
  have hfunction : request.function = request.code :=
    FunctionCode.function_of_assigned (by rcases hcode with h | h <;> simp [h, VariantTable.codes])
  have hother : ¬ (request.code = FunctionCode.readHoldingRegisters
      ∨ request.code = FunctionCode.readInputRegisters) := by
    rcases hcode with hcode | hcode <;> rw [hcode] <;> decide
  unfold answerSpan
  simp only [hfunction]
  rw [if_neg hother]
  split
  · rename_i hquantity
    rw [if_neg (mt (refused_iff _ _).mp (not_not.mpr hquantity)), ← Bits.pack_replicate_false]
    exact ⟨rfl, rfl⟩
  · rename_i hquantity
    rw [if_pos ((refused_iff _ maximumBits).mpr hquantity)]
    exact refuses_refusal request _

theorem answerSpan_registers (request : Message .request) (quantity : UInt16)
    (hcode : request.code = 3 ∨ request.code = 4) :
    if 1 ≤ quantity.toNat ∧ quantity.toNat ≤ 125 then
      (answerSpan request quantity).code = request.code
        ∧ (answerSpan request quantity).payload = .registers (List.replicate quantity.toNat 0)
    else Refuses request.code 3 (answerSpan request quantity) := by
  have hfunction : request.function = request.code :=
    FunctionCode.function_of_assigned (by rcases hcode with h | h <;> simp [h, VariantTable.codes])
  have hregisters : request.code = FunctionCode.readHoldingRegisters
      ∨ request.code = FunctionCode.readInputRegisters := hcode
  unfold answerSpan
  simp only [hfunction]
  rw [if_pos hregisters]
  split
  · rename_i hquantity
    rw [if_neg (mt (refused_iff _ _).mp (not_not.mpr hquantity))]
    exact ⟨rfl, rfl⟩
  · rename_i hquantity
    rw [if_pos ((refused_iff _ maximumRegisters).mpr hquantity)]
    exact refuses_refusal request _

/-- Every assigned function has two words behind its code. -/
theorem four_le_length {code : UInt8} {p : List UInt8} (h : IsRequestPayload code p)
    (hcode : code ∈ VariantTable.codes) : 4 ≤ p.length := by
  simp only [VariantTable.codes, List.mem_cons, List.not_mem_nil, or_false] at hcode
  rcases hcode with rfl | rfl | rfl | rfl | rfl | rfl | rfl | rfl
  · exact Nat.le_of_eq (Eq.symm h)
  · exact Nat.le_of_eq (Eq.symm h)
  · exact Nat.le_of_eq (Eq.symm h)
  · exact Nat.le_of_eq (Eq.symm h)
  · exact Nat.le_of_eq (Eq.symm h.1)
  · exact Nat.le_of_eq (Eq.symm h)
  · exact Nat.le_of_succ_le h.1
  · exact Nat.le_of_succ_le h.1

/-- The requests that a frame can hold. -/
theorem request_cases (hframe : IsFrame .request f) :
    ((byteAt f 7 = 1 ∨ byteAt f 7 = 2)
      ∧ (message .request f).payload = .readBits (wordAt f 8) (wordAt f 10))
    ∨ ((byteAt f 7 = 3 ∨ byteAt f 7 = 4)
      ∧ (message .request f).payload = .readRegisters (wordAt f 8) (wordAt f 10))
    ∨ (byteAt f 7 = 5 ∧ ∃ value, (message .request f).payload = .writeCoil (wordAt f 8) value
      ∧ coilWord value = wordAt f 10)
    ∨ (byteAt f 7 = 6 ∧ (message .request f).payload = .writeRegister (wordAt f 8) (wordAt f 10))
    ∨ (byteAt f 7 = 15 ∧ ∃ values, (message .request f).payload = .writeCoils (wordAt f 8) values
      ∧ UInt16.ofNat values.length = wordAt f 10)
    ∨ (byteAt f 7 = 16
      ∧ ∃ values, (message .request f).payload = .writeRegisters (wordAt f 8) values
        ∧ UInt16.ofNat values.length = wordAt f 10)
    ∨ (byteAt f 7 ∉ VariantTable.codes
      ∧ ∃ data, (message .request f).payload = .illegalFunction data) := by
  have hpayload : IsRequestPayload (byteAt f 7) (payloadOf f) := hframe.2.2.2
  have hmessage : (message .request f).payload = requestPayload (byteAt f 7) (payloadOf f) := rfl
  rw [hmessage]
  by_cases hcode : byteAt f 7 ∈ VariantTable.codes
  · -- The first two words of the payload are the fifth and the sixth of the frame.
    have hfour := four_le_length hpayload hcode
    rw [length_payloadOf hframe] at hfour
    have hstart : wordAt (payloadOf f) 0 = wordAt f 8 := by
      rw [payloadOf, wordAt_take (by omega), wordAt_drop]
    have hquantity : wordAt (payloadOf f) 2 = wordAt f 10 := by
      rw [payloadOf, wordAt_take (by omega), wordAt_drop]
    rw [← hstart, ← hquantity]
    generalize byteAt f 7 = code at hpayload hcode ⊢
    generalize payloadOf f = p at hpayload ⊢
    simp only [VariantTable.codes, List.mem_cons, List.not_mem_nil, or_false] at hcode
    rcases hcode with rfl | rfl | rfl | rfl | rfl | rfl | rfl | rfl
    · exact .inl ⟨.inl rfl, rfl⟩
    · exact .inl ⟨.inr rfl, rfl⟩
    · exact .inr (.inl ⟨.inl rfl, rfl⟩)
    · exact .inr (.inl ⟨.inr rfl, rfl⟩)
    · exact .inr (.inr (.inl ⟨rfl, _, rfl, Payload.coilWord_of_word hpayload.2⟩))
    · exact .inr (.inr (.inr (.inl ⟨rfl, rfl⟩)))
    · exact .inr (.inr (.inr (.inr (.inl ⟨rfl, _, rfl, by simp⟩))))
    · exact .inr (.inr (.inr (.inr (.inr (.inl ⟨rfl, _, rfl, by simp⟩)))))
  · refine .inr (.inr (.inr (.inr (.inr (.inr ⟨hcode, payloadOf f, ?_⟩)))))
    simp only [VariantTable.codes, List.mem_cons, List.not_mem_nil, or_false, not_or] at hcode
    simp only [requestPayload, hcode, or_self, if_false]

/-- Messages with the same header, the same code and the same bytes behind it have one frame,
whatever their roles. -/
theorem frame_congr {role role' : Role} {m : Message role} {m' : Message role'}
    (hheader : m.header = m'.header) (hcode : m.code = m'.code)
    (hbytes : m.payload.bytes = m'.payload.bytes) : m.frame = m'.frame := by
  unfold Message.frame
  rw [hheader, hcode, hbytes]

/-- The echo of a single write stands in a frame like that of the request. -/
theorem echo (address value : UInt16) (hframe : IsFrame .request f)
    (hcode : byteAt f 7 = 5 ∨ byteAt f 7 = 6)
    (hbytes : (message .request f).payload.bytes = Word.toBytes address ++ Word.toBytes value) :
    let a := (Message.writeSingleResponse (message .request f).function address value).copyHeader
      (message .request f)
    a.code = byteAt f 7 ∧ a.payload = .wroteSingle address value
      ∧ a.frame = f.take (6 + lengthOf f) := by
  intro a
  have hassigned : byteAt f 7 ∈ VariantTable.codes := by
    rcases hcode with h | h <;> simp [h, VariantTable.codes]
  have hfunction : a.code = byteAt f 7 := FunctionCode.function_of_assigned hassigned
  have hcoils : ¬ (Role.request = .request ∧ byteAt f 7 = 15) := by
    rintro ⟨_, h⟩
    rw [h] at hcode
    exact absurd hcode (by decide)
  refine ⟨hfunction, rfl, ?_⟩
  rw [← canonical_of_not_coils hframe hcoils, ← Message.frame_message hframe]
  exact frame_congr rfl hfunction hbytes.symm

/-- **A frame that holds a request gets the answer that it calls for.** -/
theorem answer_isAnswerTo (hframe : IsFrame .request f) :
    IsAnswerTo f (answer (message .request f)) := by
  have hassigned : byteAt f 7 ∈ VariantTable.codes → (message .request f).function = byteAt f 7 :=
    fun h => FunctionCode.function_of_assigned h
  unfold IsAnswerTo
  simp only
  -- One case for each shape of request: only reads have quantities to be refused.
  rcases request_cases hframe with ⟨hcode, hpayload⟩ | ⟨hcode, hpayload⟩
    | ⟨hcode, value, hpayload, hword⟩ | ⟨hcode, hpayload⟩ | ⟨hcode, values, hpayload, hcount⟩
    | ⟨hcode, values, hpayload, hcount⟩ | ⟨hcode, data, hpayload⟩
  · have hanswer : answer (message .request f)
        = answerSpan (message .request f) (wordAt f 10) := by rw [answer, hpayload]
    rw [if_pos hcode, hanswer]
    exact answerSpan_bits (message .request f) (wordAt f 10) hcode
  · have hanswer : answer (message .request f)
        = answerSpan (message .request f) (wordAt f 10) := by rw [answer, hpayload]
    have hbits : ¬ (byteAt f 7 = 1 ∨ byteAt f 7 = 2) := by
      rcases hcode with hcode | hcode <;> rw [hcode] <;> decide
    rw [if_neg hbits, if_pos hcode, hanswer]
    exact answerSpan_registers (message .request f) (wordAt f 10) hcode
  · have hecho := echo (wordAt f 8) (wordAt f 10) hframe (.inl hcode)
      (by rw [hpayload, Payload.bytes, hword])
    rw [hcode] at hecho ⊢
    rw [answer, hpayload]
    simp only [hword]
    exact hecho
  · have hecho := echo (wordAt f 8) (wordAt f 10) hframe (.inr hcode)
      (by rw [hpayload, Payload.bytes])
    rw [hcode] at hecho ⊢
    rw [answer, hpayload]
    exact hecho
  · have hfunction := hassigned (by simp [hcode, VariantTable.codes])
    rw [answer, hpayload]
    simp only [hfunction, hcount, hcode]
    exact ⟨rfl, rfl⟩
  · have hfunction := hassigned (by simp [hcode, VariantTable.codes])
    rw [answer, hpayload]
    simp only [hfunction, hcount, hcode]
    exact ⟨rfl, rfl⟩
  · simp only [VariantTable.codes, List.mem_cons, List.not_mem_nil, or_false, not_or] at hcode
    rw [answer, hpayload]
    simp only [hcode, or_self, if_false]
    exact refuses_refusal (message .request f) _

/-! ## Answers on their way -/

/-- A channel of the protocol reads a message that fits a frame when its frame comes in. -/
theorem read_of_frame {ρ σ : Type} [Transport ρ σ] {c : Channel ρ} {r : ρ} {s : σ} {role : Role}
    {m : Message role} {rest : List InputSymbol} (hc : c.BoundTo r) (htable : c.table = standard)
    (hm : m.variant = (standard.create role m.code).variant) (hsize : 8 + m.payloadSize ≤ 260)
    (hdelivers : Transport.Delivers r s (m.frame.map .byte ++ rest)) (start : Instant) :
    ∃ b' s', c.read role start s = some (.ok m, { c with buffer := b' }, s')
      ∧ Transport.Delivers r s' rest := by
  obtain ⟨outcome, b', s', hread, houtcome, -, hrest⟩ :=
    Channel.read_of_delivers hc hdelivers role start
  rw [htable, Framing.step_frame hm hsize] at houtcome hrest
  -- A read whose status is the message has failed in no way.
  rcases outcome with failure | value
  · exact nomatch houtcome
  · cases houtcome
    exact ⟨b', s', hread, hrest⟩

/-- **Every request that can be read gets a correct answer that can be sent and read.** Let a
request have been read from the front of some bytes by a message of the variant that the table has
for the function code. Its answer has the identifiers and the function of the request, and it is of
the kind that the frame calls for. It fits a frame, so that no connection is spared it. A client
reads it back from its frame as it is: a message of the variant that the table has for the code of
the answer does so from any place in a buffer, and a channel of the protocol from any connection,
however that cuts the frame. -/
theorem answer_of_decoded {old request : Message .request} {b b' : FrameBuffer}
    (hold : old.variant = (standard.create .request (byteAt f 7)).variant) (hb : b.WellFormed)
    (hunread : b.unread = f) (hdecoded : old.decode b = .success request b') :
    let a := answer request
    a.header = request.header ∧ request.header = ⟨wordAt f 0, wordAt f 2, byteAt f 6⟩
    ∧ a.function = request.function ∧ request.code = byteAt f 7
    ∧ IsAnswerTo f a
    ∧ a.frame.length ≤ 260
    ∧ (∀ {ρ σ : Type} [Transport ρ σ] (r : ρ) (s : Recorded ρ σ),
      (a.send r s).2.calls = s.calls ++ [.write r a.frame]
      ∧ ∀ length, (a.send r s).1 ≠ .error (.tooLong length))
    ∧ (∀ (client : Message .response) (b₂ : FrameBuffer) (rest : List UInt8),
      client.variant = (standard.create .response (byteAt a.frame 7)).variant → b₂.WellFormed →
      b₂.unread = a.frame ++ rest → client.decode b₂ = .success a (b₂.advance a.frame.length))
    ∧ (∀ {ρ σ : Type} [Transport ρ σ] (c : Channel ρ) (r : ρ) (s : σ) (rest : List InputSymbol)
      (start : Instant), c.BoundTo r → c.table = standard →
      Transport.Delivers r s (a.frame.map .byte ++ rest) →
      ∃ b' s', c.read .response start s = some (.ok a, { c with buffer := b' }, s')
        ∧ Transport.Delivers r s' rest) := by
  rw [← hunread] at hold
  obtain ⟨hframe, rfl⟩ := Message.eq_message_of_decoded hb hold hdecoded
  rw [hunread] at hframe ⊢
  intro a
  have hkind : IsAnswerTo f a := answer_isAnswerTo hframe
  have hvariant := hkind.variant
  have hlibrary : a.variant.IsLibrary := by
    rw [hvariant]
    exact VariantTable.isLibrary_variant_create .response a.code
  have hsize : 8 + a.payloadSize ≤ 260 := by
    have hpayload : a.payloadSize ≤ 251 := payloadSize_answer_le _
    omega
  refine ⟨header_answer _, rfl, hkind.function, rfl, hkind, ?_, ?_, ?_, ?_⟩
  · rw [Message.length_frame]
    exact hsize
  · intro ρ σ _ r s
    exact ⟨by rw [Message.snd_send_of_le hsize, Recorded.calls_write],
      Message.send_ne_tooLong hsize r s⟩
  · intro client b₂ rest hclient hb₂ hunread₂
    exact Message.decode_frame (hclient.trans hvariant.symm) hlibrary hsize hb₂ hunread₂
  · intro ρ σ _ c r s rest start hc htable hdelivers
    exact read_of_frame hc htable hvariant hsize hdelivers start

/-- A request for three registers, behind a byte that was read before, gets three zeros. -/
theorem answer_of_decoded_registers :
    let f : List UInt8 := [0, 1, 0, 0, 0, 6, 0x11, 3, 0, 0x6B, 0, 3]
    let request : Message .request := ⟨⟨1, 0, 0x11⟩, 3, .readRegisters 0x6B 3⟩
    let old : Message .request := .readRegistersRequest 4 0 0
    let b : FrameBuffer := ⟨0xAA :: f ++ [0xEE], 13, 1⟩
    (old.variant = (standard.create .request (byteAt f 7)).variant ∧ b.WellFormed ∧ b.unread = f
      ∧ old.decode b = .success request (b.advance 12))
    ∧ IsAnswerTo f (answer request)
    ∧ (answer request).frame = [0, 1, 0, 0, 0, 9, 0x11, 3, 6, 0, 0, 0, 0, 0, 0] := by
  intro f request old b
  have hold : old.variant = (standard.create .request (byteAt f 7)).variant := by decide
  have hb : b.WellFormed := ⟨by decide, by decide⟩
  have hunread : b.unread = f := by decide
  have hdecoded : old.decode b = .success request (b.advance 12) := by cbv
  have h := answer_of_decoded hold hb hunread hdecoded
  exact ⟨⟨hold, hb, hunread, hdecoded⟩, h.2.2.2.2.1, by decide⟩

end Server

end ModbusTcp
