import ModbusTcp.Proofs.Grammar
import ModbusTcp.Proofs.RoundTrip

/-!
What was read is written as it was read.

A payload of the grammar is determined by its fields, byte for byte: the words, the counts and the
verbatim bytes are all there again when it is written (`EncodePayload`,
`Payload.bytes_of_isPayload`). The one place where reading loses something is the last byte of a
list of coils. Its bits behind the last coil stand for nothing, and they are written as zeros.
`Grammar.canonical` is the frame with these bits cleared, and the main statement,
`Message.frame_of_decoded`, is that a message that was read from a frame is written as that.
-/

set_option autoImplicit false

namespace ModbusTcp

open VariantTable (standard)

namespace Grammar

/-- A payload with the bits cleared that belong to no coil. -/
def canonicalPayload (role : Role) (code : UInt8) (p : List UInt8) : List UInt8 :=
  if role = .request ∧ code = 15 then p.take 5 ++ Bits.clearFrom (wordAt p 2).toNat (p.drop 5)
  else p

/-- The frame at the front of the bytes with the bits cleared that belong to no coil. -/
def canonical (role : Role) (bytes : List UInt8) : List UInt8 :=
  bytes.take 8 ++ canonicalPayload role (byteAt bytes 7) (payloadOf bytes)

theorem dropLast_append_congr (front : List UInt8) {left right : List UInt8}
    (hlength : left.length = right.length) (h : left.dropLast = right.dropLast) :
    (front ++ left).dropLast = (front ++ right).dropLast := by
  have hempty : left.isEmpty = right.isEmpty := by
    rw [Bool.eq_iff_iff, List.isEmpty_iff_length_eq_zero, List.isEmpty_iff_length_eq_zero, hlength]
  rw [List.dropLast_append, List.dropLast_append, hempty, h]

theorem canonicalPayload_of_not_coils {role : Role} {code : UInt8}
    (h : ¬ (role = .request ∧ code = 15)) (p : List UInt8) : canonicalPayload role code p = p :=
  if_neg h

theorem length_canonicalPayload (role : Role) (code : UInt8) (p : List UInt8) :
    (canonicalPayload role code p).length = p.length := by
  unfold canonicalPayload
  split
  · rw [List.length_append, Bits.length_clearFrom, ← List.length_append, List.take_append_drop]
  · rfl

/-- Clearing the bits that belong to no coil changes no byte but the last one. -/
theorem dropLast_canonicalPayload {role : Role} {code : UInt8} {p : List UInt8}
    (h : IsPayload role code p) : (canonicalPayload role code p).dropLast = p.dropLast := by
  by_cases hcoils : role = .request ∧ code = 15
  · obtain ⟨rfl, rfl⟩ := hcoils
    obtain ⟨_, hcount, hlength⟩ : IsRequestPayload 15 p := h
    -- As many bytes of coils follow as the count needs, so none but the last has bits to spare.
    have hdata : (p.drop 5).length = ((wordAt p 2).toNat + 7) / 8 := by
      rw [List.length_drop]
      omega
    rw [canonicalPayload, if_pos ⟨rfl, rfl⟩,
      dropLast_append_congr _ (Bits.length_clearFrom ..) (Bits.dropLast_clearFrom hdata),
      List.take_append_drop]
  · rw [canonicalPayload_of_not_coils hcoils]

section Frame

variable {role : Role} {bytes : List UInt8}

theorem length_payloadOf (hframe : IsFrame role bytes) :
    (payloadOf bytes).length = lengthOf bytes - 2 := by
  obtain ⟨height, htwo, hlength, _⟩ := hframe
  rw [payloadOf, List.length_take, List.length_drop]
  omega

theorem take_append_payloadOf (hframe : IsFrame role bytes) :
    bytes.take 8 ++ payloadOf bytes = bytes.take (6 + lengthOf bytes) := by
  obtain ⟨_, htwo, _, _⟩ := hframe
  have hsum : 6 + lengthOf bytes = 8 + (lengthOf bytes - 2) := by omega
  rw [payloadOf, hsum, List.take_add]

theorem length_canonical (hframe : IsFrame role bytes) :
    (canonical role bytes).length = 6 + lengthOf bytes := by
  have hpayload := length_payloadOf hframe
  obtain ⟨height, htwo, _, _⟩ := hframe
  rw [canonical, List.length_append, length_canonicalPayload, hpayload, List.length_take]
  omega

theorem dropLast_canonical (hframe : IsFrame role bytes) :
    (canonical role bytes).dropLast = (bytes.take (6 + lengthOf bytes)).dropLast := by
  have hlast := dropLast_canonicalPayload hframe.2.2.2
  rw [canonical, dropLast_append_congr _ (length_canonicalPayload ..) hlast,
    take_append_payloadOf hframe]

theorem canonical_of_not_coils (hframe : IsFrame role bytes)
    (hcoils : ¬ (role = .request ∧ byteAt bytes 7 = 15)) :
    canonical role bytes = bytes.take (6 + lengthOf bytes) := by
  rw [canonical, canonicalPayload_of_not_coils hcoils, take_append_payloadOf hframe]

end Frame

end Grammar

namespace Payload

open Grammar

/-! ## Payloads

One lemma for each shape, put together for each role. -/

theorem bytes_of_words {p : List UInt8} (h : p.length = 4) :
    Word.toBytes (wordAt p 0) ++ Word.toBytes (wordAt p 2) = p := by
  rw [toBytes_wordAt, toBytes_wordAt]
  match p, h with
  | [_, _, _, _], _ => rfl

/-- Only two words stand for a coil, so the word is known from the state of the coil. -/
theorem coilWord_of_word {word : UInt16} (h : word = 0xFF00 ∨ word = 0x0000) :
    coilWord (decide (word = 0xFF00)) = word := by
  rcases h with rfl | rfl <;> decide

theorem bytes_of_coil {p : List UInt8} (h : p.length = 4)
    (hword : wordAt p 2 = 0xFF00 ∨ wordAt p 2 = 0x0000) :
    (writeCoil (wordAt p 0) (wordAt p 2 = 0xFF00)).bytes = p := by
  rw [bytes, coilWord_of_word hword, bytes_of_words h]

/-- The head of a list: a start, a count and a byte count. -/
theorem head_of_list {p : List UInt8} (h : 5 ≤ p.length) :
    Word.toBytes (wordAt p 0) ++ Word.toBytes (wordAt p 2) ++ [byteAt p 4] = p.take 5 := by
  rw [toBytes_wordAt, toBytes_wordAt]
  match p, h with
  | _ :: _ :: _ :: _ :: _ :: _, _ => rfl

theorem bytes_of_coils {p : List UInt8} (h : 5 ≤ p.length)
    (hcount : (byteAt p 4).toNat = ((wordAt p 2).toNat + 7) / 8)
    (hlength : p.length = 5 + (byteAt p 4).toNat) :
    (writeCoils (wordAt p 0) ((List.range (wordAt p 2).toNat).map (Bits.bitAt (p.drop 5)))).bytes
      = p.take 5 ++ Bits.clearFrom (wordAt p 2).toNat (p.drop 5) := by
  have hdata : (p.drop 5).length = ((wordAt p 2).toNat + 7) / 8 := by
    rw [List.length_drop]
    omega
  have hbyteCount : UInt8.ofNat (p.drop 5).length = byteAt p 4 := by
    rw [hdata, ← hcount, UInt8.ofNat_toNat]
  rw [bytes, ← Bits.unpack_eq_map_bitAt, Bits.pack_unpack hdata]
  simp only [Bits.length_unpack, Bits.length_clearFrom, hbyteCount, UInt16.ofNat_toNat]
  rw [← head_of_list h, List.append_assoc _ [_] _]
  rfl

/-- Words at the even offsets behind some bytes are written as what stands there. -/
theorem flatMap_toBytes_wordAt {p : List UInt8} {start count : Nat}
    (h : p.length = start + 2 * count) :
    ((List.range count).map fun i => wordAt p (start + 2 * i)).flatMap Word.toBytes
      = p.drop start := by
  have hlength : (p.drop start).length = 2 * count := by
    rw [List.length_drop]
    omega
  have hwords : wordsOf (p.drop start)
      = (List.range count).map fun i => wordAt p (start + 2 * i) := by
    rw [wordsOf_eq_map_wordAt, hlength, Nat.mul_div_cancel_left _ (by decide)]
    simp only [wordAt_drop]
  rw [← hwords, flatMap_toBytes_wordsOf (by omega)]

theorem bytes_of_registers {p : List UInt8} (h : 5 ≤ p.length)
    (hcount : (byteAt p 4).toNat = 2 * (wordAt p 2).toNat)
    (hlength : p.length = 5 + (byteAt p 4).toNat) :
    (writeRegisters (wordAt p 0)
      ((List.range (wordAt p 2).toNat).map fun i => wordAt p (5 + 2 * i))).bytes = p := by
  have hbyteCount : UInt8.ofNat (2 * (wordAt p 2).toNat) = byteAt p 4 := by
    rw [← hcount, UInt8.ofNat_toNat]
  rw [bytes, flatMap_toBytes_wordAt (by omega)]
  simp only [List.length_map, List.length_range, hbyteCount, UInt16.ofNat_toNat]
  -- The head and what follows it are the whole payload.
  rw [← List.singleton_append, ← List.append_assoc, head_of_list h, List.take_append_drop]

theorem byteCount_cons_drop {p : List UInt8} {count : Nat} (h : p.length = 1 + count)
    (hcount : UInt8.ofNat count = byteAt p 0) : UInt8.ofNat count :: p.drop 1 = p := by
  rw [hcount]
  match p, h with
  | [], h => simp only [List.length_nil] at h; omega
  | _ :: _, _ => rfl

theorem bytes_of_bits {p : List UInt8} (h : p.length = 1 + (byteAt p 0).toNat) :
    (bits (p.drop 1)).bytes = p := by
  have hcount : (p.drop 1).length = (byteAt p 0).toNat := by
    rw [List.length_drop]
    omega
  rw [bytes, hcount]
  exact byteCount_cons_drop h UInt8.ofNat_toNat

theorem bytes_of_values {p : List UInt8} (h : p.length = 1 + (byteAt p 0).toNat)
    (heven : (byteAt p 0).toNat % 2 = 0) :
    (registers ((List.range ((byteAt p 0).toNat / 2)).map fun i => wordAt p (1 + 2 * i))).bytes
      = p := by
  have htwice : 2 * ((byteAt p 0).toNat / 2) = (byteAt p 0).toNat := by omega
  rw [bytes, flatMap_toBytes_wordAt (by omega), List.length_map, List.length_range, htwice]
  exact byteCount_cons_drop h UInt8.ofNat_toNat

theorem bytes_of_exception {p : List UInt8} (h : p.length = 1) :
    (exception (byteAt p 0)).bytes = p := by
  match p, h with
  | [_], _ => rfl

theorem bytes_of_isRequestPayload {code : UInt8} {p : List UInt8} (h : IsRequestPayload code p) :
    (requestPayload code p).bytes = canonicalPayload .request code p := by
  unfold IsRequestPayload at h
  -- One case for each group of codes whose payloads have one shape.
  rcases VariantTable.variant_create_request code with ⟨hcode, _⟩ | ⟨hcode, _⟩ | ⟨hcode, _⟩
    | ⟨hcode, _⟩ | ⟨hcode, _⟩ | ⟨hcode, _⟩ | ⟨hcode, _⟩
  · rcases hcode with rfl | rfl <;> exact bytes_of_words h
  · rcases hcode with rfl | rfl <;> exact bytes_of_words h
  · subst hcode
    exact bytes_of_coil h.1 h.2
  · subst hcode
    exact bytes_of_words h
  · subst hcode
    exact bytes_of_coils h.1 h.2.1 h.2.2
  · subst hcode
    exact bytes_of_registers h.1 h.2.1 h.2.2
  · simp only [requestPayload, canonicalPayload, hcode, or_self, and_false, if_false, bytes]

theorem bytes_of_isResponsePayload {code : UInt8} {p : List UInt8}
    (h : IsResponsePayload code p) : (responsePayload code p).bytes = p := by
  unfold IsResponsePayload at h
  rcases VariantTable.variant_create_response code with ⟨hcode, _⟩ | ⟨hcode, _⟩ | ⟨hcode, _⟩
    | ⟨hcode, _⟩ | ⟨hcode, _⟩ | ⟨hcode, _⟩
  · rcases hcode with rfl | rfl <;> exact bytes_of_bits h
  · rcases hcode with rfl | rfl <;> exact bytes_of_values h.1 h.2
  · rcases hcode with rfl | rfl <;> exact bytes_of_words h
  · rcases hcode with rfl | rfl <;> exact bytes_of_words h
  · have hother := VariantTable.not_assigned_of_marked hcode
    simp only [hother, hcode, or_self, if_false, if_true] at h
    simp only [responsePayload, hother, hcode, or_self, if_false, if_true]
    exact bytes_of_exception h
  · simp only [responsePayload, hcode, or_self, if_false, bytes]

/-- **A payload of the grammar is written as it was read,** up to the bits that belong to no
coil. -/
theorem bytes_of_isPayload {role : Role} {code : UInt8} {p : List UInt8}
    (h : IsPayload role code p) : (Grammar.payload role code p).bytes
      = canonicalPayload role code p := by
  cases role with
  | request => exact bytes_of_isRequestPayload h
  | response =>
    have hsame : canonicalPayload .response code p = p := if_neg (fun hrole => nomatch hrole.1)
    rw [hsame]
    exact bytes_of_isResponsePayload h

end Payload

namespace Message

open Grammar Recorded

variable {role : Role} {f : List UInt8}

/-! ## Frames -/

/-- The eight bytes before a payload, as the fields that they hold. -/
theorem head_of_frame (h : 8 ≤ f.length) :
    Word.toBytes (wordAt f 0) ++ Word.toBytes (wordAt f 2) ++ Word.toBytes (wordAt f 4)
      ++ [byteAt f 6, byteAt f 7] = f.take 8 := by
  rw [toBytes_wordAt, toBytes_wordAt, toBytes_wordAt]
  match f, h with
  | _ :: _ :: _ :: _ :: _ :: _ :: _ :: _ :: _, _ => rfl

/-- The message that a frame spells is written as that frame. -/
theorem frame_message (hframe : IsFrame role f) : (message role f).frame = canonical role f := by
  have hlength := length_payloadOf hframe
  obtain ⟨height, htwo, _, hpayload⟩ := hframe
  have hbytes : (message role f).payload.bytes
      = canonicalPayload role (byteAt f 7) (payloadOf f) := Payload.bytes_of_isPayload hpayload
  -- The payload has as many bytes as before, so the length field is the old one too.
  have hfield : UInt16.ofNat (2 + (message role f).payload.bytes.length) = wordAt f 4 := by
    have hsum : 2 + (lengthOf f - 2) = lengthOf f := by omega
    rw [hbytes, length_canonicalPayload, hlength, hsum, lengthOf, UInt16.ofNat_toNat]
  unfold frame canonical
  simp only [hfield]
  rw [hbytes, ← head_of_frame height, List.append_assoc _ [_, _] _]
  rfl

/-- The frame of a message of the protocol has no bits that belong to no coil. -/
theorem canonical_frame {m : Message role} (hm : m.variant = (standard.create role m.code).variant)
    (hfits : 8 + m.payloadSize ≤ 260) : canonical role m.frame = m.frame := by
  have hlibrary : m.variant.IsLibrary := by
    rw [hm]
    exact VariantTable.isLibrary_variant_create role _
  have hb := FrameBuffer.wellFormed_whole m.frame
  have hunread := FrameBuffer.unread_whole m.frame
  have hrest : FrameBuffer.unread ⟨m.frame, m.frame.length, 0⟩ = m.frame ++ [] := by
    rw [hunread, List.append_nil]
  -- The message is what its frame says, so writing it is writing what the frame says.
  have hdecoded := decode_frame rfl hlibrary hfits hb hrest
  obtain ⟨hframe, hmessage⟩ := eq_message_of_decoded hb (by rw [hunread]; exact hm) hdecoded
  rw [hunread] at hframe hmessage
  rw [← frame_message hframe, ← hmessage]

/-- **What was read is written as it was read.** Let a message have been read from a frame of its
role, all of it and nothing more, by a message of the variant that the table has for the function
code. Then its own frame has the size of that frame and all its bytes, except that in a list of
coils the bits of the last byte that belong to no coil are zero. So it is never too long to be sent,
whatever the connection; it is read back from its frame as it is, by any message of its variant and
from any place in a buffer; and writing it again changes nothing more. -/
theorem frame_of_decoded {old m : Message role} {b b' : FrameBuffer}
    (hlength : f.length = 6 + lengthOf f) (hlimit : lengthOf f ≤ 254)
    (hold : old.variant = (standard.create role (byteAt f 7)).variant) (hb : b.WellFormed)
    (hunread : b.unread = f) (hdecoded : old.decode b = .success m b') :
    m.frame.length = f.length
    ∧ m.frame = canonical role f
    ∧ m.frame.dropLast = f.dropLast
    ∧ (¬ (role = .request ∧ byteAt f 7 = 15) → m.frame = f)
    ∧ (∀ {ρ σ : Type} [Transport ρ σ] (r : ρ) (s : Recorded ρ σ),
      (m.send r s).2.calls = s.calls ++ [.write r m.frame]
      ∧ ∀ length, (m.send r s).1 ≠ .error (.tooLong length))
    ∧ (∀ (again : Message role) (b₂ : FrameBuffer),
      again.variant = (standard.create role (byteAt m.frame 7)).variant → b₂.WellFormed →
      b₂.unread = m.frame → again.decode b₂ = .success m (b₂.advance m.frame.length))
    ∧ canonical role m.frame = m.frame := by
  rw [← hunread] at hold
  obtain ⟨hframe, rfl⟩ := eq_message_of_decoded hb hold hdecoded
  rw [hunread] at hframe ⊢
  have hm := variant_message role f
  have hwritten := frame_message hframe
  have hsize : (message role f).frame.length = f.length := by
    rw [hwritten, length_canonical hframe, hlength]
  have hwhole : f.take (6 + lengthOf f) = f := by rw [← hlength, List.take_length]
  have hfits : 8 + (message role f).payloadSize ≤ 260 := by
    rw [← length_frame, hsize]
    omega
  have hlibrary : (message role f).variant.IsLibrary := by
    rw [hm]
    exact VariantTable.isLibrary_variant_create role _
  have hagain : ∀ (again : Message role) (b₂ : FrameBuffer),
      again.variant = (standard.create role (byteAt (message role f).frame 7)).variant →
      b₂.WellFormed → b₂.unread = (message role f).frame →
      again.decode b₂
        = .success (message role f) (b₂.advance (message role f).frame.length) := by
    intro again b₂ hvariant hb₂ hunread₂
    rw [← List.append_nil (message role f).frame] at hunread₂
    exact decode_frame (hvariant.trans hm.symm) hlibrary hfits hb₂ hunread₂
  refine ⟨hsize, hwritten, ?_, ?_, ?_, hagain, ?_⟩
  · rw [hwritten, dropLast_canonical hframe, hwhole]
  · intro hcoils
    rw [hwritten, canonical_of_not_coils hframe hcoils, hwhole]
  · intro ρ σ _ r s
    exact ⟨by rw [snd_send_of_le hfits, calls_write], send_ne_tooLong hfits r s⟩
  · exact canonical_frame hm hfits

/-- Ten coils, and six bits behind them that are set for no coil: these come back as zeros. -/
theorem frame_of_decoded_coils :
    let f : List UInt8 := [0, 1, 0, 0, 0, 9, 0x11, 15, 0, 0x13, 0, 10, 2, 0xCD, 0xFD]
    let m : Message .request :=
      ⟨⟨1, 0, 0x11⟩, 15,
        .writeCoils 0x13 [true, false, true, true, false, false, true, true, true, false]⟩
    let old : Message .request := .writeCoilsRequest 7 [true]
    let b : FrameBuffer := ⟨0xAA :: f ++ [0xEE], 16, 1⟩
    (f.length = 6 + lengthOf f ∧ lengthOf f ≤ 254
      ∧ old.variant = (standard.create .request (byteAt f 7)).variant ∧ b.WellFormed
      ∧ b.unread = f ∧ old.decode b = .success m (b.advance 15))
    ∧ m.frame = [0, 1, 0, 0, 0, 9, 0x11, 15, 0, 0x13, 0, 10, 2, 0xCD, 0x01]
    ∧ m.frame.dropLast = f.dropLast := by
  intro f m old b
  have hlength : f.length = 6 + lengthOf f := by decide
  have hlimit : lengthOf f ≤ 254 := by decide
  have hold : old.variant = (standard.create .request (byteAt f 7)).variant := by decide
  have hb : b.WellFormed := ⟨by decide, by decide⟩
  have hunread : b.unread = f := by decide
  have hdecoded : old.decode b = .success m (b.advance 15) := by cbv
  have hcanonical : canonical .request f
      = [0, 1, 0, 0, 0, 9, 0x11, 15, 0, 0x13, 0, 10, 2, 0xCD, 0x01] := by decide
  have h := frame_of_decoded hlength hlimit hold hb hunread hdecoded
  rw [hcanonical] at h
  exact ⟨⟨hlength, hlimit, hold, hb, hunread, hdecoded⟩, h.2.1, h.2.2.1⟩

end Message

end ModbusTcp
