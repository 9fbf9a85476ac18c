import Mathlib.Logic.Basic
import ModbusTcp.Message.Send
import ModbusTcp.Proofs.Parsing
import ModbusTcp.Proofs.Recording
import ModbusTcp.Transport.Memory

/-!
A message is refused or sent faithfully (`EncodeTo`).

A frame cuts its counts down to the fields that hold them: the length to 16 bits, a number of
elements to 16, a byte count to 8. No frame that may travel is long enough for that to lose
anything (`Message.counted_frame`), and parsing gives back the message that was written
(`Message.parse_frame`), whatever stands behind the frame and whatever the reading message held
before. The main statement is `Message.send_refuses_or_is_faithful`.
-/

set_option autoImplicit false

namespace ModbusTcp

namespace Payload

variable {role : Role}

/-! ## Sizes -/

theorem length_bytes_writeCoils (start : UInt16) (values : List Bool) :
    (writeCoils start values).bytes.length = 5 + (values.length + 7) / 8 := by
  simp only [bytes, List.length_append, List.length_cons, Word.length_toBytes, Bits.length_pack]
  omega

theorem length_bytes_writeRegisters (start : UInt16) (values : List UInt16) :
    (writeRegisters start values).bytes.length = 5 + 2 * values.length := by
  simp only [bytes, List.length_append, List.length_cons, Word.length_toBytes,
    length_flatMap_toBytes]
  omega

theorem length_bytes_bits (packed : List UInt8) :
    (bits packed).bytes.length = 1 + packed.length := by
  rw [bytes, List.length_cons, Nat.add_comm]

theorem length_bytes_registers (values : List UInt16) :
    (registers values).bytes.length = 1 + 2 * values.length := by
  rw [bytes, List.length_cons, length_flatMap_toBytes, Nat.add_comm]

/-! ## Counts

A field holds the true number as long as the number fits it. -/

theorem toNat_count_writeCoils (start : UInt16) {values : List Bool}
    (hcount : values.length < 65536) :
    (wordAt (writeCoils start values).bytes 2).toNat = values.length := by
  have hword : wordAt (writeCoils start values).bytes 2 = UInt16.ofNat values.length :=
    Word.ofBytes_high_low _
  rw [hword, UInt16.toNat_ofNat_of_lt' hcount]

theorem toNat_byteCount_writeCoils (start : UInt16) {values : List Bool}
    (hpacked : (values.length + 7) / 8 < 256) :
    (byteAt (writeCoils start values).bytes 4).toNat = (values.length + 7) / 8 := by
  have hbyte : byteAt (writeCoils start values).bytes 4 = UInt8.ofNat (Bits.pack values).length :=
    rfl
  rw [hbyte, Bits.length_pack, UInt8.toNat_ofNat_of_lt' hpacked]

theorem toNat_count_writeRegisters (start : UInt16) {values : List UInt16}
    (hcount : values.length < 65536) :
    (wordAt (writeRegisters start values).bytes 2).toNat = values.length := by
  have hword : wordAt (writeRegisters start values).bytes 2 = UInt16.ofNat values.length :=
    Word.ofBytes_high_low _
  rw [hword, UInt16.toNat_ofNat_of_lt' hcount]

theorem toNat_byteCount_writeRegisters (start : UInt16) {values : List UInt16}
    (hbytes : 2 * values.length < 256) :
    (byteAt (writeRegisters start values).bytes 4).toNat = 2 * values.length :=
  UInt8.toNat_ofNat_of_lt' hbytes

theorem toNat_byteCount_bits {packed : List UInt8} (hbytes : packed.length < 256) :
    (byteAt (bits packed).bytes 0).toNat = packed.length :=
  UInt8.toNat_ofNat_of_lt' hbytes

theorem toNat_byteCount_registers {values : List UInt16} (hbytes : 2 * values.length < 256) :
    (byteAt (registers values).bytes 0).toNat = 2 * values.length :=
  UInt8.toNat_ofNat_of_lt' hbytes

/-! ## Parsing what was written

One lemma for each shape of payload. The lists are as long as they may be before a count loses a
bit; a payload that fits a frame is shorter (`parse_bytes`). -/

theorem parseWords_toBytes (form : FixedForm) (old : Payload role)
    (whole : UInt16 → UInt16 → Payload role) (first second : UInt16) :
    parseWords form old whole (Word.toBytes first ++ Word.toBytes second)
      = .accepted (whole first second) 4 := by
  have hfirst : wordAt (Word.toBytes first ++ Word.toBytes second) 0 = first :=
    Word.ofBytes_high_low _
  have hsecond : wordAt (Word.toBytes first ++ Word.toBytes second) 2 = second :=
    Word.ofBytes_high_low _
  have hlength : (Word.toBytes first ++ Word.toBytes second).length = 4 := rfl
  rw [parseWords, if_pos hlength, hfirst, hsecond]

theorem parseCoil_bytes (address address' : UInt16) (value value' : Bool) :
    parseCoil address' value' (writeCoil address value).bytes
      = .accepted (.writeCoil address value) 4 := by
  have haddress : wordAt (writeCoil address value).bytes 0 = address := Word.ofBytes_high_low _
  have hword : wordAt (writeCoil address value).bytes 2 = coilWord value := Word.ofBytes_high_low _
  have hlength : (writeCoil address value).bytes.length = 4 := rfl
  rw [parseCoil, if_pos hlength, haddress, hword]
  cases value <;> rfl

theorem parseCoils_bytes (start start' : UInt16) {values : List Bool} (values' : List Bool)
    (hcount : values.length < 65536) (hpacked : (values.length + 7) / 8 < 256) :
    parseCoils start' values' (writeCoils start values).bytes
      = .accepted (.writeCoils start values) (writeCoils start values).bytes.length := by
  have hlength := length_bytes_writeCoils start values
  have hstart : wordAt (writeCoils start values).bytes 0 = start := Word.ofBytes_high_low _
  have hrest : (writeCoils start values).bytes.drop 5 = Bits.pack values := rfl
  rw [parseCoils, if_neg (by omega), toNat_count_writeCoils start hcount,
    toNat_byteCount_writeCoils start hpacked, if_pos ⟨rfl, hlength⟩, hstart, hrest,
    Bits.unpack_pack]

theorem parseRegisters_bytes (start start' : UInt16) {values : List UInt16}
    (values' : List UInt16) (hcount : 2 * values.length < 256) :
    parseRegisters start' values' (writeRegisters start values).bytes
      = .accepted (.writeRegisters start values) (writeRegisters start values).bytes.length := by
  have hlength := length_bytes_writeRegisters start values
  have hstart : wordAt (writeRegisters start values).bytes 0 = start := Word.ofBytes_high_low _
  have hrest : (writeRegisters start values).bytes.drop 5 = values.flatMap Word.toBytes := rfl
  rw [parseRegisters, if_neg (by omega), toNat_count_writeRegisters start (by omega),
    toNat_byteCount_writeRegisters start hcount, if_pos ⟨rfl, hlength⟩, hstart, hrest,
    wordsOf_flatMap_toBytes]

theorem parsePacked_bytes {packed : List UInt8} (packed' : List UInt8)
    (hcount : packed.length < 256) :
    parsePacked packed' (bits packed).bytes
      = .accepted (.bits packed) (bits packed).bytes.length := by
  have hlength := length_bytes_bits packed
  rw [parsePacked, if_neg (by omega), toNat_byteCount_bits hcount, if_pos hlength]
  rfl

theorem parseValues_bytes {values : List UInt16} (values' : List UInt16)
    (hcount : 2 * values.length < 256) :
    parseValues values' (registers values).bytes
      = .accepted (.registers values) (registers values).bytes.length := by
  have hlength := length_bytes_registers values
  have hrest : (registers values).bytes.drop 1 = values.flatMap Word.toBytes := rfl
  rw [parseValues, if_neg (by omega), toNat_byteCount_registers hcount,
    if_pos ⟨hlength, by omega⟩, hrest, wordsOf_flatMap_toBytes]

/-- **A payload that fits a frame is read back by every message of its variant.** -/
theorem parse_bytes {old new : Payload role} (hvariant : old.variant = new.variant)
    (hlibrary : new.variant.IsLibrary) (hsize : new.bytes.length ≤ 252) :
    old.parse new.bytes.length new.bytes = .accepted new new.bytes.length := by
  -- Both messages are of one variant, so one shape of payload is left for each.
  cases new <;> cases old <;> simp only [variant, reduceCtorEq] at hvariant
  case custom.custom => exact absurd rfl (hlibrary _)
  -- The payload is read from its own bytes, so nothing is cut off behind it.
  all_goals rw [parse, List.take_length]
  case readBits.readBits => exact parseWords_toBytes ..
  case readRegisters.readRegisters => exact parseWords_toBytes ..
  case writeCoil.writeCoil => exact parseCoil_bytes ..
  case writeRegister.writeRegister => exact parseWords_toBytes ..
  case writeCoils.writeCoils =>
    rw [length_bytes_writeCoils] at hsize
    exact parseCoils_bytes _ _ _ (by omega) (by omega)
  case writeRegisters.writeRegisters =>
    rw [length_bytes_writeRegisters] at hsize
    exact parseRegisters_bytes _ _ _ (by omega)
  case illegalFunction.illegalFunction => rfl
  case bits.bits =>
    rw [length_bytes_bits] at hsize
    exact parsePacked_bytes _ (by omega)
  case registers.registers =>
    rw [length_bytes_registers] at hsize
    exact parseValues_bytes _ (by omega)
  case wroteSingle.wroteSingle => exact parseWords_toBytes ..
  case wroteMultiple.wroteMultiple => exact parseWords_toBytes ..
  case exception.exception => rfl
  case unsupportedFunction.unsupportedFunction => rfl

/-- What the lists in a frame are counted by: each count is the true number of elements, each byte
count the true number of bytes, and no list is longer than a frame has room for. -/
def CountedIn (frame : List UInt8) : Payload role → Prop
  | .writeCoils _ values =>
    values.length ≤ 1976 ∧ (wordAt frame 10).toNat = values.length
      ∧ (byteAt frame 12).toNat = (values.length + 7) / 8
      ∧ frame.length = 13 + (byteAt frame 12).toNat
  | .writeRegisters _ values =>
    values.length ≤ 123 ∧ (wordAt frame 10).toNat = values.length
      ∧ (byteAt frame 12).toNat = 2 * values.length
      ∧ frame.length = 13 + (byteAt frame 12).toNat
  | .bits packed =>
    packed.length ≤ 251 ∧ (byteAt frame 8).toNat = packed.length
      ∧ frame.length = 9 + (byteAt frame 8).toNat
  | .registers values =>
    values.length ≤ 125 ∧ (byteAt frame 8).toNat = 2 * values.length
      ∧ frame.length = 9 + (byteAt frame 8).toNat
  | _ => True

end Payload

namespace Message

variable {role : Role} {m : Message role}

/-! ## Frames -/

theorem drop_frame (m : Message role) (rest : List UInt8) :
    (m.frame ++ rest).drop 8 = m.payload.bytes ++ rest := rfl

/-- The length field of a frame that may travel holds the true length. -/
theorem toNat_length_frame (hsize : 8 + m.payloadSize ≤ 260) (rest : List UInt8) :
    (wordAt (m.frame ++ rest) 4).toNat = 2 + m.payloadSize := by
  have hword : wordAt (m.frame ++ rest) 4 = UInt16.ofNat (2 + m.payloadSize) :=
    Word.ofBytes_high_low _
  rw [hword, UInt16.toNat_ofNat_of_lt' (show 2 + m.payloadSize < 65536 by omega)]

/-- **A frame that may travel is read back by every message of its variant,** whatever stands
behind it. -/
theorem parse_frame {old : Message role} (hvariant : old.variant = m.variant)
    (hlibrary : m.variant.IsLibrary) (hsize : 8 + m.payloadSize ≤ 260) (rest : List UInt8) :
    old.parse (m.frame ++ rest) = .accepted m m.frame.length := by
  have hlength := toNat_length_frame hsize rest
  have htransaction : wordAt (m.frame ++ rest) 0 = m.header.transaction := Word.ofBytes_high_low _
  have hprotocol : wordAt (m.frame ++ rest) 2 = m.header.protocol := Word.ofBytes_high_low _
  have hunit : byteAt (m.frame ++ rest) 6 = m.header.unit := rfl
  have hcode : byteAt (m.frame ++ rest) 7 = m.code := rfl
  have hwhole : (m.frame ++ rest).length = 8 + m.payloadSize + rest.length := by
    rw [List.length_append, length_frame]
  -- A variant of the library does not see what stands behind the payload.
  have hpayload : old.payload.parse m.payloadSize (m.payload.bytes ++ rest)
      = .accepted m.payload m.payloadSize := by
    have htake : (m.payload.bytes ++ rest).take m.payloadSize = m.payload.bytes :=
      List.take_left
    rw [← Payload.parse_take (by rwa [← Message.variant, hvariant]), htake]
    exact Payload.parse_bytes hvariant hlibrary (by rw [← payloadSize]; omega)
  have hroom : ¬ wordAt (m.frame ++ rest) 4 < 2 := by
    rw [UInt16.lt_iff_toNat_lt, hlength]
    exact Nat.not_lt.mpr (Nat.le_add_right 2 _)
  rw [parse, if_neg (by omega), if_neg hroom, hlength,
    if_neg (by omega), Nat.add_sub_cancel_left, drop_frame, htransaction, hprotocol, hunit, hcode,
    parsePayload, hpayload, length_frame]
  simp only [Parsed.accepted, ne_eq, not_true_eq_false, if_false]

theorem wordAt_frame (m : Message role) (offset : Nat) :
    wordAt m.frame (8 + offset) = wordAt m.payload.bytes offset := by
  rw [← wordAt_drop, ← List.append_nil m.frame, drop_frame, List.append_nil]

theorem byteAt_frame (m : Message role) (offset : Nat) :
    byteAt m.frame (8 + offset) = byteAt m.payload.bytes offset := by
  rw [← byteAt_drop, ← List.append_nil m.frame, drop_frame, List.append_nil]

/-- The counts in a frame that may travel are the true ones: it has no room for so many elements
that a field could not hold their number. -/
theorem counted_frame (hsize : 8 + m.payloadSize ≤ 260) : m.payload.CountedIn m.frame := by
  have hlength : m.frame.length = 8 + m.payload.bytes.length := length_frame m
  have hpayload : 8 + m.payload.bytes.length ≤ 260 := hsize
  have hcount : wordAt m.frame 10 = wordAt m.payload.bytes 2 := wordAt_frame m 2
  have hbehind : byteAt m.frame 12 = byteAt m.payload.bytes 4 := byteAt_frame m 4
  have hfirst : byteAt m.frame 8 = byteAt m.payload.bytes 0 := byteAt_frame m 0
  -- Only the lengths and the three fields matter from here on, not what else the frame holds.
  generalize m.frame = frame at hlength hcount hbehind hfirst ⊢
  generalize m.payload = payload at hlength hpayload hcount hbehind hfirst ⊢
  rcases payload <;> try exact trivial
  case writeCoils start values =>
    rw [Payload.length_bytes_writeCoils] at hlength hpayload
    rw [Payload.CountedIn, hcount, hbehind, Payload.toNat_count_writeCoils _ (by omega),
      Payload.toNat_byteCount_writeCoils _ (by omega)]
    exact ⟨by omega, rfl, rfl, by omega⟩
  case writeRegisters start values =>
    rw [Payload.length_bytes_writeRegisters] at hlength hpayload
    rw [Payload.CountedIn, hcount, hbehind, Payload.toNat_count_writeRegisters _ (by omega),
      Payload.toNat_byteCount_writeRegisters _ (by omega)]
    exact ⟨by omega, rfl, rfl, by omega⟩
  case bits packed =>
    rw [Payload.length_bytes_bits] at hlength hpayload
    rw [Payload.CountedIn, hfirst, Payload.toNat_byteCount_bits (by omega)]
    exact ⟨by omega, rfl, by omega⟩
  case registers values =>
    rw [Payload.length_bytes_registers] at hlength hpayload
    rw [Payload.CountedIn, hfirst, Payload.toNat_byteCount_registers (by omega)]
    exact ⟨by omega, rfl, by omega⟩

/-- Reading a frame that stands at the cursor. -/
theorem decode_frame {old : Message role} (hvariant : old.variant = m.variant)
    (hlibrary : m.variant.IsLibrary) (hsize : 8 + m.payloadSize ≤ 260) {b : FrameBuffer}
    (hb : b.WellFormed) {rest : List UInt8} (hunread : b.unread = m.frame ++ rest) :
    old.decode b = .success m (b.advance m.frame.length) := by
  rw [decode_eq hb, hunread, parse_frame hvariant hlibrary hsize]
  rfl

/-! ## Sending -/

open Recorded

variable {ρ σ : Type} [Transport ρ σ]

theorem maximumLength_lt (m : Message role) :
    Frame.maximumLength < m.frame.length ↔ 260 < 8 + m.payloadSize := by
  rw [length_frame, Frame.maximumLength]

theorem send_of_tooLong {m : Message role} (h : 260 < 8 + m.payloadSize) (r : ρ) (s : σ) :
    m.send r s = (.error (.tooLong (8 + m.payloadSize)), s) := by
  rw [send, if_pos (by rwa [maximumLength_lt]), length_frame]

/-- A frame that may travel is handed over in one write, and nothing is done besides. -/
theorem snd_send_of_le {m : Message role} (h : 8 + m.payloadSize ≤ 260) (r : ρ) (s : σ) :
    (m.send r s).2 = (Transport.write r m.frame s).2 := by
  rw [send, if_neg (by rwa [maximumLength_lt, Nat.not_lt])]
  simp only
  -- What the write reports decides the outcome, and never the state.
  by_cases hok : (Transport.write r m.frame s).1.status = .ok
  · rw [if_neg (not_not.mpr hok)]
    split <;> rfl
  · rw [if_pos hok]

/-- A frame that may travel is never refused for its length. -/
theorem send_ne_tooLong {m : Message role} (h : 8 + m.payloadSize ≤ 260) (r : ρ) (s : σ)
    (length : Nat) : (m.send r s).1 ≠ .error (.tooLong length) := by
  unfold send
  simp only
  rw [if_neg (by rwa [maximumLength_lt, Nat.not_lt])]
  split
  · simp
  · split <;> simp

/-- A write that takes the whole frame sends the message. -/
theorem send_of_written {m : Message role} (h : 8 + m.payloadSize ≤ 260) {r : ρ} {s s' : σ}
    {result : IoResult} (hwrite : Transport.write r m.frame s = (result, s'))
    (hok : result.status = .ok) (hbytes : result.bytes = m.frame.length) :
    m.send r s = (.ok (), s') := by
  rw [send, if_neg (by rwa [maximumLength_lt, Nat.not_lt]), hwrite]
  simp only
  rw [if_neg (not_not.mpr hok), if_neg (not_not.mpr hbytes)]

/-- A write that takes less than the whole frame, or fails, is a failure to send the message. -/
theorem send_of_not_written {m : Message role} (h : 8 + m.payloadSize ≤ 260) {r : ρ} {s s' : σ}
    {result : IoResult} (hwrite : Transport.write r m.frame s = (result, s'))
    (hfailed : ¬ (result.status = .ok ∧ result.bytes = m.frame.length)) :
    ∃ cause, m.send r s = (.error cause, s') := by
  rw [send, if_neg (by rwa [maximumLength_lt, Nat.not_lt]), hwrite]
  simp only
  by_cases hok : result.status = .ok
  · have hshort : result.bytes ≠ m.frame.length := fun h => hfailed ⟨hok, h⟩
    rw [if_neg (not_not.mpr hok), if_pos hshort]
    exact ⟨_, rfl⟩
  · rw [if_pos hok]
    exact ⟨_, rfl⟩

/-- **A message is refused or sent faithfully.** Whatever the connection makes of a write: a
message whose frame is too long is refused as an I/O failure, and the connection is never called.
Any other frame is handed over whole, in one write; its length field and its counts are the true
ones; and any message of the variant reads the message back from it, wherever in a buffer it
stands. -/
theorem send_refuses_or_is_faithful (m : Message role) (hm : m.variant.IsLibrary) (r : ρ)
    (s : Recorded ρ σ) :
    (260 < 8 + m.payloadSize →
      m.send r s = (.error (.tooLong (8 + m.payloadSize)), s)
      ∧ (SendFailure.tooLong (8 + m.payloadSize)).status.outcome = .ioFailure)
    ∧ (8 + m.payloadSize ≤ 260 →
      (m.send r s).2.calls = s.calls ++ [.write r m.frame]
      ∧ m.frame.length = 8 + m.payloadSize
      ∧ (wordAt m.frame 4).toNat = 2 + m.payloadSize
      ∧ m.payload.CountedIn m.frame
      ∧ ∀ (old : Message role) (b : FrameBuffer) (rest : List UInt8), old.variant = m.variant →
        b.WellFormed → b.unread = m.frame ++ rest →
        old.decode b = .success m (b.advance m.frame.length)) := by
  refine ⟨fun hlong => ⟨send_of_tooLong hlong r s, rfl⟩, fun hsize => ⟨?_, length_frame m, ?_,
    counted_frame hsize, ?_⟩⟩
  · rw [snd_send_of_le hsize, calls_write]
  · have hlength := toNat_length_frame hsize []
    rwa [List.append_nil] at hlength
  · intro old b rest hvariant hb hunread
    exact decode_frame hvariant hm hsize hb hunread

/-- Two registers get through and are read by a message that held others, between bytes that are not
theirs; 124 are one byte too many. -/
theorem send_refuses_or_is_faithful_registers :
    let m : Message .request := .writeRegistersRequest 7 [0x1234, 0xFF00]
    let long : Message .request := .writeRegistersRequest 7 (List.replicate 124 0)
    let old : Message .request := .writeRegistersRequest 0 [9]
    let s : Recorded Unit Memory := ⟨{}, []⟩
    let b : FrameBuffer := ⟨0xAA :: m.frame ++ [0xBB, 0xCC], 19, 1⟩
    (m.variant.IsLibrary ∧ (m.send () s).2.calls = [.write () m.frame]
      ∧ old.decode b = .success m (b.advance 17))
    ∧ long.variant.IsLibrary ∧ long.send () s = (.error (.tooLong 261), s) := by
  intro m long old s b
  have hm : m.variant.IsLibrary := fun _ => nofun
  have hlong : long.variant.IsLibrary := fun _ => nofun
  have hfaithful := (send_refuses_or_is_faithful m hm () s).2 (by decide)
  have hsize : long.payloadSize = 253 :=
    (Payload.length_bytes_writeRegisters 7 _).trans (by rw [List.length_replicate])
  have hrefused := (send_refuses_or_is_faithful long hlong () s).1 (by rw [hsize]; decide)
  rw [hsize] at hrefused
  have hb : b.WellFormed := ⟨by decide, by decide⟩
  exact ⟨⟨hm, hfaithful.1, hfaithful.2.2.2.2 old b [0xBB] rfl hb rfl⟩, hlong, hrefused.1⟩

end Message

end ModbusTcp
