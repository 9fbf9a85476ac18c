import Mathlib.Logic.Basic
import ModbusTcp.FrameBuffer.Lemmas
import ModbusTcp.Message.Decode
import ModbusTcp.Proofs.BitPacking
import ModbusTcp.Proofs.Variant

/-!
Decoding, seen over the list of unread bytes.

A decoder (`DecodeFrom`, `DecodePayload`) takes its fields one after the other, each at the cursor.
`Payload.parse` and `Message.parse` say what it comes to when the unread bytes are laid out as one
list and every field has an offset. The results are `Payload.decode_eq` and `Message.decode_eq`:
decoding from a buffer is parsing its unread bytes, with the same outcome, the same fields, also
those left behind by a failure, and a cursor moved by as many bytes as were taken. What a proof
about decoding needs to know is in the two parsers; none opens a decoder again.
-/

set_option autoImplicit false

namespace ModbusTcp

/-! ## Taking fields at the cursor -/

namespace FrameBuffer

variable {α : Type} {b : FrameBuffer}

theorem readByte?_of_le (h : 1 ≤ b.unread.length) :
    b.readByte? = (some (byteAt b.unread 0), b.advance 1) := by
  match hu : b.unread, h with
  | byte :: rest, _ => exact readByte?_of_unread hu

theorem readWord?_of_le (h : 2 ≤ b.unread.length) :
    b.readWord? = (some (wordAt b.unread 0), b.advance 2) := by
  match hu : b.unread, h with
  | high :: low :: rest, _ => exact readWord?_of_unread hu

/-- Reading a byte when `start` bytes are taken already. -/
theorem readByte?_advance {start : Nat} (h : start + 1 ≤ b.unread.length) :
    (b.advance start).readByte? = (some (byteAt b.unread start), b.advance (start + 1)) := by
  have hrest : 1 ≤ (b.advance start).unread.length := by
    rw [unread_advance, List.length_drop]
    omega
  rw [readByte?_of_le hrest, unread_advance, byteAt_drop, advance_advance, Nat.add_zero]

/-- Reading a word when `start` bytes are taken already. -/
theorem readWord?_advance {start : Nat} (h : start + 2 ≤ b.unread.length) :
    (b.advance start).readWord? = (some (wordAt b.unread start), b.advance (start + 2)) := by
  have hrest : 2 ≤ (b.advance start).unread.length := by
    rw [unread_advance, List.length_drop]
    omega
  rw [readWord?_of_le hrest, unread_advance, wordAt_drop, advance_advance, Nat.add_zero]

theorem readByte?_of_remaining_lt (h : b.remaining < 1) : b.readByte? = (none, b) := by
  rw [readByte?, if_pos h]

theorem readWord?_of_remaining_lt (h : b.remaining < 2) : b.readWord? = (none, b) := by
  rw [readWord?, if_pos h]

theorem takeByte_of_le (h : 1 ≤ b.unread.length) (soFar : α)
    (next : UInt8 → FrameBuffer → Decoded α) :
    b.takeByte soFar next = next (byteAt b.unread 0) (b.advance 1) := by
  rw [takeByte, readByte?_of_le h]

theorem takeWord_of_le (h : 2 ≤ b.unread.length) (soFar : α)
    (next : UInt16 → FrameBuffer → Decoded α) :
    b.takeWord soFar next = next (wordAt b.unread 0) (b.advance 2) := by
  rw [takeWord, readWord?_of_le h]

theorem takeByte_advance {start : Nat} (h : start + 1 ≤ b.unread.length) (soFar : α)
    (next : UInt8 → FrameBuffer → Decoded α) :
    (b.advance start).takeByte soFar next
      = next (byteAt b.unread start) (b.advance (start + 1)) := by
  rw [takeByte, readByte?_advance h]

theorem takeWord_advance {start : Nat} (h : start + 2 ≤ b.unread.length) (soFar : α)
    (next : UInt16 → FrameBuffer → Decoded α) :
    (b.advance start).takeWord soFar next
      = next (wordAt b.unread start) (b.advance (start + 2)) := by
  rw [takeWord, readWord?_advance h]

theorem takeBytes_of_le {count : Nat} (h : count ≤ b.unread.length) (form : DataForm) (soFar : α)
    (next : List UInt8 → FrameBuffer → Decoded α) :
    b.takeBytes count form soFar next = next (b.unread.take count) (b.advance count) := by
  rw [takeBytes, readBytes?_of_le h]

/-- Words taken one after the other are those that their bytes spell. -/
theorem takeWords_of_le {count : Nat} (h : 2 * count ≤ b.unread.length) (soFar : α)
    (next : List UInt16 → FrameBuffer → Decoded α) :
    b.takeWords count soFar next
      = next (wordsOf (b.unread.take (2 * count))) (b.advance (2 * count)) := by
  induction count generalizing b next with
  | zero => rfl
  | succ count ih =>
    match hu : b.unread, h with
    | high :: low :: rest, h =>
      have hrest : (b.advance 2).unread = rest := by
        rw [unread_advance, hu]
        rfl
      have hlength : 2 * count ≤ rest.length := by
        simp only [List.length_cons] at h
        omega
      have htwo : 2 * (count + 1) = 2 * count + 1 + 1 := by omega
      have hnext : 2 + 2 * count = 2 * count + 1 + 1 := by omega
      rw [takeWords, takeWord, readWord?_of_unread hu]
      simp only
      rw [ih (by rw [hrest]; exact hlength), hrest, advance_advance, htwo, hnext,
        List.take_succ_cons, List.take_succ_cons, wordsOf]

end FrameBuffer

/-! ## Parsing -/

/-- What a reading comes to over a list of bytes: how it ends, the thing read as far as it came,
and the number of bytes taken. -/
structure Parsed (α : Type) where
  outcome : Except DecodeError Unit
  value : α
  taken : Nat

namespace Parsed

variable {α : Type}

def accepted (value : α) (taken : Nat) : Parsed α := ⟨.ok (), value, taken⟩

def refused (error : DecodeError) (value : α) (taken : Nat) : Parsed α :=
  ⟨.error error, value, taken⟩

/-- A reading that takes its input exactly if `ok` holds, and then gives `value` after `taken`
bytes. -/
def Decides (p : Parsed α) (ok : Prop) (value : α) (taken : Nat) : Prop :=
  (ok ∧ p = .accepted value taken) ∨ (¬ ok ∧ ∃ e, p.outcome = .error e)

theorem Decides.outcome_iff {p : Parsed α} {ok : Prop} {value : α} {taken : Nat}
    (h : p.Decides ok value taken) : p.outcome = .ok () ↔ ok := by
  rcases h with ⟨hok, hp⟩ | ⟨hok, e, he⟩
  · rw [hp]
    exact ⟨fun _ => hok, fun _ => rfl⟩
  · rw [he]
    exact ⟨(nomatch ·), fun h => absurd h hok⟩

theorem Decides.eq_accepted {p : Parsed α} {ok : Prop} {value : α} {taken : Nat}
    (h : p.Decides ok value taken) (hok : ok) : p = .accepted value taken := by
  rcases h with ⟨_, hp⟩ | ⟨hnot, _⟩
  · exact hp
  · exact absurd hok hnot

/-- The same reading carried out at the cursor of a buffer. -/
def behind (p : Parsed α) (b : FrameBuffer) : Decoded α := ⟨p.outcome, p.value, b.advance p.taken⟩

end Parsed

namespace Payload

variable {role : Role}

/-- Two words that make up the whole payload. -/
def parseWords (form : FixedForm) (old : Payload role) (whole : UInt16 → UInt16 → Payload role)
    (p : List UInt8) : Parsed (Payload role) :=
  if p.length = 4 then .accepted (whole (wordAt p 0) (wordAt p 2)) 4
  else .refused (.wrongSize form p.length) old 0

/-- An address and one of the two words that stand for a coil. -/
def parseCoil (address : UInt16) (value : Bool) (p : List UInt8) : Parsed (Payload .request) :=
  if p.length = 4 then
    if wordAt p 2 = coilOn ∨ wordAt p 2 = coilOff then
      .accepted (.writeCoil (wordAt p 0) (wordAt p 2 = coilOn)) 4
    else .refused (.coilValue (wordAt p 2)) (.writeCoil (wordAt p 0) value) 4
  else .refused (.wrongSize .writeCoil p.length) (.writeCoil address value) 0

/-- Start, count, byte count and packed coils. -/
def parseCoils (start : UInt16) (values : List Bool) (p : List UInt8) : Parsed (Payload .request) :=
  if p.length < 5 then .refused .coilsTooShort (.writeCoils start values) 0
  else if (byteAt p 4).toNat = ((wordAt p 2).toNat + 7) / 8
      ∧ p.length = 5 + (byteAt p 4).toNat then
    .accepted (.writeCoils (wordAt p 0) (Bits.unpack (p.drop 5) (wordAt p 2).toNat)) p.length
  else .refused (.coilsMismatch (byteAt p 4) (wordAt p 2)) (.writeCoils (wordAt p 0) values) 5

/-- Start, count, byte count and registers. -/
def parseRegisters (start : UInt16) (values : List UInt16) (p : List UInt8) :
    Parsed (Payload .request) :=
  if p.length < 5 then .refused .registersTooShort (.writeRegisters start values) 0
  else if (byteAt p 4).toNat = 2 * (wordAt p 2).toNat ∧ p.length = 5 + (byteAt p 4).toNat then
    .accepted (.writeRegisters (wordAt p 0) (wordsOf (p.drop 5))) p.length
  else
    .refused (.registersMismatch (byteAt p 4) (wordAt p 2)) (.writeRegisters (wordAt p 0) values) 5

/-- A byte count and packed bits. -/
def parsePacked (packed : List UInt8) (p : List UInt8) : Parsed (Payload .response) :=
  if p.length < 1 then .refused .bitsTooShort (.bits packed) 0
  else if p.length = 1 + (byteAt p 0).toNat then .accepted (.bits (p.drop 1)) p.length
  else .refused (.bitsMismatch (byteAt p 0) p.length) (.bits packed) 1

/-- An even byte count and registers. -/
def parseValues (values : List UInt16) (p : List UInt8) : Parsed (Payload .response) :=
  if p.length < 1 then .refused .valuesTooShort (.registers values) 0
  else if p.length = 1 + (byteAt p 0).toNat ∧ (byteAt p 0).toNat % 2 = 0 then
    .accepted (.registers (wordsOf (p.drop 1))) p.length
  else .refused (.valuesMismatch (byteAt p 0) p.length) (.registers values) 1

/-- One byte, the reason of a refusal. -/
def parseException (code : UInt8) (p : List UInt8) : Parsed (Payload .response) :=
  if p.length = 1 then .accepted (.exception (byteAt p 0)) 1
  else .refused (.wrongSize .exception p.length) (.exception code) 0

/-- As many bytes as the reading asks for, or as there are; then its failure, if it has one. -/
def parseCustom (reading : CustomReading) (size : Nat) (unread : List UInt8) :
    Parsed (Payload role) :=
  let data := unread.take (reading.consume.getD size)
  match reading.failure with
  | some text => .refused (.refused text) (.custom data reading) data.length
  | none => .accepted (.custom data reading) data.length

/-- Parses the unread bytes, of which the first `size` belong to the frame. Only a variant of the
user's own looks at the ones behind. -/
def parse (old : Payload role) (size : Nat) (unread : List UInt8) : Parsed (Payload role) :=
  match old with
  | .readBits start quantity =>
    parseWords .span (.readBits start quantity) .readBits (unread.take size)
  | .readRegisters start quantity =>
    parseWords .span (.readRegisters start quantity) .readRegisters (unread.take size)
  | .writeCoil address value => parseCoil address value (unread.take size)
  | .writeRegister address value =>
    parseWords .writeRegister (.writeRegister address value) .writeRegister (unread.take size)
  | .writeCoils start values => parseCoils start values (unread.take size)
  | .writeRegisters start values => parseRegisters start values (unread.take size)
  | .illegalFunction _ => .accepted (.illegalFunction (unread.take size)) size
  | .bits packed => parsePacked packed (unread.take size)
  | .registers values => parseValues values (unread.take size)
  | .wroteSingle address value =>
    parseWords .wroteSingle (.wroteSingle address value) .wroteSingle (unread.take size)
  | .wroteMultiple start quantity =>
    parseWords .wroteMultiple (.wroteMultiple start quantity) .wroteMultiple (unread.take size)
  | .exception code => parseException code (unread.take size)
  | .unsupportedFunction _ => .accepted (.unsupportedFunction (unread.take size)) size
  | .custom _ reading => parseCustom reading size unread

/-- A variant of the library never looks behind its frame. -/
theorem parse_take {old : Payload role} (hold : old.variant.IsLibrary) (size : Nat)
    (unread : List UInt8) : old.parse size (unread.take size) = old.parse size unread := by
  cases old with
  | custom data reading => exact absurd rfl (hold reading)
  | _ => simp only [parse, List.take_take, Nat.min_self]

/-! ## Decoding a payload is parsing it -/

section Decoders

open FrameBuffer

variable {size : Nat} {b : FrameBuffer}

theorem decodeWords_eq {form : FixedForm} (hform : form.size = 4) (hsize : size ≤ b.unread.length)
    (old : Payload role) (half : UInt16 → Payload role) (whole : UInt16 → UInt16 → Payload role) :
    decodeWords form old half whole size b
      = (parseWords form old whole (b.unread.take size)).behind b := by
  have hlength : (b.unread.take size).length = size := List.length_take_of_le hsize
  rw [decodeWords, parseWords, hlength, hform]
  by_cases h : size = 4
  · subst h
    rw [if_neg (by omega), if_pos rfl, takeWord_of_le (by omega), takeWord_advance (by omega),
      wordAt_take (by omega), wordAt_take (by omega)]
    rfl
  · rw [if_pos h, if_neg h]
    rfl

theorem decodeCoil_eq (hsize : size ≤ b.unread.length) (address : UInt16) (value : Bool) :
    decodeCoil address value size b = (parseCoil address value (b.unread.take size)).behind b := by
  have hlength : (b.unread.take size).length = size := List.length_take_of_le hsize
  rw [decodeCoil, parseCoil, hlength, show FixedForm.writeCoil.size = 4 from rfl]
  by_cases h : size = 4
  · subst h
    rw [if_neg (by omega), if_pos rfl, takeWord_of_le (by omega), takeWord_advance (by omega),
      wordAt_take (by omega), wordAt_take (by omega)]
    by_cases hword : wordAt b.unread 2 = coilOn ∨ wordAt b.unread 2 = coilOff
    · rw [if_neg (by rwa [not_and_or, not_not, not_not]), if_pos hword]
      rfl
    · rw [if_pos (by rwa [← not_or]), if_neg hword]
      rfl
  · rw [if_pos h, if_neg h]
    rfl

theorem decodeCoils_eq (hsize : size ≤ b.unread.length) (start : UInt16) (values : List Bool) :
    decodeCoils start values size b = (parseCoils start values (b.unread.take size)).behind b := by
  have hlength : (b.unread.take size).length = size := List.length_take_of_le hsize
  rw [decodeCoils, parseCoils, hlength]
  by_cases h : size < 5
  · rw [if_pos h, if_pos h]
    rfl
  · rw [if_neg h, if_neg h, takeWord_of_le (by omega), takeWord_advance (by omega),
      takeByte_advance (by omega), wordAt_take (by omega), wordAt_take (by omega),
      byteAt_take (by omega)]
    simp only [Nat.reduceAdd]
    -- The byte count is compared as a 64-bit word, so a count of coils is never cut down.
    have hcount : (byteAt b.unread 4).toUInt64 = Bits.packedSize (wordAt b.unread 2).toUInt64
        ↔ (byteAt b.unread 4).toNat = ((wordAt b.unread 2).toNat + 7) / 8 := by
      rw [← UInt64.toNat_inj, UInt8.toNat_toUInt64, Bits.toNat_packedSize]
    by_cases hfits : (byteAt b.unread 4).toNat = ((wordAt b.unread 2).toNat + 7) / 8
        ∧ size = 5 + (byteAt b.unread 4).toNat
    · have hrest : (b.unread.drop 5).take (byteAt b.unread 4).toNat
          = (b.unread.take size).drop 5 := by
        rw [List.drop_take, hfits.2, Nat.add_sub_cancel_left]
      rw [if_neg (by rwa [ne_eq, ne_eq, hcount, ← not_and_or, not_not]), if_pos hfits,
        takeBytes_of_le (by rw [unread_advance, List.length_drop]; omega), unread_advance, hrest,
        advance_advance, ← hfits.2]
      rfl
    · rw [if_pos (by rwa [ne_eq, ne_eq, hcount, ← not_and_or]), if_neg hfits]
      rfl

theorem decodeRegisters_eq (hsize : size ≤ b.unread.length) (start : UInt16)
    (values : List UInt16) :
    decodeRegisters start values size b
      = (parseRegisters start values (b.unread.take size)).behind b := by
  have hlength : (b.unread.take size).length = size := List.length_take_of_le hsize
  rw [decodeRegisters, parseRegisters, hlength]
  by_cases h : size < 5
  · rw [if_pos h, if_pos h]
    rfl
  · rw [if_neg h, if_neg h, takeWord_of_le (by omega), takeWord_advance (by omega),
      takeByte_advance (by omega), wordAt_take (by omega), wordAt_take (by omega),
      byteAt_take (by omega)]
    simp only [Nat.reduceAdd]
    by_cases hfits : (byteAt b.unread 4).toNat = 2 * (wordAt b.unread 2).toNat
        ∧ size = 5 + (byteAt b.unread 4).toNat
    · have hrest : (b.unread.drop 5).take (2 * (wordAt b.unread 2).toNat)
          = (b.unread.take size).drop 5 := by
        rw [List.drop_take, ← hfits.1, hfits.2, Nat.add_sub_cancel_left]
      rw [if_neg (by rwa [ne_eq, ne_eq, ← not_and_or, not_not]), if_pos hfits,
        takeWords_of_le (by rw [unread_advance, List.length_drop]; omega), unread_advance, hrest,
        advance_advance, ← hfits.1, ← hfits.2]
      rfl
    · rw [if_pos (by rwa [ne_eq, ne_eq, ← not_and_or]), if_neg hfits]
      rfl

theorem decodeVerbatim_eq (hsize : size ≤ b.unread.length) (make : List UInt8 → Payload role)
    (old : List UInt8) :
    decodeVerbatim make old size b
      = (Parsed.accepted (make (b.unread.take size)) size).behind b := by
  rw [decodeVerbatim, takeBytes_of_le hsize]
  rfl

theorem decodePacked_eq (hsize : size ≤ b.unread.length) (packed : List UInt8) :
    decodePacked packed size b = (parsePacked packed (b.unread.take size)).behind b := by
  have hlength : (b.unread.take size).length = size := List.length_take_of_le hsize
  rw [decodePacked, parsePacked, hlength]
  by_cases h : size < 1
  · rw [if_pos h, if_pos h]
    rfl
  · rw [if_neg h, if_neg h, takeByte_of_le (by omega), byteAt_take (by omega)]
    by_cases hfits : size = 1 + (byteAt b.unread 0).toNat
    · have hrest : (b.unread.drop 1).take (byteAt b.unread 0).toNat
          = (b.unread.take size).drop 1 := by
        rw [List.drop_take, hfits, Nat.add_sub_cancel_left]
      rw [if_neg (not_not.mpr hfits), if_pos hfits,
        takeBytes_of_le (by rw [unread_advance, List.length_drop]; omega), unread_advance, hrest,
        advance_advance, ← hfits]
      rfl
    · rw [if_pos hfits, if_neg hfits]
      rfl

theorem decodeValues_eq (hsize : size ≤ b.unread.length) (values : List UInt16) :
    decodeValues values size b = (parseValues values (b.unread.take size)).behind b := by
  have hlength : (b.unread.take size).length = size := List.length_take_of_le hsize
  rw [decodeValues, parseValues, hlength]
  by_cases h : size < 1
  · rw [if_pos h, if_pos h]
    rfl
  · rw [if_neg h, if_neg h, takeByte_of_le (by omega), byteAt_take (by omega)]
    have heven : byteAt b.unread 0 % 2 = 0 ↔ (byteAt b.unread 0).toNat % 2 = 0 := by
      rw [← UInt8.toNat_inj, UInt8.toNat_mod]
      rfl
    by_cases hfits : size = 1 + (byteAt b.unread 0).toNat ∧ (byteAt b.unread 0).toNat % 2 = 0
    · have htwice : 2 * ((byteAt b.unread 0).toNat / 2) = (byteAt b.unread 0).toNat := by omega
      have hrest : (b.unread.drop 1).take (byteAt b.unread 0).toNat
          = (b.unread.take size).drop 1 := by
        rw [List.drop_take, hfits.1, Nat.add_sub_cancel_left]
      rw [if_neg (by rw [ne_eq, ne_eq, heven, ← not_and_or, not_not]; exact hfits.symm),
        if_pos hfits, takeWords_of_le (by rw [unread_advance, List.length_drop]; omega),
        unread_advance, htwice, hrest, advance_advance, ← hfits.1]
      rfl
    · rw [if_pos (by rw [ne_eq, ne_eq, heven, ← not_and_or]; exact mt And.symm hfits),
        if_neg hfits]
      rfl

theorem decodeException_eq (hsize : size ≤ b.unread.length) (code : UInt8) :
    decodeException code size b = (parseException code (b.unread.take size)).behind b := by
  have hlength : (b.unread.take size).length = size := List.length_take_of_le hsize
  rw [decodeException, parseException, hlength, show FixedForm.exception.size = 1 from rfl]
  by_cases h : size = 1
  · rw [if_neg (not_not.mpr h), if_pos h, takeByte_of_le (by omega), byteAt_take (by omega)]
    rfl
  · rw [if_pos h, if_neg h]
    rfl

theorem decodeCustom_eq (hb : b.WellFormed) (data : List UInt8) (reading : CustomReading) :
    (decodeCustom data reading size b : Decoded (Payload role))
      = (parseCustom reading size b.unread).behind b := by
  -- As many bytes as are asked for, or all there are: that is what `take` gives.
  have hmin : min (reading.consume.getD size) b.remaining
      = (b.unread.take (reading.consume.getD size)).length := by
    rw [List.length_take, length_unread hb]
  have hdata : b.unread.take (b.unread.take (reading.consume.getD size)).length
      = b.unread.take (reading.consume.getD size) := by
    rw [List.take_eq_take_iff, List.length_take]
    omega
  rw [decodeCustom, hmin, takeBytes_of_le (List.length_take_le' ..), hdata, parseCustom]
  cases reading.failure <;> rfl

/-- **Decoding a payload is parsing the unread bytes.** -/
theorem decode_eq (hb : b.WellFormed) (hsize : size ≤ b.unread.length) (old : Payload role) :
    old.decode size b = (old.parse size b.unread).behind b := by
  cases old with
  | readBits start quantity => exact decodeWords_eq rfl hsize ..
  | readRegisters start quantity => exact decodeWords_eq rfl hsize ..
  | writeCoil address value => exact decodeCoil_eq hsize ..
  | writeRegister address value => exact decodeWords_eq rfl hsize ..
  | writeCoils start values => exact decodeCoils_eq hsize ..
  | writeRegisters start values => exact decodeRegisters_eq hsize ..
  | illegalFunction data => exact decodeVerbatim_eq hsize ..
  | bits packed => exact decodePacked_eq hsize ..
  | registers values => exact decodeValues_eq hsize ..
  | wroteSingle address value => exact decodeWords_eq rfl hsize ..
  | wroteMultiple start quantity => exact decodeWords_eq rfl hsize ..
  | exception code => exact decodeException_eq hsize ..
  | unsupportedFunction data => exact decodeVerbatim_eq hsize ..
  | custom data reading => exact decodeCustom_eq hb ..

end Decoders

end Payload

namespace Message

variable {role : Role}

/-- Parses the payload behind the fields before it, `size` bytes of which belong to the frame. -/
def parsePayload (m : Message role) (header : Header) (code : UInt8) (size : Nat)
    (rest : List UInt8) : Parsed (Message role) :=
  let p := m.payload.parse size rest
  let message : Message role := { header, code, payload := p.value }
  match p.outcome with
  | .error e => .refused e message (8 + p.taken)
  | .ok () =>
    if p.taken ≠ size then .refused (.unexpectedBytes code size p.taken) message (8 + p.taken)
    else .accepted message (8 + p.taken)

/-- Parses the frame at the front of the unread bytes into a message. -/
def parse (m : Message role) (unread : List UInt8) : Parsed (Message role) :=
  let length := wordAt unread 4
  if unread.length < 8 then .refused .headerTruncated m unread.length
  else if length < 2 then .refused (.lengthTooSmall length) m 8
  else if unread.length < 6 + length.toNat then
    .refused (.payloadMissing (length.toNat - 2) (unread.length - 8)) m 8
  else
    m.parsePayload
      { transaction := wordAt unread 0, protocol := wordAt unread 2, unit := byteAt unread 6 }
      (byteAt unread 7) (length.toNat - 2) (unread.drop 8)

/-! ## Decoding a message is parsing it -/

section Decoders

open FrameBuffer

variable {b : FrameBuffer}

theorem decodePayload_eq (hb : b.WellFormed) {size : Nat} (hsize : size ≤ (b.unread.drop 8).length)
    (hremaining : 8 ≤ b.remaining) (m : Message role) (header : Header) (code : UInt8) :
    m.decodePayload header code size (b.advance 8)
      = (m.parsePayload header code size (b.unread.drop 8)).behind b := by
  have hrest : size ≤ (b.advance 8).unread.length := by rwa [unread_advance]
  have hpayload := Payload.decode_eq (hb.advance hremaining) hrest m.payload
  rw [unread_advance] at hpayload
  have htaken : ∀ n, (b.advance (8 + n)).position - (b.advance 8).position = n := by
    intro n
    simp only [FrameBuffer.advance]
    omega
  rw [decodePayload, parsePayload, hpayload]
  simp only [Parsed.behind, advance_advance, htaken]
  cases (m.payload.parse size (b.unread.drop 8)).outcome with
  | error e => rfl
  | ok done =>
    by_cases h : (m.payload.parse size (b.unread.drop 8)).taken = size
    · simp only [h, ne_eq, not_true_eq_false, if_false]
      rfl
    · simp only [h, ne_eq, not_false_eq_true, if_true]
      rfl

/-- Of fewer bytes than the fields before the payload take, all are taken: a word may be missing
where a byte is still there, so the five reads share the bytes out without a rest. -/
theorem decode_of_short (hb : b.WellFormed) (hshort : b.unread.length < 8) (m : Message role) :
    m.decode b = .failure .headerTruncated m (b.advance b.unread.length) := by
  have hremaining : b.remaining = b.unread.length := (length_unread hb).symm
  rw [decode]
  generalize hn : b.unread.length = n at hshort hremaining
  match n with
  | 0 | 1 | 2 | 3 | 4 | 5 | 6 | 7 =>
    simp (disch := ((try simp only [remaining_advance]); omega)) only [readWord?_of_le,
      readByte?_of_le, readWord?_advance, readByte?_advance, readWord?_of_remaining_lt,
      readByte?_of_remaining_lt, Nat.reduceAdd, advance_zero]
  | n + 8 => omega

/-- **Decoding a message is parsing the unread bytes.** -/
theorem decode_eq (hb : b.WellFormed) (m : Message role) :
    m.decode b = (m.parse b.unread).behind b := by
  by_cases hshort : b.unread.length < 8
  · rw [decode_of_short hb hshort, parse, if_pos hshort]
    rfl
  · have hremaining : b.remaining = b.unread.length := (length_unread hb).symm
    rw [parse, if_neg hshort, decode, readWord?_of_le (by omega)]
    simp (disch := omega) only [readWord?_advance, readByte?_advance, Nat.reduceAdd,
      remaining_advance, hremaining]
    by_cases hlength : wordAt b.unread 4 < 2
    · rw [if_pos hlength, if_pos hlength]
      rfl
    · have htwo : 2 ≤ (wordAt b.unread 4).toNat := by
        rw [UInt16.lt_iff_toNat_lt] at hlength
        exact Nat.le_of_not_lt hlength
      -- Compared as numbers: what the fields before the payload leave, and what is announced.
      rw [if_neg hlength, if_neg hlength]
      by_cases hmissing : b.unread.length < 6 + (wordAt b.unread 4).toNat
      · rw [if_pos (by omega), if_pos hmissing]
        rfl
      · rw [if_neg (by omega), if_neg hmissing,
          decodePayload_eq hb (by rw [List.length_drop]; omega) (by omega)]

end Decoders

end Message

end ModbusTcp
