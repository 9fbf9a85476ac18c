import ModbusTcp.Proofs.RoundTrip

/-!
Packing bits is exact.

What a list of bits is packed into is determined by its positions (`Bits.PacksTo`), and it is the
only run of bytes that has them so (`Bits.pack_eq_iff`). Unpacking takes the list back from there,
and packing what was unpacked clears the bits that were not asked for (`Bits.ClearedFrom`), so both
directions lose nothing but padding.

The wire does not carry the number of bits. An answer with bits is therefore read back as a message
that gives (`GetBits`) the first bits of the list for every number that it is asked for, also for
one beyond the packed bytes. The main statement is `Bits.packing_exact`.
-/

set_option autoImplicit false

namespace ModbusTcp

namespace Bits

/-- The eighths of a number of bits, rounded up. -/
def eighths (count : Nat) : Nat := (count + 7) / 8

/-- It is the least number of bytes that have room for the bits. -/
theorem eighths_le_iff {count size : Nat} : eighths count ≤ size ↔ count ≤ 8 * size := by
  rw [eighths]
  omega

/-- Whether some bytes are a list of bits in packed form: no more of them than the bits need, each
bit at its own position, and zeros behind the last one. -/
structure PacksTo (bits : List Bool) (packed : List UInt8) : Prop where
  length : packed.length = eighths bits.length
  bit : ∀ (i : Nat) (hi : i < bits.length), bitAt packed i = bits[i]
  padding : ∀ i, bits.length ≤ i → bitAt packed i = false

/-- Whether some bytes are others with the bits from the position `count` on cleared. -/
structure ClearedFrom (count : Nat) (packed cleared : List UInt8) : Prop where
  length : cleared.length = packed.length
  kept : ∀ i < count, bitAt cleared i = bitAt packed i
  zero : ∀ i, count ≤ i → bitAt cleared i = false

theorem pack_packsTo (bits : List Bool) : PacksTo bits (pack bits) := by
  constructor
  · exact length_pack bits
  · intro i hi
    rw [bitAt_pack, List.getD_eq_getElem?_getD, List.getElem?_eq_getElem hi, Option.getD_some]
  · intro i hi
    rw [bitAt_pack, List.getD_eq_getElem?_getD, List.getElem?_eq_none hi, Option.getD_none]

/-- **A list of bits has one packed form,** the one that packing gives. -/
theorem pack_eq_iff {bits : List Bool} {packed : List UInt8} :
    pack bits = packed ↔ PacksTo bits packed := by
  constructor
  · rintro rfl
    exact pack_packsTo bits
  · intro h
    have hpack := pack_packsTo bits
    apply eq_of_bitAt (hpack.length.trans h.length.symm)
    intro i
    by_cases hi : i < bits.length
    · rw [hpack.bit i hi, h.bit i hi]
    · rw [hpack.padding i (Nat.not_lt.mp hi), h.padding i (Nat.not_lt.mp hi)]

theorem clearedFrom_pack_unpack {packed : List UInt8} {count : Nat}
    (h : packed.length = eighths count) :
    ClearedFrom count packed (pack (unpack packed count)) := by
  rw [pack_unpack h]
  constructor
  · exact length_clearFrom count packed
  · intro i hi
    rw [bitAt_clearFrom, decide_eq_true hi, Bool.true_and]
  · intro i hi
    rw [bitAt_clearFrom, decide_eq_false (Nat.not_lt.mpr hi), Bool.false_and]

end Bits

namespace Message

/-! ## Answers that carry bits -/

/-- An answer with so few bits that its byte count can hold the number of its bytes may travel. -/
theorem payloadSize_bits {m : Message .response} {values : List Bool}
    (hm : m.payload = .bits (Bits.pack values)) (hcount : values.length ≤ 2008) :
    8 + m.payloadSize ≤ 260 := by
  rw [payloadSize, hm, Payload.length_bytes_bits, Bits.length_pack]
  omega

/-- **Bits that travel arrive,** whatever the message that reads them held before. -/
theorem bits_decode_frame {m old : Message .response} {values : List Bool}
    (hm : m.payload = .bits (Bits.pack values)) (hcount : values.length ≤ 2008)
    (hold : old.variant = .bits) {b : FrameBuffer} (hb : b.WellFormed) {rest : List UInt8}
    (hunread : b.unread = m.frame ++ rest) (count : Nat) :
    (old.decode b).outcome = .ok ()
      ∧ (old.decode b).value.bits count = Bits.firstBits count values := by
  have hvariant : m.variant = .bits := by rw [variant, hm, Payload.variant]
  have hlibrary : m.variant.IsLibrary := by
    rw [hvariant]
    intro code hcustom
    cases hcustom
  rw [decode_frame (hold.trans hvariant.symm) hlibrary (payloadSize_bits hm hcount) hb hunread]
  refine ⟨rfl, ?_⟩
  rw [Decoded.success, bits, hm]
  exact Bits.unpack_pack_eq_firstBits values count

end Message

/-! ## The main statement -/

namespace Bits

/-- **Packing bits is exact.** The number of bytes is the least that has room for the bits, for
every number up to the seven at which the sum would wrap. A list of bits is packed into the bytes
that hold each bit at its own position and zeros behind them. Unpacking gives the first bits of the
list, and `false` behind its last one, so the list itself for the number of its bits; and bytes that
were unpacked are packed into the same bytes with the rest of the last one cleared.

So an answer that was built from at most 2008 bits, and any header, may travel; and whatever answer
with bits reads it, from a buffer that holds it at the cursor, gives the first bits of the list. -/
theorem packing_exact :
    (∀ count : UInt64, count.toNat + 8 ≤ UInt64.size →
      (packedSize count).toNat = eighths count.toNat
      ∧ ∀ size, eighths count.toNat ≤ size ↔ count.toNat ≤ 8 * size)
    ∧ (∀ bits packed, pack bits = packed ↔ PacksTo bits packed)
    ∧ (∀ bits count, unpack (pack bits) count = firstBits count bits)
    ∧ (∀ bits, unpack (pack bits) bits.length = bits)
    ∧ (∀ (packed : List UInt8) (count : Nat), packed.length = eighths count →
      ClearedFrom count packed (pack (unpack packed count)))
    ∧ ∀ (code : UInt8) (header : Header) (bits : List Bool), bits.length ≤ 2008 →
      let m : Message .response := { Message.readBitsResponse code bits with header }
      m.frame.length ≤ Frame.maximumLength
      ∧ ∀ (old : Message .response) (b : FrameBuffer) (rest : List UInt8), old.variant = .bits →
        b.WellFormed → b.unread = m.frame ++ rest → ∀ count,
        (old.decode b).outcome = .ok ()
        ∧ (old.decode b).value.bits count = firstBits count bits := by
  refine ⟨?_, fun _ _ => pack_eq_iff, unpack_pack_eq_firstBits, unpack_pack,
    fun _ _ => clearedFrom_pack_unpack, ?_⟩
  · intro count hcount
    exact ⟨toNat_packedSize_of_le hcount, fun _ => eighths_le_iff⟩
  · intro code header bits hcount m
    have hm : m.payload = .bits (pack bits) := rfl
    refine ⟨?_, ?_⟩
    · rw [Message.length_frame]
      exact Message.payloadSize_bits hm hcount
    · intro old b rest hold hb hunread
      exact Message.bits_decode_frame hm hcount hold hb hunread

/-- Ten bits fill two bytes. They are read back by an answer that held others, with a frame behind
theirs; asked for twelve, it gives two more. Bytes with a full padding lose it. -/
theorem packing_exact_ten :
    let bits := [true, false, true, true, false, false, true, true, true, false]
    let m : Message .response := { Message.readBitsResponse 1 bits with header := ⟨7, 0, 0x11⟩ }
    let old : Message .response := Message.readBitsResponse 2 [true]
    let b : FrameBuffer := ⟨0xAA :: m.frame ++ [0, 8], 14, 1⟩
    ((18446744073709551608 : UInt64).toNat + 8 ≤ UInt64.size
      ∧ (packedSize 18446744073709551608).toNat = 2305843009213693951)
    ∧ PacksTo bits [0xCD, 0x01]
    ∧ (([0xFF, 0xFF] : List UInt8).length = eighths 10
      ∧ ClearedFrom 10 [0xFF, 0xFF] (pack (unpack [0xFF, 0xFF] 10)))
    ∧ bits.length ≤ 2008 ∧ old.variant = .bits ∧ b.WellFormed ∧ b.unread = m.frame ++ [0, 8]
    ∧ (old.decode b).outcome = .ok ()
    ∧ (old.decode b).value.bits 12 = bits ++ [false, false] := by
  intro bits m old b
  have hsize : (18446744073709551608 : UInt64).toNat + 8 ≤ UInt64.size := by decide
  have hpacked : pack bits = [0xCD, 0x01] := by cbv
  have hlength : ([0xFF, 0xFF] : List UInt8).length = eighths 10 := rfl
  obtain ⟨hceil, hpacks, -, -, hcleared, hanswer⟩ := packing_exact
  have hb : b.WellFormed := ⟨by decide, by cbv⟩
  have hunread : b.unread = m.frame ++ [0, 8] := by cbv
  have hread := (hanswer 1 ⟨7, 0, 0x11⟩ bits (by decide)).2 old b [0, 8] rfl hb hunread 12
  refine ⟨⟨hsize, ?_⟩, (hpacks _ _).mp hpacked, ⟨hlength, hcleared _ _ hlength⟩, by decide, rfl, hb,
    hunread, hread.1, hread.2⟩
  rw [(hceil _ hsize).1]
  rfl

end Bits

end ModbusTcp
