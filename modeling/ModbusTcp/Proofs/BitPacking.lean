import Mathlib.Algebra.Group.Nat.Defs
import ModbusTcp.Bits
import ModbusTcp.Proofs.Fields

/-!
Packed bits, each named by its position.

`bitAt` is bit `i mod 8` of byte `i / 8`. Packing (`PackBits`) puts every bit of a list at its own
position and zeros behind them (`bitAt_pack`), and unpacking (`UnpackBits`) reads the positions in
order (`unpack_eq_map_bitAt`), so unpacking what was packed gives the first bits of the list, and
`false` behind its last one (`unpack_pack_eq_firstBits`). The other way round packing gives back all
but the padding (`pack_unpack`).
-/

set_option autoImplicit false

namespace ModbusTcp.Bits

/-- The bit at a position of packed bytes; `false` beyond the last byte. -/
def bitAt (packed : List UInt8) (i : Nat) : Bool := (byteAt packed (i / 8)).toNat.testBit (i % 8)

/-! ## One byte more in front -/

theorem bitAt_cons_of_lt {i : Nat} (hi : i < 8) (byte : UInt8) (packed : List UInt8) :
    bitAt (byte :: packed) i = byte.toNat.testBit i := by
  rw [bitAt, Nat.div_eq_of_lt hi, Nat.mod_eq_of_lt hi, byteAt_cons_zero]

theorem bitAt_cons_add (byte : UInt8) (packed : List UInt8) (i : Nat) :
    bitAt (byte :: packed) (i + 8) = bitAt packed i := by
  have hdiv : (i + 8) / 8 = i / 8 + 1 := by omega
  have hmod : (i + 8) % 8 = i % 8 := by omega
  rw [bitAt, hdiv, hmod, byteAt_cons_succ, ← bitAt]

/-! ## Packing -/

/-- A packed byte holds its bits at their positions. The sum may wrap when there are more than
eight of them, but that only loses bits beyond the eighth. -/
theorem testBit_packByte (bits : List Bool) {i : Nat} (hi : i < 8) :
    (packByte bits).toNat.testBit i = bits.getD i false := by
  induction bits generalizing i with
  | nil => simp [packByte]
  | cons bit bits ih =>
    have hnat : (packByte (bit :: bits)).toNat
        = (2 * (packByte bits).toNat + bit.toNat) % 2 ^ 8 := by
      cases bit <;> simp [packByte, UInt8.toNat_add, UInt8.toNat_mul]
    -- Modulo 2⁸ keeps the bits below the eighth, which are all that is asked for.
    rw [hnat, Nat.testBit_mod_two_pow, decide_eq_true hi, Bool.true_and]
    cases i with
    | zero => cases bit <;> simp [Nat.testBit_zero]
    | succ i =>
      have hhalf : (2 * (packByte bits).toNat + bit.toNat) / 2 = (packByte bits).toNat := by
        have hbit := bit.toNat_le
        omega
      rw [Nat.testBit_succ, hhalf, ih (by omega), List.getD_cons_succ]

theorem length_pack (bits : List Bool) : (pack bits).length = (bits.length + 7) / 8 := by
  fun_induction pack bits with
  | case1 => rfl
  | case2 bit bits ih =>
    rw [List.length_cons, ih, List.length_drop, List.length_cons]
    omega

/-- **Every bit stands at its own position, and zeros behind them.** -/
theorem bitAt_pack (bits : List Bool) (i : Nat) : bitAt (pack bits) i = bits.getD i false := by
  fun_induction pack bits generalizing i with
  | case1 => simp [bitAt, byteAt]
  | case2 bit bits ih =>
    -- The first byte holds the first eight bits; the rest is packed eight positions earlier.
    by_cases hi : i < 8
    · rw [bitAt_cons_of_lt hi, testBit_packByte _ hi]
      cases i with
      | zero => rfl
      | succ i =>
        rw [List.getD_cons_succ, List.getD_cons_succ, List.getD_eq_getElem?_getD,
          List.getD_eq_getElem?_getD, List.getElem?_take_of_lt (by omega)]
    · obtain ⟨j, rfl⟩ : ∃ j, i = j + 8 := ⟨i - 8, by omega⟩
      rw [bitAt_cons_add, ih, List.getD_cons_succ, List.getD_eq_getElem?_getD,
        List.getD_eq_getElem?_getD, List.getElem?_drop, Nat.add_comm 7 j]

/-! ## The first bits of a list -/

/-- The first `count` bits of a list, continued with `false` where it has no more. -/
def firstBits (count : Nat) (bits : List Bool) : List Bool :=
  bits.take count ++ List.replicate (count - bits.length) false

theorem length_firstBits (count : Nat) (bits : List Bool) :
    (firstBits count bits).length = count := by
  rw [firstBits, List.length_append, List.length_take, List.length_replicate]
  omega

theorem getElem_firstBits {count i : Nat} {bits : List Bool}
    (hi : i < (firstBits count bits).length) :
    (firstBits count bits)[i] = bits.getD i false := by
  have hcount : i < count := by rwa [length_firstBits] at hi
  rw [List.getD_eq_getElem?_getD]
  -- A position beyond the last bit falls into the part that is all `false`.
  by_cases hin : i < bits.length
  · have htake : i < (bits.take count).length := by
      rw [List.length_take]
      omega
    simp only [firstBits, List.getElem_append_left htake, List.getElem_take,
      List.getElem?_eq_getElem hin, Option.getD_some]
  · have htake : (bits.take count).length ≤ i := by
      rw [List.length_take]
      omega
    rw [List.getElem?_eq_none (by omega), Option.getD_none]
    simp only [firstBits, List.getElem_append_right htake, List.getElem_replicate]

theorem firstBits_length (bits : List Bool) : firstBits bits.length bits = bits := by
  rw [firstBits, List.take_length, Nat.sub_self, List.replicate_zero, List.append_nil]

/-! ## Unpacking -/

theorem getD_flatMap_unpackByte (packed : List UInt8) (i : Nat) :
    (packed.flatMap unpackByte).getD i false = bitAt packed i := by
  induction packed generalizing i with
  | nil => simp [bitAt, byteAt]
  | cons byte packed ih =>
    have hlength : (unpackByte byte).length = 8 := by simp [unpackByte]
    rw [List.flatMap_cons, List.getD_eq_getElem?_getD]
    by_cases hi : i < 8
    · rw [List.getElem?_append_left (by omega), bitAt_cons_of_lt hi]
      simp [unpackByte, hi]
    · obtain ⟨j, rfl⟩ : ∃ j, i = j + 8 := ⟨i - 8, by omega⟩
      rw [List.getElem?_append_right (by omega), hlength, Nat.add_sub_cancel, bitAt_cons_add,
        ← ih j, List.getD_eq_getElem?_getD]

theorem unpack_eq_firstBits (packed : List UInt8) (count : Nat) :
    unpack packed count = firstBits count (packed.flatMap unpackByte) := by
  have hpadding : count - ((packed.flatMap unpackByte).take count).length
      = count - (packed.flatMap unpackByte).length := by
    rw [List.length_take]
    omega
  rw [unpack, firstBits, hpadding]

/-- **Unpacking reads the positions in order.** -/
theorem unpack_eq_map_bitAt (packed : List UInt8) (count : Nat) :
    unpack packed count = (List.range count).map (bitAt packed) := by
  apply List.ext_getElem
  · rw [length_unpack, List.length_map, List.length_range]
  · intro i _ _
    simp only [unpack_eq_firstBits, getElem_firstBits, getD_flatMap_unpackByte, List.getElem_map,
      List.getElem_range]

/-- **Unpacking what was packed gives the first bits of the list,** however many are asked for. -/
theorem unpack_pack_eq_firstBits (bits : List Bool) (count : Nat) :
    unpack (pack bits) count = firstBits count bits := by
  apply List.ext_getElem
  · rw [length_unpack, length_firstBits]
  · intro i _ _
    simp only [unpack_eq_map_bitAt, List.getElem_map, List.getElem_range, bitAt_pack,
      getElem_firstBits]

/-- Unpacking what was packed gives the bits back. -/
theorem unpack_pack (bits : List Bool) : unpack (pack bits) bits.length = bits :=
  (unpack_pack_eq_firstBits bits bits.length).trans (firstBits_length bits)

/-! ## Padding -/

/-- Packed bytes with every bit cleared from the position `count` on. -/
def clearFrom (count : Nat) : List UInt8 → List UInt8
  | [] => []
  | byte :: packed => UInt8.ofNat (byte.toNat % 2 ^ count) :: clearFrom (count - 8) packed

theorem length_clearFrom (count : Nat) (packed : List UInt8) :
    (clearFrom count packed).length = packed.length := by
  induction packed generalizing count with
  | nil => rfl
  | cons byte packed ih => simp [clearFrom, ih]

theorem bitAt_clearFrom (count : Nat) (packed : List UInt8) (i : Nat) :
    bitAt (clearFrom count packed) i = (decide (i < count) && bitAt packed i) := by
  induction packed generalizing count i with
  | nil => simp [clearFrom, bitAt, byteAt]
  | cons byte packed ih =>
    unfold clearFrom
    by_cases hi : i < 8
    · have hlt : byte.toNat % 2 ^ count < 256 :=
        Nat.lt_of_le_of_lt (Nat.mod_le ..) byte.toNat_lt
      rw [bitAt_cons_of_lt hi, bitAt_cons_of_lt hi, UInt8.toNat_ofNat_of_lt' hlt,
        Nat.testBit_mod_two_pow]
    · -- Behind the first byte, position and count have both lost eight.
      obtain ⟨j, rfl⟩ : ∃ j, i = j + 8 := ⟨i - 8, by omega⟩
      have hposition : j < count - 8 ↔ j + 8 < count := by omega
      rw [bitAt_cons_add, bitAt_cons_add, ih]
      simp only [hposition]

/-- Bytes are determined by their bits. -/
theorem eq_of_bitAt {left right : List UInt8} (hlength : left.length = right.length)
    (hbits : ∀ i, bitAt left i = bitAt right i) : left = right := by
  induction left generalizing right with
  | nil => exact (List.length_eq_zero_iff.mp hlength.symm).symm
  | cons byte left ih =>
    match right, hlength with
    | byte' :: right, hlength =>
      have hbyte : byte = byte' := by
        apply UInt8.toNat_inj.mp
        apply Nat.eq_of_testBit_eq
        intro i
        by_cases hi : i < 8
        · have h := hbits i
          rwa [bitAt_cons_of_lt hi, bitAt_cons_of_lt hi] at h
        · -- No byte has a bit beyond the eighth.
          have hpow : 2 ^ 8 ≤ 2 ^ i := Nat.pow_le_pow_right (by decide) (by omega)
          rw [Nat.testBit_lt_two_pow (Nat.lt_of_lt_of_le byte.toNat_lt hpow),
            Nat.testBit_lt_two_pow (Nat.lt_of_lt_of_le byte'.toNat_lt hpow)]
      have hrest : left = right := by
        apply ih (Nat.succ.inj hlength)
        intro i
        have h := hbits (i + 8)
        rwa [bitAt_cons_add, bitAt_cons_add] at h
      rw [hbyte, hrest]

/-- **Packing undoes unpacking up to the padding:** the bits that were not asked for are zero
afterwards, and all others stand where they stood. -/
theorem pack_unpack {packed : List UInt8} {count : Nat} (h : packed.length = (count + 7) / 8) :
    pack (unpack packed count) = clearFrom count packed := by
  apply eq_of_bitAt
  · rw [length_pack, length_unpack, length_clearFrom, h]
  · intro i
    rw [bitAt_pack, bitAt_clearFrom, unpack_eq_map_bitAt, List.getD_eq_getElem?_getD]
    by_cases hi : i < count
    · simp [hi]
    · simp [hi]

/-- Where no byte is packed in vain, only the last one has padding. -/
theorem dropLast_clearFrom {packed : List UInt8} {count : Nat}
    (h : packed.length = (count + 7) / 8) :
    (clearFrom count packed).dropLast = packed.dropLast := by
  induction packed generalizing count with
  | nil => rfl
  | cons byte packed ih =>
    rcases packed with _ | ⟨next, packed⟩
    · rfl
    · -- A byte follows, so all eight bits of this one are below the count.
      simp only [List.length_cons] at h ih
      have hpow : 2 ^ 8 ≤ 2 ^ count := Nat.pow_le_pow_right (by decide) (by omega)
      have hbyte : byte.toNat % 2 ^ count = byte.toNat :=
        Nat.mod_eq_of_lt (Nat.lt_of_lt_of_le byte.toNat_lt hpow)
      have hrest := @ih (count - 8) (by omega)
      rw [clearFrom, hbyte, UInt8.ofNat_toNat, List.dropLast_cons_of_ne_nil (by simp [clearFrom]),
        hrest]
      rfl

/-- Bits that are all `false` are packed into zeros. -/
theorem pack_replicate_false (count : Nat) :
    pack (List.replicate count false) = List.replicate ((count + 7) / 8) 0 := by
  apply eq_of_bitAt
  · rw [length_pack, List.length_replicate, List.length_replicate]
  · intro i
    have hzero : byteAt (List.replicate ((count + 7) / 8) 0) (i / 8) = 0 := by
      unfold byteAt
      rw [List.getD_eq_getElem?_getD, List.getElem?_replicate]
      split <;> rfl
    rw [bitAt_pack, bitAt, hzero, List.getD_eq_getElem?_getD, List.getElem?_replicate]
    split <;> simp

/-! ## The number of bytes -/

/-- The number of bytes, for every count for which the sum does not wrap. -/
theorem toNat_packedSize_of_le {count : UInt64} (h : count.toNat + 8 ≤ UInt64.size) :
    (packedSize count).toNat = (count.toNat + 7) / 8 := by
  rw [UInt64.size] at h
  simp only [packedSize, UInt64.toNat_div, UInt64.toNat_add, UInt64.reduceToNat]
  omega

/-- A count that a word holds is far from wrapping. -/
theorem toNat_packedSize (count : UInt16) :
    (packedSize count.toUInt64).toNat = (count.toNat + 7) / 8 := by
  have hcount := count.toNat_lt
  rw [toNat_packedSize_of_le, UInt16.toNat_toUInt64]
  rw [UInt16.toNat_toUInt64, UInt64.size]
  omega

end ModbusTcp.Bits
