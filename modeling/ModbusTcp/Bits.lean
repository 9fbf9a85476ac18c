/-!
Bit lists packed into bytes: the first bit is the lowest bit of the first byte, and the last byte
is filled up with zeros. The number of bits is not recorded, so `unpack` is told how many to give
back; beyond the packed bytes every bit is `false`.
-/

set_option autoImplicit false

namespace ModbusTcp.Bits

/-- The number of bytes that `count` bits fill, in 64-bit arithmetic (`PackedBitsSize`): the sum
wraps for the seven largest counts, whose answer is 0. -/
def packedSize (count : UInt64) : UInt64 := (count + 7) / 8

/-- Up to eight bits as one byte, the first bit lowest. -/
def packByte (bits : List Bool) : UInt8 :=
  bits.foldr (fun bit byte => 2 * byte + if bit then 1 else 0) 0

/-- The bits in bytes of eight (`PackBits`). -/
def pack : List Bool → List UInt8
  | [] => []
  | bit :: bits => packByte (bit :: bits.take 7) :: pack (bits.drop 7)
termination_by bits => bits.length
decreasing_by simp only [List.length_drop, List.length_cons]; omega

/-- The eight bits of a byte, the lowest first. -/
def unpackByte (byte : UInt8) : List Bool :=
  (List.range 8).map byte.toNat.testBit

/-- The first `count` bits of the packed bytes, continued with `false` (`UnpackBits`). -/
def unpack (packed : List UInt8) (count : Nat) : List Bool :=
  let bits := (packed.flatMap unpackByte).take count
  bits ++ List.replicate (count - bits.length) false

@[simp] theorem length_unpack (packed : List UInt8) (count : Nat) :
    (unpack packed count).length = count := by
  simp only [unpack, List.length_append, List.length_take, List.length_replicate]
  omega

end ModbusTcp.Bits
