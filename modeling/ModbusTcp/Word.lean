/-!
Sixteen-bit words as they travel: the high byte first.

`toBytes` and `ofBytes` are inverse to each other (`ofBytes_high_low`, `high_ofBytes`,
`low_ofBytes`), so a word on the wire is exactly a pair of bytes.
-/

set_option autoImplicit false

namespace ModbusTcp.Word

/-- The byte that travels first. -/
def high (w : UInt16) : UInt8 := (w >>> 8).toUInt8

/-- The byte that travels second. -/
def low (w : UInt16) : UInt8 := w.toUInt8

/-- The word with the given high and low byte. -/
def ofBytes (h l : UInt8) : UInt16 := h.toUInt16 <<< 8 ||| l.toUInt16

/-- A word as its two bytes on the wire. -/
def toBytes (w : UInt16) : List UInt8 := [high w, low w]

/-! ## The two bytes determine the word -/

theorem toNat_high (w : UInt16) : (high w).toNat = w.toNat / 256 := by
  have h := w.toNat_lt
  simp only [high, UInt16.toNat_toUInt8, UInt16.toNat_shiftRight, UInt16.reduceToNat,
    Nat.shiftRight_eq_div_pow, Nat.reduceMod, Nat.reducePow]
  omega

theorem toNat_low (w : UInt16) : (low w).toNat = w.toNat % 256 := by
  simp [low]

theorem toNat_ofBytes (h l : UInt8) : (ofBytes h l).toNat = 256 * h.toNat + l.toNat := by
  have hh := h.toNat_lt
  have hl := l.toNat_lt
  have key := Nat.two_pow_add_eq_or_of_lt hl h.toNat
  simp only [ofBytes, UInt16.toNat_or, UInt16.toNat_shiftLeft, UInt8.toNat_toUInt16,
    UInt16.reduceToNat, Nat.shiftLeft_eq, Nat.reduceMod, Nat.reducePow] at key ⊢
  rw [Nat.mod_eq_of_lt (by omega), Nat.mul_comm h.toNat, ← key]

theorem ofBytes_high_low (w : UInt16) : ofBytes (high w) (low w) = w := by
  apply UInt16.toNat_inj.mp
  rw [toNat_ofBytes, toNat_high, toNat_low]
  omega

theorem high_ofBytes (h l : UInt8) : high (ofBytes h l) = h := by
  have hl := l.toNat_lt
  apply UInt8.toNat_inj.mp
  rw [toNat_high, toNat_ofBytes]
  omega

theorem low_ofBytes (h l : UInt8) : low (ofBytes h l) = l := by
  have hl := l.toNat_lt
  apply UInt8.toNat_inj.mp
  rw [toNat_low, toNat_ofBytes]
  omega

@[simp] theorem length_toBytes (w : UInt16) : (toBytes w).length = 2 := rfl

end ModbusTcp.Word
