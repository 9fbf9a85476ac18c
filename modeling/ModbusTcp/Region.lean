/-!
Storing bytes at the front of a region of memory.
-/

set_option autoImplicit false

namespace ModbusTcp

/-- The region with `bytes` stored at its front, as far as both reach. -/
def overlay (region bytes : List UInt8) : List UInt8 :=
  bytes.take region.length ++ region.drop bytes.length

@[simp] theorem length_overlay (region bytes : List UInt8) :
    (overlay region bytes).length = region.length := by
  simp only [overlay, List.length_append, List.length_take, List.length_drop]
  omega

@[simp] theorem overlay_nil (region : List UInt8) : overlay region [] = region := by
  rw [overlay, List.take_nil, List.length_nil, List.drop_zero, List.nil_append]

/-- Each place holds what was stored there, or what it held before. -/
theorem getElem?_overlay (region bytes : List UInt8) (i : Nat) :
    (overlay region bytes)[i]? = region[i]?.map (bytes.getD i) := by
  rw [overlay, List.getElem?_append, List.length_take]
  by_cases hregion : i < region.length
  · rw [List.getElem?_eq_getElem hregion, Option.map_some, List.getD_eq_getElem?_getD]
    by_cases hbytes : i < bytes.length
    · rw [if_pos (by omega), List.getElem?_take_of_lt hregion, List.getElem?_eq_getElem hbytes]
      rfl
    · rw [if_neg (by omega), List.getElem?_drop, List.getElem?_eq_none (Nat.not_lt.mp hbytes),
        Nat.min_eq_right (by omega), Nat.add_sub_cancel' (by omega),
        List.getElem?_eq_getElem hregion]
      rfl
  · rw [if_neg (by omega), List.getElem?_drop, List.getElem?_eq_none (by omega),
      List.getElem?_eq_none (Nat.not_lt.mp hregion)]
    rfl

/-- Bytes that fit stand whole before the rest of the region. -/
theorem overlay_of_le {region bytes : List UInt8} (h : bytes.length ≤ region.length) :
    overlay region bytes = bytes ++ region.drop bytes.length := by
  rw [overlay, List.take_of_length_le h]

/-- Bytes that fill the region replace it. -/
theorem overlay_of_length_eq {region bytes : List UInt8} (h : bytes.length = region.length) :
    overlay region bytes = bytes := by
  rw [overlay_of_le (Nat.le_of_eq h), h, List.drop_length, List.append_nil]

theorem overlay_append {region first : List UInt8} (h : first.length ≤ region.length)
    (second : List UInt8) :
    overlay region (first ++ second) = first ++ overlay (region.drop first.length) second := by
  rw [overlay, overlay, List.take_append, List.take_of_length_le h, List.append_assoc,
    List.length_append, List.length_drop, List.drop_drop]

/-- Storing behind what was stored already gives what storing both at once gives. -/
theorem overlay_overlay {region first : List UInt8} {filled : Nat}
    (hfilled : filled ≤ region.length) (hfirst : first.length ≤ region.length - filled)
    (second : List UInt8) :
    let stored := region.take filled ++ overlay (region.drop filled) first
    stored.take (filled + first.length) ++ overlay (stored.drop (filled + first.length)) second
      = region.take filled ++ overlay (region.drop filled) (first ++ second) := by
  intro stored
  have hroom : first.length ≤ (region.drop filled).length := by rwa [List.length_drop]
  have hstored : stored
      = (region.take filled ++ first) ++ (region.drop filled).drop first.length := by
    rw [List.append_assoc, ← overlay_of_le hroom]
  have hlength : (region.take filled ++ first).length = filled + first.length := by
    rw [List.length_append, List.length_take_of_le hfilled]
  rw [hstored, List.take_left' hlength, List.drop_left' hlength, overlay_append hroom,
    List.append_assoc]

end ModbusTcp
