import ModbusTcp.FrameBuffer

/-!
What the operations of a receive buffer keep, and what they do to the unread bytes.

No operation changes the capacity, and each keeps the cursor within the valid bytes
(`WellFormed.store`, `WellFormed.reset`, `WellFormed.advance` and those built on them). With the
unread bytes seen as a list, a reader takes from its front (`readByte?_of_unread`,
`readWord?_of_unread`, `readBytes?_of_le`) or finds too few (`readByte?_eq_none`,
`readWord?_eq_none`, `readBytes?_eq_none`).
-/

set_option autoImplicit false

namespace ModbusTcp.FrameBuffer

variable {b : FrameBuffer}

/-! ## Filling -/

@[simp] theorem capacity_ofCapacity (n : Nat) : (ofCapacity n).capacity = n := by
  simp [ofCapacity, capacity]

theorem wellFormed_ofCapacity (n : Nat) : (ofCapacity n).WellFormed := by
  simp [ofCapacity, WellFormed]

theorem fits_iff {offset count : Nat} : b.fits offset count ↔ offset + count ≤ b.capacity := by
  simp only [fits, Bool.and_eq_true, decide_eq_true_eq]
  omega

theorem length_region_of_fits {offset count : Nat} (h : offset + count ≤ b.capacity) :
    (b.region offset count).length = count := by
  have hc : b.capacity = b.data.length := rfl
  simp only [region, fits_iff.mpr h, if_true, List.length_take, List.length_drop]
  omega

theorem region_of_not_fits {offset count : Nat} (h : b.capacity < offset + count) :
    b.region offset count = [] := by
  have : ¬ b.fits offset count := fun hf => by have := fits_iff.mp hf; omega
  simp [region, this]

@[simp] theorem capacity_store (b : FrameBuffer) (offset : Nat) (bytes : List UInt8) :
    (b.store offset bytes).capacity = b.capacity := by
  simp only [store, capacity, List.length_append, List.length_take, length_overlay,
    List.length_drop]
  omega

/-- Stored bytes stand behind those before their offset. -/
theorem take_store {offset : Nat} {bytes : List UInt8} (h : offset + bytes.length ≤ b.capacity) :
    (b.store offset bytes).data.take (offset + bytes.length) = b.data.take offset ++ bytes := by
  have hcapacity : b.data.length = b.capacity := rfl
  have hroom : bytes.length ≤ (b.data.drop offset).length := by
    rw [List.length_drop]
    omega
  have hlength : (b.data.take offset ++ bytes).length = offset + bytes.length := by
    rw [List.length_append, List.length_take_of_le (by omega)]
  rw [store, overlay_of_le hroom, ← List.append_assoc, List.take_left' hlength]

@[simp] theorem capacity_reset (b : FrameBuffer) (length : Nat) :
    (b.reset length).2.capacity = b.capacity := by
  unfold reset; split <;> rfl

theorem reset_fst (b : FrameBuffer) (length : Nat) :
    (b.reset length).1 = decide (length ≤ b.capacity) := by
  unfold reset; split <;> simp <;> omega

theorem WellFormed.store (h : b.WellFormed) (offset : Nat) (bytes : List UInt8) :
    (b.store offset bytes).WellFormed :=
  ⟨h.1, Nat.le_trans h.2 (Nat.le_of_eq (capacity_store b offset bytes).symm)⟩

theorem WellFormed.write (h : b.WellFormed) (offset count : Nat) (bytes : List UInt8) :
    (b.write offset count bytes).2.WellFormed := h.store offset _

theorem WellFormed.reset (h : b.WellFormed) (length : Nat) : (b.reset length).2.WellFormed := by
  unfold FrameBuffer.reset
  split
  · exact h
  · exact ⟨Nat.zero_le _, Nat.le_of_not_lt ‹_›⟩

/-! ## The unread bytes -/

/-- A buffer that is full of unread bytes. -/
theorem wellFormed_whole (bytes : List UInt8) : WellFormed ⟨bytes, bytes.length, 0⟩ :=
  ⟨Nat.zero_le _, Nat.le_refl _⟩

@[simp] theorem unread_whole (bytes : List UInt8) : unread ⟨bytes, bytes.length, 0⟩ = bytes :=
  List.take_length

theorem length_unread (h : b.WellFormed) : b.unread.length = b.remaining := by
  have hc : b.capacity = b.data.length := rfl
  have h₂ := h.2
  simp only [unread, remaining, List.length_drop, List.length_take]
  omega

theorem length_unread_le (b : FrameBuffer) : b.unread.length ≤ b.remaining := by
  simp only [unread, remaining, List.length_drop, List.length_take]
  omega

theorem unread_eq_take (b : FrameBuffer) :
    b.unread = (b.data.drop b.position).take b.remaining := by
  simp [unread, remaining, List.drop_take]

/-- As long as nothing was read, all valid bytes are unread. -/
theorem valid_eq_unread (h : b.position = 0) : b.valid = b.unread := by
  rw [unread, h, List.drop_zero, valid]

@[simp] theorem advance_zero (b : FrameBuffer) : b.advance 0 = b := rfl

@[simp] theorem advance_advance (b : FrameBuffer) (m n : Nat) :
    (b.advance m).advance n = b.advance (m + n) := by
  simp only [advance, Nat.add_assoc]

@[simp] theorem remaining_advance (b : FrameBuffer) (count : Nat) :
    (b.advance count).remaining = b.remaining - count := by
  simp only [remaining, advance, Nat.sub_add_eq]

@[simp] theorem unread_advance (b : FrameBuffer) (count : Nat) :
    (b.advance count).unread = b.unread.drop count := by
  simp [advance, unread]

@[simp] theorem capacity_advance (b : FrameBuffer) (count : Nat) :
    (b.advance count).capacity = b.capacity := rfl

theorem WellFormed.advance {count : Nat} (h : b.WellFormed) (hc : count ≤ b.remaining) :
    (b.advance count).WellFormed := by
  have h₁ := h.1
  refine ⟨?_, h.2⟩
  simp only [remaining, FrameBuffer.advance] at hc ⊢
  omega

theorem peek?_eq (b : FrameBuffer) (offset : Nat) : b.peek? offset = b.valid[offset]? := by
  simp only [peek?, valid, List.getElem?_take]

/-! ## Taking bytes and words -/

theorem readByte?_of_unread {byte : UInt8} {rest : List UInt8} (h : b.unread = byte :: rest) :
    b.readByte? = (some byte, b.advance 1) := by
  have hr := b.length_unread_le
  have h₀ : b.unread[0]? = some byte := by rw [h]; rfl
  rw [h, List.length_cons] at hr
  rw [unread_eq_take, List.getElem?_take_of_lt (by omega), List.getElem?_drop, Nat.add_zero] at h₀
  simp only [readByte?, h₀, if_neg (show ¬ b.remaining < 1 by omega)]

theorem readWord?_of_unread {high low : UInt8} {rest : List UInt8}
    (h : b.unread = high :: low :: rest) :
    b.readWord? = (some (Word.ofBytes high low), b.advance 2) := by
  have hr := b.length_unread_le
  have h₀ : b.unread[0]? = some high := by rw [h]; rfl
  have h₁ : b.unread[1]? = some low := by rw [h]; rfl
  rw [h, List.length_cons, List.length_cons] at hr
  rw [unread_eq_take, List.getElem?_take_of_lt (by omega), List.getElem?_drop, Nat.add_zero] at h₀
  rw [unread_eq_take, List.getElem?_take_of_lt (by omega), List.getElem?_drop] at h₁
  simp only [readWord?, h₀, h₁, if_neg (show ¬ b.remaining < 2 by omega)]

theorem readBytes?_of_le {count : Nat} (h : count ≤ b.unread.length) :
    b.readBytes? count = (some (b.unread.take count), b.advance count) := by
  have hr := b.length_unread_le
  simp only [readBytes?, if_neg (show ¬ b.remaining < count by omega)]
  rw [unread_eq_take, List.take_take, Nat.min_eq_left (by omega)]

theorem readByte?_eq_none (h : b.WellFormed) (hu : b.unread = []) : b.readByte? = (none, b) := by
  have hr := length_unread h
  rw [hu, List.length_nil] at hr
  simp [readByte?, ← hr]

theorem readWord?_eq_none (h : b.WellFormed) (hu : b.unread.length < 2) :
    b.readWord? = (none, b) := by
  rw [length_unread h] at hu
  simp [readWord?, hu]

theorem readBytes?_eq_none {count : Nat} (h : b.WellFormed) (hu : b.unread.length < count) :
    b.readBytes? count = (none, b) := by
  rw [length_unread h] at hu
  simp [readBytes?, hu]

theorem skip_of_le {count : Nat} (h : count ≤ b.unread.length) :
    b.skip count = (true, b.advance count) := by
  have hr := b.length_unread_le
  simp [skip, show ¬ b.remaining < count by omega]

theorem skip_eq_refused {count : Nat} (h : b.WellFormed) (hu : b.unread.length < count) :
    b.skip count = (false, b) := by
  rw [length_unread h] at hu
  simp [skip, hu]

theorem readRemaining_eq (h : b.WellFormed) :
    b.readRemaining = (b.unread, b.advance b.unread.length) := by
  have h₁ := h.1
  simp only [readRemaining, advance, length_unread h, remaining]
  rw [Nat.add_sub_cancel' h₁]

end ModbusTcp.FrameBuffer
