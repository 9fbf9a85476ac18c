import ModbusTcp.Proofs.Bounds
import ModbusTcp.Proofs.Grammar

/-!
What a decoding that fails leaves behind.

A message is decoded (`DecodeFrom`) into an object that may have held another one, and a failure
strikes at any field. Still its effect is bounded (`Message.Bounded`). As long as the fields before
the payload are not complete and plausible, the object stays as it was. Behind that point it takes
over the header and the function code of the frame, and of its payload a variant of the library has
changed one field at most, an address that stands before the field at fault (`Payload.withAddress`).
The buffer keeps its bytes, and the cursor stays within the frame that was announced.

`Payload.spares_parse` goes through the variants; the main statement is `decode_bounded`.
-/

set_option autoImplicit false

namespace ModbusTcp

open Grammar

/-! ## Payloads that are refused -/

/-- The payload with another address, where a variant takes over the address before it has checked
all of its payload: that of a single coil, or the start of a list to write. Any other payload as it
is. -/
def Payload.withAddress {role : Role} (address : UInt16) : Payload role → Payload role
  | .writeCoil _ value => .writeCoil address value
  | .writeCoils _ values => .writeCoils address values
  | .writeRegisters _ values => .writeRegisters address values
  | other => other

/-- Whether a reading that is refused leaves all of a payload but its address, and stays within so
many bytes. -/
def Parsed.Spares {role : Role} (p : Parsed (Payload role)) (old : Payload role)
    (address : UInt16) (size : Nat) : Prop :=
  ∀ e, p.outcome = .error e → (p.value = old ∨ p.value = old.withAddress address) ∧ p.taken ≤ size

namespace Parsed

variable {role : Role} {old : Payload role} {address : UInt16} {size : Nat}

theorem spares_accepted (value : Payload role) (taken : Nat) :
    (accepted value taken).Spares old address size := by
  intro e he
  exact nomatch he

/-- A refusal before anything was taken. -/
theorem spares_untouched (error : DecodeError) : (refused error old 0).Spares old address size :=
  fun _ _ => ⟨.inl rfl, Nat.zero_le size⟩

/-- A refusal that changed nothing, or the address alone. -/
theorem spares_refused {value : Payload role} {taken : Nat} (error : DecodeError)
    (hvalue : value = old ∨ value = old.withAddress address) (htaken : taken ≤ size) :
    (refused error value taken).Spares old address size :=
  fun _ _ => ⟨hvalue, htaken⟩

end Parsed

namespace Payload

variable {role : Role}

theorem spares_parseWords (form : FixedForm) (old : Payload role)
    (whole : UInt16 → UInt16 → Payload role) (p : List UInt8) :
    (parseWords form old whole p).Spares old (wordAt p 0) p.length := by
  unfold parseWords
  split
  · exact Parsed.spares_accepted _ _
  · exact Parsed.spares_untouched _

theorem spares_parseCoil (address : UInt16) (value : Bool) (p : List UInt8) :
    (parseCoil address value p).Spares (.writeCoil address value) (wordAt p 0) p.length := by
  unfold parseCoil
  split
  · rename_i hlength
    split
    · exact Parsed.spares_accepted _ _
    · -- The word for the coil is at fault, behind an address that was taken over.
      exact Parsed.spares_refused _ (.inr rfl) (Nat.le_of_eq hlength.symm)
  · exact Parsed.spares_untouched _

theorem spares_parseException (code : UInt8) (p : List UInt8) :
    (parseException code p).Spares (.exception code) (wordAt p 0) p.length := by
  unfold parseException
  split
  · exact Parsed.spares_accepted _ _
  · exact Parsed.spares_untouched _

/-- The payloads with a byte count of their own: too short for what comes before the count, or in
disagreement with it. -/
theorem spares_counted {p : List UInt8} {needed : Nat} {agrees : Prop} [Decidable agrees]
    {old whole half : Payload role}
    (hhalf : half = old ∨ half = old.withAddress (wordAt p 0)) (tooShort mismatch : DecodeError) :
    (if p.length < needed then .refused tooShort old 0
      else if agrees then .accepted whole p.length
      else .refused mismatch half needed : Parsed (Payload role)).Spares old (wordAt p 0)
        p.length := by
  split
  · exact Parsed.spares_untouched _
  · rename_i hneeded
    split
    · exact Parsed.spares_accepted _ _
    · exact Parsed.spares_refused _ hhalf (Nat.not_lt.mp hneeded)

/-- **A variant of the library that refuses a payload has changed its address at most,** and has
taken no more than the payload. -/
theorem spares_parse {old : Payload role} (hold : old.variant.IsLibrary) {size : Nat}
    {unread : List UInt8} (hsize : size ≤ unread.length) :
    (old.parse size unread).Spares old (wordAt (unread.take size) 0) size := by
  have hlength : (unread.take size).length = size := List.length_take_of_le hsize
  have hspares : (old.parse size unread).Spares old (wordAt (unread.take size) 0)
      (unread.take size).length := by
    cases old with
    | readBits start quantity => exact spares_parseWords _ _ _ _
    | readRegisters start quantity => exact spares_parseWords _ _ _ _
    | writeCoil address value => exact spares_parseCoil _ _ _
    | writeRegister address value => exact spares_parseWords _ _ _ _
    | writeCoils start values => exact spares_counted (.inr rfl) _ _
    | writeRegisters start values => exact spares_counted (.inr rfl) _ _
    | illegalFunction data => exact Parsed.spares_accepted _ _
    | bits packed => exact spares_counted (.inl rfl) _ _
    | registers values => exact spares_counted (.inl rfl) _ _
    | wroteSingle address value => exact spares_parseWords _ _ _ _
    | wroteMultiple start quantity => exact spares_parseWords _ _ _ _
    | exception code => exact spares_parseException _ _
    | unsupportedFunction data => exact Parsed.spares_accepted _ _
    | custom data reading => exact absurd rfl (hold reading)
  rwa [hlength] at hspares

end Payload

/-! ## Frames that are refused -/

namespace Message

variable {role : Role}

/-- Whether the fields before the payload are there, and the payload that they announce too. -/
def Announced (unread : List UInt8) : Prop :=
  8 ≤ unread.length ∧ 2 ≤ lengthOf unread ∧ 6 + lengthOf unread ≤ unread.length

/-- Before the payload a refusal changes nothing. It has looked at all eight bytes by then, or at as
many as there are. -/
theorem parse_of_not_announced {unread : List UInt8} (h : ¬ Announced unread) (m : Message role) :
    ∃ e, m.parse unread = .refused e m (min 8 unread.length) := by
  unfold parse
  by_cases hshort : unread.length < 8
  · rw [if_pos hshort, Nat.min_eq_right (Nat.le_of_lt hshort)]
    exact ⟨_, rfl⟩
  · rw [if_neg hshort, Nat.min_eq_left (Nat.not_lt.mp hshort)]
    by_cases hlength : wordAt unread 4 < 2
    · rw [if_pos hlength]
      exact ⟨_, rfl⟩
    · have htwo : 2 ≤ lengthOf unread := by
        rw [UInt16.lt_iff_toNat_lt] at hlength
        exact Nat.not_lt.mp hlength
      have hmissing : unread.length < 6 + (wordAt unread 4).toNat :=
        Nat.not_le.mp fun hwhole => h ⟨Nat.not_lt.mp hshort, htwo, hwhole⟩
      rw [if_neg hlength, if_pos hmissing]
      exact ⟨_, rfl⟩

theorem parse_of_announced {unread : List UInt8} (h : Announced unread) (m : Message role) :
    m.parse unread = m.parsePayload
      { transaction := wordAt unread 0, protocol := wordAt unread 2, unit := byteAt unread 6 }
      (byteAt unread 7) (lengthOf unread - 2) (unread.drop 8) := by
  obtain ⟨hheader, htwo, hwhole⟩ := h
  have hlength : ¬ wordAt unread 4 < 2 := by
    rw [UInt16.lt_iff_toNat_lt]
    exact Nat.not_lt.mpr htwo
  rw [lengthOf] at hwhole ⊢
  rw [parse, if_neg (Nat.not_lt.mpr hheader), if_neg hlength, if_neg (Nat.not_lt.mpr hwhole)]

/-- A frame whose payload a variant of the library has read. -/
theorem parsePayload_of_library {m : Message role} (hm : m.variant.IsLibrary) (header : Header)
    (code : UInt8) {size : Nat} {rest : List UInt8} (hsize : size ≤ rest.length) :
    ((m.parsePayload header code size rest).outcome = .ok ()
        ∧ (m.parsePayload header code size rest).taken = 8 + size)
      ∨ ∃ e value taken, m.parsePayload header code size rest
          = .refused e { header, code, payload := value } (8 + taken)
        ∧ (value = m.payload ∨ value = m.payload.withAddress (wordAt (rest.take size) 0))
        ∧ taken ≤ size := by
  have hspares := Payload.spares_parse hm hsize
  unfold parsePayload
  rcases Payload.settles_parse hm hsize with ⟨hok, htaken⟩ | ⟨e, he, -⟩
  · left
    simp only [hok, htaken, ne_eq, not_true_eq_false, if_false]
    exact ⟨rfl, rfl⟩
  · right
    obtain ⟨hvalue, htaken⟩ := hspares e he
    simp only [he]
    exact ⟨e, _, _, rfl, hvalue, htaken⟩

/-- An accepted payload was taken whole, by a variant of the user's own too. -/
theorem taken_parsePayload {m : Message role} {header : Header} {code : UInt8} {size : Nat}
    {rest : List UInt8} (hok : (m.parsePayload header code size rest).outcome = .ok ()) :
    (m.parsePayload header code size rest).taken = 8 + size := by
  unfold parsePayload at hok ⊢
  simp only at hok ⊢
  split at hok
  · cases hok
  · split at hok
    · cases hok
    · rename_i htaken
      rw [if_neg htaken, not_not.mp htaken]
      rfl

/-- The payload that is announced is there. -/
theorem Announced.size_le {unread : List UInt8} (h : Announced unread) :
    lengthOf unread - 2 ≤ (unread.drop 8).length := by
  have hwhole := h.2.2
  rw [List.length_drop]
  omega

theorem announced_of_parse {unread : List UInt8} {m : Message role}
    (hok : (m.parse unread).outcome = .ok ()) : Announced unread := by
  by_cases hannounced : Announced unread
  · exact hannounced
  · obtain ⟨e, he⟩ := parse_of_not_announced hannounced m
    rw [he] at hok
    cases hok

/-- A variant of the library takes the fields before the payload, and nothing behind the frame. -/
theorem taken_parse_of_library {unread : List UInt8} {m : Message role} (hm : m.variant.IsLibrary)
    (hheader : 8 ≤ unread.length) :
    8 ≤ (m.parse unread).taken ∧ (m.parse unread).taken ≤ max 8 (6 + lengthOf unread) := by
  by_cases hannounced : Announced unread
  · have htwo := hannounced.2.1
    rw [parse_of_announced hannounced]
    rcases parsePayload_of_library hm _ _ hannounced.size_le with
      ⟨-, htaken⟩ | ⟨e, value, taken, he, -, htaken⟩
    · rw [htaken]
      omega
    · rw [he]
      show 8 ≤ 8 + taken ∧ 8 + taken ≤ max 8 (6 + lengthOf unread)
      omega
  · obtain ⟨e, he⟩ := parse_of_not_announced hannounced m
    rw [he, Nat.min_eq_left hheader]
    exact ⟨Nat.le_refl 8, Nat.le_max_left 8 _⟩

/-- A frame that is accepted was taken whole. -/
theorem taken_parse_of_accepted {unread : List UInt8} {m : Message role}
    (hok : (m.parse unread).outcome = .ok ()) : (m.parse unread).taken = 6 + lengthOf unread := by
  have hannounced := announced_of_parse hok
  have htwo := hannounced.2.1
  rw [parse_of_announced hannounced] at hok ⊢
  rw [taken_parsePayload hok]
  omega

/-! ## The effect of decoding -/

/-- What decoding a frame does at most, besides what an accepted frame says. -/
structure Bounded (m : Message role) (b : FrameBuffer) : Prop where
  /-- Without a complete and plausible head, or without all of the payload that it announces, the
  message stays as it was. -/
  untouched : b.unread.length < 8 ∨ lengthOf b.unread < 2
      ∨ b.unread.length < 6 + lengthOf b.unread →
    (m.decode b).outcome ≠ .ok () ∧ (m.decode b).value = m
  /-- A payload that a variant of the library refuses leaves the fields before it, and of its own
  fields no more than an address. -/
  spared : m.variant.IsLibrary → Announced b.unread → (m.decode b).outcome ≠ .ok () →
    (m.decode b).value.header = { transaction := wordAt b.unread 0
                                  protocol := wordAt b.unread 2
                                  unit := byteAt b.unread 6 }
      ∧ (m.decode b).value.code = byteAt b.unread 7
      ∧ ((m.decode b).value.payload = m.payload
        ∨ (m.decode b).value.payload
          = m.payload.withAddress (wordAt (payloadOf b.unread) 0))
  /-- No byte of the buffer changes. -/
  data : (m.decode b).buffer.data = b.data
  size : (m.decode b).buffer.size = b.size
  capacity : (m.decode b).buffer.capacity = b.capacity
  /-- The cursor does not go back and does not leave the valid bytes. -/
  forward : b.position ≤ (m.decode b).buffer.position
  within : (m.decode b).buffer.position ≤ b.size
  /-- A variant of the library stays within the frame, whatever it makes of it. -/
  moved : m.variant.IsLibrary → 8 ≤ b.unread.length →
    b.position + 8 ≤ (m.decode b).buffer.position
      ∧ (m.decode b).buffer.position ≤ b.position + max 8 (6 + lengthOf b.unread)
  /-- Every variant that accepts a frame has taken it whole. -/
  whole : (m.decode b).outcome = .ok () →
    (m.decode b).buffer.position = b.position + (6 + lengthOf b.unread)

/-- **Decoding has a bounded effect,** whatever the message held before and wherever the cursor
stands. -/
theorem decode_bounded {b : FrameBuffer} (hb : b.WellFormed) (m : Message role) : Bounded m b := by
  -- The cursor moves by readers alone, so nothing but its position can differ.
  obtain ⟨n, hn, hbuffer⟩ := (m.leads_decode b).advance hb
  have hdecode := decode_eq hb m
  have hposition : (m.decode b).buffer.position = b.position + (m.parse b.unread).taken := by
    rw [hdecode]
    rfl
  constructor
  case untouched =>
    intro hmissing
    have hnot : ¬ Announced b.unread := by
      rintro ⟨hheader, htwo, hwhole⟩
      omega
    obtain ⟨e, he⟩ := parse_of_not_announced hnot m
    rw [hdecode, he]
    exact ⟨nofun, rfl⟩
  case spared =>
    intro hm hannounced hfailed
    rw [hdecode, parse_of_announced hannounced] at hfailed ⊢
    rcases parsePayload_of_library hm _ _ hannounced.size_le with
      ⟨hok, -⟩ | ⟨e, value, taken, he, hvalue, -⟩
    · exact absurd hok hfailed
    · rw [he]
      exact ⟨rfl, rfl, hvalue⟩
  case data =>
    rw [hbuffer]
    rfl
  case size =>
    rw [hbuffer]
    rfl
  case capacity =>
    rw [hbuffer]
    rfl
  case forward =>
    rw [hposition]
    exact Nat.le_add_right _ _
  case within =>
    have hstart := hb.1
    rw [hbuffer]
    simp only [FrameBuffer.advance, FrameBuffer.remaining] at hn ⊢
    omega
  case moved =>
    intro hm hheader
    obtain ⟨hleast, hmost⟩ := taken_parse_of_library hm hheader
    rw [hposition]
    exact ⟨Nat.add_le_add_left hleast _, Nat.add_le_add_left hmost _⟩
  case whole =>
    intro hok
    rw [hdecode] at hok
    rw [hposition, taken_parse_of_accepted hok]

/-- Two bytes from the front of a buffer stands a request to set a coil, with a word that is
neither on nor off, and one more byte. The object that it is decoded into held another address. -/
theorem decode_bounded_coil :
    let b : FrameBuffer :=
      ⟨[0xAA, 0xBB, 0, 1, 0, 0, 0, 6, 0x11, 5, 0, 0x13, 0x12, 0x34, 0xEE], 15, 2⟩
    let m : Message .request := .writeCoilRequest 7 true
    b.WellFormed ∧ Bounded m b ∧ (m.decode b).outcome = .error (.coilValue 0x1234)
      ∧ (m.decode b).value = ⟨⟨1, 0, 0x11⟩, 5, .writeCoil 0x13 true⟩
      ∧ (m.decode b).buffer = b.advance 12 := by
  intro b m
  have hb : b.WellFormed := ⟨by decide, by decide⟩
  exact ⟨hb, decode_bounded hb m, rfl, by decide, by decide⟩

end Message

end ModbusTcp
