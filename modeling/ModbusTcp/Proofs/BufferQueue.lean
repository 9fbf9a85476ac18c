import ModbusTcp.FrameBuffer.Lemmas

/-!
A receive buffer is a bounded queue of bytes.

`FrameBuffer.Queue` is what a caller may think of: bytes that were taken, bytes that are there to
take, and bytes that are not valid. Its operations look at the lengths of these lists and move bytes
from one to the next; a store changes the bytes of all three, each where it stands. A buffer whose
cursor and size are in order shows itself as such a queue (`queue`), and each operation does on the
buffer what it does on the queue, or is refused and leaves the buffer alone (`perform_of_admits`,
`perform_of_refused`, `queue_after`).

The program counts with words of 64 bits. `FrameBuffer.Counters` are its three numbers, with all
comparisons, sums and differences as they come out there, wrapping around. They agree with the exact
numbers in every buffer that operations lead to. The main statement is `refines_queue`.
-/

set_option autoImplicit false

namespace ModbusTcp.FrameBuffer

/-! ## Operations -/

/-- What is done with a buffer. Offsets and numbers are words, and may be of any size. -/
inductive Operation where
  /-- A region is asked for, and bytes are stored in it from its front on, as far as it goes. A
  store into the middle has the old bytes around it, and one that comes later asks again. -/
  | fill (offset count : UInt64) (bytes : List UInt8)
  | reset (length : UInt64)
  | skip (count : UInt64)
  | peek (offset : UInt64)
  | readByte
  | readWord
  | readBytes (count : UInt64)
  | readRemaining
  | valid

/-- What an operation gives. For `fill` these are the bytes of the region before the store. -/
inductive Reply where
  | bytes (value : List UInt8)
  | accepted (value : Bool)
  | byte (value : Option UInt8)
  | word (value : Option UInt16)
  | taken (value : Option (List UInt8))
  deriving DecidableEq, Repr

/-- What an operation gives that is refused. -/
def Operation.refusal : Operation → Reply
  | .fill _ _ _ | .readRemaining | .valid => .bytes []
  | .reset _ | .skip _ => .accepted false
  | .peek _ | .readByte => .byte none
  | .readWord => .word none
  | .readBytes _ => .taken none

/-- Does something with a buffer. -/
def perform (operation : Operation) (b : FrameBuffer) : Reply × FrameBuffer :=
  match operation with
  | .fill offset count bytes =>
    (.bytes (b.region offset.toNat count.toNat), (b.write offset.toNat count.toNat bytes).2)
  | .reset length =>
    let (done, b) := b.reset length.toNat
    (.accepted done, b)
  | .skip count =>
    let (done, b) := b.skip count.toNat
    (.accepted done, b)
  | .peek offset => (.byte (b.peek? offset.toNat), b)
  | .readByte =>
    let (value, b) := b.readByte?
    (.byte value, b)
  | .readWord =>
    let (value, b) := b.readWord?
    (.word value, b)
  | .readBytes count =>
    let (value, b) := b.readBytes? count.toNat
    (.taken value, b)
  | .readRemaining =>
    let (value, b) := b.readRemaining
    (.bytes value, b)
  | .valid => (.bytes b.valid, b)

/-- Does one thing after the other, and collects the replies. -/
def run {τ : Type} (perform : Operation → τ → Reply × τ) :
    List Operation → τ → List Reply × τ
  | [], t => ([], t)
  | operation :: operations, t =>
    let (reply, t) := perform operation t
    let (replies, t) := run perform operations t
    (reply :: replies, t)

/-! ## The queue -/

/-- A bounded queue of bytes. -/
structure Queue where
  /-- The bytes that were taken. -/
  passed : List UInt8
  /-- The bytes that are there to take. -/
  unread : List UInt8
  /-- The bytes that are not valid. -/
  spare : List UInt8
  deriving DecidableEq, Repr

namespace Queue

/-- A queue of zeros, all of them spare. -/
def fresh (capacity : Nat) : Queue := ⟨[], [], List.replicate capacity 0⟩

/-- The valid bytes: those that were taken and those that are there to take. -/
def valid (q : Queue) : List UInt8 := q.passed ++ q.unread

/-- All bytes in their order. -/
def whole (q : Queue) : List UInt8 := q.valid ++ q.spare

/-- What stands at place `i` behind a store at an offset, where `old` stood before. -/
def cell (offset : Nat) (bytes : List UInt8) (i : Nat) (old : UInt8) : UInt8 :=
  if offset ≤ i then bytes.getD (i - offset) old else old

/-- A store into the part of a queue that begins at place `start`. -/
def storePart (offset : Nat) (bytes : List UInt8) (start : Nat) (part : List UInt8) : List UInt8 :=
  part.mapIdx fun i => cell offset bytes (start + i)

/-- A store at an offset. It reaches the valid bytes as it reaches the others. -/
def store (q : Queue) (offset : Nat) (bytes : List UInt8) : Queue where
  passed := storePart offset bytes 0 q.passed
  unread := storePart offset bytes q.passed.length q.unread
  spare := storePart offset bytes q.valid.length q.spare

/-- Takes bytes from the front of those that are there to take. -/
def pass (q : Queue) (count : Nat) : Queue :=
  ⟨q.passed ++ q.unread.take count, q.unread.drop count, q.spare⟩

/-- Whether there is room enough for an operation, or there are bytes enough. -/
def admits (q : Queue) : Operation → Bool
  | .fill offset count _ => offset.toNat + count.toNat ≤ q.whole.length
  | .reset length => length.toNat ≤ q.whole.length
  | .peek offset => offset.toNat < q.valid.length
  | .skip count | .readBytes count => count.toNat ≤ q.unread.length
  | .readByte => 1 ≤ q.unread.length
  | .readWord => 2 ≤ q.unread.length
  | .readRemaining | .valid => true

/-- What an operation gives that is not refused. -/
def reply (q : Queue) : Operation → Reply
  | .fill offset count _ => .bytes ((q.whole.drop offset.toNat).take count.toNat)
  | .reset _ | .skip _ => .accepted true
  | .peek offset => .byte q.valid[offset.toNat]?
  | .readByte => .byte q.unread[0]?
  | .readWord => .word (do return Word.ofBytes (← q.unread[0]?) (← q.unread[1]?))
  | .readBytes count => .taken (some (q.unread.take count.toNat))
  | .readRemaining => .bytes q.unread
  | .valid => .bytes q.valid

/-- The queue behind an operation that is not refused. -/
def after (q : Queue) : Operation → Queue
  | .fill offset count bytes => q.store offset.toNat (bytes.take count.toNat)
  | .reset length => ⟨[], q.whole.take length.toNat, q.whole.drop length.toNat⟩
  | .skip count | .readBytes count => q.pass count.toNat
  | .readByte => q.pass 1
  | .readWord => q.pass 2
  | .readRemaining => q.pass q.unread.length
  | .peek _ | .valid => q

/-- Does something with a queue. -/
def perform (operation : Operation) (q : Queue) : Reply × Queue :=
  if q.admits operation then (q.reply operation, q.after operation) else (operation.refusal, q)

/-! A part of what a store leaves is what it leaves of the part. -/

theorem take_storePart (offset : Nat) (bytes : List UInt8) (start count : Nat)
    (part : List UInt8) : (storePart offset bytes start part).take count
      = storePart offset bytes start (part.take count) := by
  apply List.ext_getElem?
  intro i
  rw [storePart, storePart, List.getElem?_take, List.getElem?_mapIdx, List.getElem?_mapIdx,
    List.getElem?_take]
  split
  · rfl
  · rfl

theorem drop_storePart (offset : Nat) (bytes : List UInt8) (start count : Nat)
    (part : List UInt8) : (storePart offset bytes start part).drop count
      = storePart offset bytes (start + count) (part.drop count) := by
  apply List.ext_getElem?
  intro i
  rw [storePart, storePart, List.getElem?_drop, List.getElem?_mapIdx, List.getElem?_mapIdx,
    List.getElem?_drop, Nat.add_assoc]

end Queue

/-! ## The buffer as a queue -/

/-- The queue that a buffer is. -/
def queue (b : FrameBuffer) : Queue := ⟨b.data.take b.position, b.unread, b.data.drop b.size⟩

section Queue

variable {b : FrameBuffer}

theorem valid_queue (hb : b.WellFormed) : b.queue.valid = b.valid := by
  rw [Queue.valid, queue, unread, valid]
  conv => rhs; rw [← List.take_append_drop b.position (b.data.take b.size)]
  rw [List.take_take, Nat.min_eq_left hb.1]

theorem whole_queue (hb : b.WellFormed) : b.queue.whole = b.data := by
  rw [Queue.whole, valid_queue hb]
  exact List.take_append_drop b.size b.data

theorem length_passed (hb : b.WellFormed) : b.queue.passed.length = b.position :=
  List.length_take_of_le (Nat.le_trans hb.1 hb.2)

theorem length_valid (hb : b.WellFormed) : b.valid.length = b.size := List.length_take_of_le hb.2

theorem queue_ofCapacity (capacity : Nat) : (ofCapacity capacity).queue = .fresh capacity := rfl

theorem queue_advance {count : Nat} (h : count ≤ b.unread.length) :
    (b.advance count).queue = b.queue.pass count := by
  have htaken : b.data.take (b.position + count)
      = b.data.take b.position ++ b.unread.take count := by
    rw [List.take_add, unread_eq_take, List.take_take,
      Nat.min_eq_left (Nat.le_trans h b.length_unread_le)]
  rw [queue, Queue.pass, unread_advance]
  congr 1

theorem data_store (b : FrameBuffer) (offset : Nat) (bytes : List UInt8) :
    (b.store offset bytes).data = Queue.storePart offset bytes 0 b.data := by
  apply List.ext_getElem?
  intro i
  rw [Queue.storePart, List.getElem?_mapIdx, Nat.zero_add, store, List.getElem?_append,
    List.length_take]
  by_cases hbefore : i < offset
  · have hcell : Queue.cell offset bytes i = id := by
      funext old
      exact if_neg (Nat.not_le.mpr hbefore)
    rw [hcell, Option.map_id_apply]
    split
    · exact List.getElem?_take_of_lt hbefore
    · rw [getElem?_overlay, List.getElem?_drop, List.getElem?_eq_none (by omega),
        List.getElem?_eq_none (by omega)]
      rfl
  · have hcell : Queue.cell offset bytes i = bytes.getD (i - offset) := by
      funext old
      exact if_pos (Nat.not_lt.mp hbefore)
    rw [if_neg (by omega), getElem?_overlay, List.getElem?_drop, hcell]
    by_cases hoffset : offset ≤ b.data.length
    · rw [Nat.min_eq_left hoffset, Nat.add_sub_cancel' (by omega)]
    · rw [List.getElem?_eq_none (by omega), List.getElem?_eq_none (by omega)]
      rfl

theorem queue_store (hb : b.WellFormed) (offset : Nat) (bytes : List UInt8) :
    (b.store offset bytes).queue = b.queue.store offset bytes := by
  rw [queue, Queue.store, length_passed hb, valid_queue hb, length_valid hb, unread, data_store,
    Queue.take_storePart, Queue.take_storePart, Queue.drop_storePart, Queue.drop_storePart,
    Nat.zero_add, Nat.zero_add]
  rfl

end Queue

/-! ## One operation -/

/-- The buffer behind an operation that is not refused. -/
def after (b : FrameBuffer) : Operation → FrameBuffer
  | .fill offset count bytes => b.store offset.toNat (bytes.take count.toNat)
  | .reset length => { b with size := length.toNat, position := 0 }
  | .skip count | .readBytes count => b.advance count.toNat
  | .readByte => b.advance 1
  | .readWord => b.advance 2
  | .readRemaining => b.advance b.unread.length
  | .peek _ | .valid => b

/-- The first two of some bytes. -/
theorem exists_two {bytes : List UInt8} (h : 2 ≤ bytes.length) :
    ∃ high low rest, bytes = high :: low :: rest := by
  obtain ⟨high, behind, rfl⟩ := List.exists_cons_of_length_pos (Nat.lt_of_succ_lt h)
  obtain ⟨low, rest, rfl⟩ := List.exists_cons_of_length_pos (Nat.le_of_succ_le_succ h)
  exact ⟨high, low, rest, rfl⟩

section Perform

variable {b : FrameBuffer} {operation : Operation}

theorem admits_fill_iff (hb : b.WellFormed) {offset count : UInt64} {bytes : List UInt8} :
    b.queue.admits (.fill offset count bytes) = true
      ↔ offset.toNat + count.toNat ≤ b.capacity := by
  rw [Queue.admits, whole_queue hb, decide_eq_true_eq, capacity]

theorem admits_reset_iff (hb : b.WellFormed) {length : UInt64} :
    b.queue.admits (.reset length) = true ↔ length.toNat ≤ b.capacity := by
  rw [Queue.admits, whole_queue hb, decide_eq_true_eq, capacity]

/-- **What is not refused is done as on the queue.** -/
theorem perform_of_admits (hb : b.WellFormed) (h : b.queue.admits operation = true) :
    perform operation b = (b.queue.reply operation, b.after operation) := by
  cases operation with
  | fill offset count bytes =>
    have hfits := (admits_fill_iff hb).mp h
    rw [perform, write, length_region_of_fits hfits, Queue.reply, whole_queue hb, region,
      if_pos (fits_iff.mpr hfits), after]
  | reset length =>
    rw [perform, reset, if_neg (Nat.not_lt.mpr ((admits_reset_iff hb).mp h))]
    rfl
  | skip count =>
    rw [perform, skip_of_le (of_decide_eq_true h)]
    rfl
  | peek offset =>
    rw [perform, peek?_eq, Queue.reply, valid_queue hb]
    rfl
  | readByte =>
    have hsome : 1 ≤ b.unread.length := of_decide_eq_true h
    obtain ⟨byte, rest, hunread⟩ := List.exists_cons_of_length_pos hsome
    rw [perform, readByte?_of_unread hunread, Queue.reply, queue, hunread]
    rfl
  | readWord =>
    have htwo : 2 ≤ b.unread.length := of_decide_eq_true h
    obtain ⟨high, low, rest, hunread⟩ := exists_two htwo
    rw [perform, readWord?_of_unread hunread, Queue.reply, queue, hunread]
    rfl
  | readBytes count =>
    rw [perform, readBytes?_of_le (of_decide_eq_true h)]
    rfl
  | readRemaining =>
    rw [perform, readRemaining_eq hb]
    rfl
  | valid =>
    rw [perform, Queue.reply, valid_queue hb]
    rfl

/-- **What is refused changes nothing.** -/
theorem perform_of_refused (hb : b.WellFormed) (h : b.queue.admits operation = false) :
    perform operation b = (operation.refusal, b) := by
  cases operation with
  | fill offset count bytes =>
    have hbeyond : b.capacity < offset.toNat + count.toNat := by
      rw [← Bool.not_eq_true, admits_fill_iff hb] at h
      exact Nat.not_le.mp h
    rw [perform, write, region_of_not_fits hbeyond, List.length_nil, List.take_zero, store,
      overlay_nil, List.take_append_drop]
    rfl
  | reset length =>
    have hbeyond : b.capacity < length.toNat := by
      rw [← Bool.not_eq_true, admits_reset_iff hb] at h
      exact Nat.not_le.mp h
    rw [perform, reset, if_pos hbeyond]
    rfl
  | skip count =>
    rw [perform, skip_eq_refused hb (Nat.not_le.mp (of_decide_eq_false h))]
    rfl
  | peek offset =>
    have hbeyond : b.valid.length ≤ offset.toNat := by
      rw [Queue.admits, valid_queue hb, decide_eq_false_iff_not] at h
      exact Nat.not_lt.mp h
    rw [perform, peek?_eq, List.getElem?_eq_none hbeyond]
    rfl
  | readByte =>
    have hnone : b.unread.length < 1 := Nat.not_le.mp (of_decide_eq_false h)
    rw [perform, readByte?_eq_none hb (List.length_eq_zero_iff.mp (Nat.lt_one_iff.mp hnone))]
    rfl
  | readWord =>
    rw [perform, readWord?_eq_none hb (Nat.not_le.mp (of_decide_eq_false h))]
    rfl
  | readBytes count =>
    rw [perform, readBytes?_eq_none hb (Nat.not_le.mp (of_decide_eq_false h))]
    rfl
  | readRemaining => cases h
  | valid => cases h

theorem queue_after (hb : b.WellFormed) (h : b.queue.admits operation = true) :
    (b.after operation).queue = b.queue.after operation := by
  cases operation with
  | fill offset count bytes => exact queue_store hb _ _
  | reset length =>
    rw [Queue.after, whole_queue hb]
    rfl
  | skip _ | readBytes _ | readByte | readWord => exact queue_advance (of_decide_eq_true h)
  | readRemaining => exact queue_advance (Nat.le_refl _)
  | peek _ | valid => rfl

theorem wellFormed_after (hb : b.WellFormed) (h : b.queue.admits operation = true) :
    (b.after operation).WellFormed := by
  have hmoved : ∀ count ≤ b.unread.length, (b.advance count).WellFormed :=
    fun count hcount => hb.advance (Nat.le_trans hcount b.length_unread_le)
  cases operation with
  | fill offset count bytes => exact hb.store _ _
  | reset length => exact ⟨Nat.zero_le _, (admits_reset_iff hb).mp h⟩
  | skip _ | readBytes _ | readByte | readWord => exact hmoved _ (of_decide_eq_true h)
  | readRemaining => exact hmoved _ (Nat.le_refl _)
  | peek _ | valid => exact hb

theorem capacity_after (b : FrameBuffer) (operation : Operation) :
    (b.after operation).capacity = b.capacity := by
  cases operation with
  | fill offset count bytes => exact b.capacity_store _ _
  | _ => rfl

end Perform

/-! ## Counting with words -/

/-- The numbers of a buffer, as words. -/
structure Counters where
  capacity : UInt64
  size : UInt64
  position : UInt64
  deriving DecidableEq, Repr

namespace Counters

def fresh (capacity : UInt64) : Counters := ⟨capacity, 0, 0⟩

/-- The number of valid bytes from the cursor on. -/
def remaining (k : Counters) : UInt64 := k.size - k.position

/-- Whether an operation is not refused. -/
def admits (k : Counters) : Operation → Bool
  | .fill offset count _ => !(k.capacity < offset || k.capacity - offset < count)
  | .reset length => !(k.capacity < length)
  | .peek offset => offset < k.size
  | .skip count | .readBytes count => !(k.remaining < count)
  | .readByte => !(k.remaining < 1)
  | .readWord => !(k.remaining < 2)
  | .readRemaining | .valid => true

/-- The numbers behind an operation that is not refused. -/
def after (k : Counters) : Operation → Counters
  | .reset length => { k with size := length, position := 0 }
  | .skip count | .readBytes count => { k with position := k.position + count }
  | .readByte => { k with position := k.position + 1 }
  | .readWord => { k with position := k.position + 2 }
  | .readRemaining => { k with position := k.size }
  | .fill _ _ _ | .peek _ | .valid => k

/-- The numbers behind an operation. -/
def step (k : Counters) (operation : Operation) : Counters :=
  if k.admits operation then k.after operation else k

/-- Whether the numbers are those of a buffer. -/
structure Count (k : Counters) (b : FrameBuffer) : Prop where
  capacity : k.capacity.toNat = b.capacity
  size : k.size.toNat = b.size
  position : k.position.toNat = b.position

variable {k : Counters} {b : FrameBuffer}

/-- **The difference does not wrap around.** -/
theorem Count.remaining (hk : k.Count b) (hb : b.WellFormed) :
    k.remaining.toNat = b.unread.length := by
  have hle : k.position ≤ k.size := by
    rw [UInt64.le_iff_toNat_le, hk.position, hk.size]
    exact hb.1
  rw [Counters.remaining, UInt64.toNat_sub_of_le _ _ hle, hk.position, hk.size, length_unread hb,
    FrameBuffer.remaining]

/-- **Words are compared as the numbers are,** whatever words an operation has. -/
theorem Count.admits (hk : k.Count b) (hb : b.WellFormed) (operation : Operation) :
    k.admits operation = b.queue.admits operation := by
  have hremaining := hk.remaining hb
  have hcapacity : k.capacity.toNat = b.queue.whole.length := by
    rw [hk.capacity, whole_queue hb, FrameBuffer.capacity]
  have hsize : k.size.toNat = b.queue.valid.length := by
    rw [hk.size, valid_queue hb, length_valid hb]
  have hunread : b.queue.unread = b.unread := rfl
  rw [Bool.eq_iff_iff]
  cases operation with
  | fill offset count bytes =>
    simp only [Counters.admits, Queue.admits, Bool.not_eq_true', Bool.or_eq_false_iff,
      decide_eq_false_iff_not, decide_eq_true_eq, UInt64.lt_iff_toNat_lt, ← hcapacity, Nat.not_lt]
    constructor
    · rintro ⟨hoffset, hcount⟩
      rw [UInt64.toNat_sub_of_le _ _ (UInt64.le_iff_toNat_le.mpr hoffset)] at hcount
      omega
    · intro hsum
      have hoffset : offset.toNat ≤ k.capacity.toNat := by omega
      rw [UInt64.toNat_sub_of_le _ _ (UInt64.le_iff_toNat_le.mpr hoffset)]
      omega
  | reset length =>
    simp only [Counters.admits, Queue.admits, Bool.not_eq_true', decide_eq_false_iff_not,
      decide_eq_true_eq, UInt64.lt_iff_toNat_lt, hcapacity, Nat.not_lt]
  | peek offset =>
    simp only [Counters.admits, Queue.admits, decide_eq_true_eq, UInt64.lt_iff_toNat_lt, hsize]
  | skip count | readBytes count =>
    simp only [Counters.admits, Queue.admits, Bool.not_eq_true', decide_eq_false_iff_not,
      decide_eq_true_eq, UInt64.lt_iff_toNat_lt, hremaining, hunread, Nat.not_lt]
  | readByte | readWord =>
    simp only [Counters.admits, Queue.admits, Bool.not_eq_true', decide_eq_false_iff_not,
      decide_eq_true_eq, UInt64.lt_iff_toNat_lt, hremaining, hunread, Nat.not_lt]
    rfl
  | readRemaining => rfl
  | valid => rfl

/-- **A sum does not wrap around.** -/
theorem Count.advance (hk : k.Count b) (hb : b.WellFormed) {count : UInt64}
    (h : count.toNat ≤ b.unread.length) :
    ({ k with position := k.position + count } : Counters).Count (b.advance count.toNat) := by
  refine ⟨hk.capacity, hk.size, ?_⟩
  have hsize := k.size.toNat_lt
  rw [length_unread hb, FrameBuffer.remaining] at h
  have hposition := hb.1
  rw [UInt64.toNat_add, hk.position, Nat.mod_eq_of_lt (by rw [hk.size] at hsize; omega)]
  rfl

theorem Count.after (hk : k.Count b) (hb : b.WellFormed) {operation : Operation}
    (h : b.queue.admits operation = true) : (k.after operation).Count (b.after operation) := by
  cases operation with
  | fill offset count bytes =>
    exact ⟨hk.capacity.trans (b.capacity_store _ _).symm, hk.size, hk.position⟩
  | reset length => exact ⟨hk.capacity, rfl, rfl⟩
  | skip _ | readBytes _ => exact hk.advance hb (of_decide_eq_true h)
  | readByte =>
    have hone : (1 : UInt64).toNat ≤ b.unread.length := of_decide_eq_true h
    exact hk.advance hb hone
  | readWord =>
    have htwo : (2 : UInt64).toNat ≤ b.unread.length := of_decide_eq_true h
    exact hk.advance hb htwo
  | readRemaining =>
    refine ⟨hk.capacity, hk.size, ?_⟩
    rw [FrameBuffer.after, length_unread hb]
    exact hk.size.trans (Nat.add_sub_cancel' hb.1).symm
  | peek _ | valid => exact hk

end Counters

/-! ## Bytes one by one -/

/-- Takes bytes one by one. -/
def readEach? : Nat → FrameBuffer → Option (List UInt8) × FrameBuffer
  | 0, b => (some [], b)
  | count + 1, b =>
    match b.readByte? with
    | (none, b) => (none, b)
    | (some byte, b) =>
      let (bytes, b) := readEach? count b
      (bytes.map (byte :: ·), b)

theorem readEach?_of_le {b : FrameBuffer} {count : Nat} (h : count ≤ b.unread.length) :
    readEach? count b = (some (b.unread.take count), b.advance count) := by
  induction count generalizing b with
  | zero => rfl
  | succ count ih =>
    obtain ⟨byte, rest, hunread⟩ :=
      List.exists_cons_of_length_pos (Nat.lt_of_lt_of_le (Nat.succ_pos count) h)
    have hrest : (b.advance 1).unread = rest := by
      rw [unread_advance, hunread]
      rfl
    rw [hunread] at h
    rw [readEach?, readByte?_of_unread hunread]
    simp only
    rw [ih (by rw [hrest]; exact Nat.le_of_succ_le_succ h), hrest, hunread, advance_advance,
      Nat.add_comm 1 count]
    rfl

/-- How the readers take bytes from the front of those that are there, and a look at a byte takes
none. -/
structure TakesFromFront (b : FrameBuffer) : Prop where
  /-- A word is two bytes, the high one first. -/
  readWord : 2 ≤ b.unread.length → ∃ high low b₁ b₂, b.readByte? = (some high, b₁)
    ∧ b₁.readByte? = (some low, b₂) ∧ b.readWord? = (some (Word.ofBytes high low), b₂)
  /-- Many bytes are as many times one byte. -/
  readBytes : ∀ count ≤ b.unread.length, ∃ bytes b', readEach? count b = (some bytes, b')
    ∧ b.readBytes? count = (some bytes, b')
  /-- Bytes that are passed over are taken. -/
  skip : ∀ count ≤ b.unread.length, b.skip count = (true, (b.readBytes? count).2)
    ∧ (b.skip count).2.unread = b.unread.drop count
  readRemaining : b.readBytes? b.remaining = (some b.readRemaining.1, b.readRemaining.2)
  /-- The cursor plays no part in a look at a valid byte. -/
  peek : ∀ offset position, ({ b with position } : FrameBuffer).peek? offset = b.valid[offset]?

theorem WellFormed.takesFromFront {b : FrameBuffer} (hb : b.WellFormed) : b.TakesFromFront where
  readWord := by
    intro htwo
    obtain ⟨high, low, rest, hunread⟩ := exists_two htwo
    have hrest : (b.advance 1).unread = low :: rest := by
      rw [unread_advance, hunread]
      rfl
    refine ⟨high, low, _, _, readByte?_of_unread hunread, readByte?_of_unread hrest, ?_⟩
    rw [advance_advance]
    exact readWord?_of_unread hunread
  readBytes := by
    intro count hcount
    exact ⟨_, _, readEach?_of_le hcount, readBytes?_of_le hcount⟩
  skip := by
    intro count hcount
    rw [skip_of_le hcount, readBytes?_of_le hcount]
    exact ⟨rfl, b.unread_advance count⟩
  readRemaining := by
    rw [← length_unread hb, readBytes?_of_le (Nat.le_refl _), readRemaining_eq hb,
      List.take_length]
  peek := by
    intro offset position
    exact peek?_eq _ offset

/-! ## Runs -/

section Runs

variable {k : Counters} {b : FrameBuffer}

/-- **One operation.** -/
theorem step_refines (hb : b.WellFormed) (hk : k.Count b) (operation : Operation) :
    Queue.perform operation b.queue
        = ((perform operation b).1, (perform operation b).2.queue)
      ∧ (perform operation b).2.WellFormed
      ∧ (perform operation b).2.capacity = b.capacity
      ∧ (k.step operation).Count (perform operation b).2 := by
  rw [Queue.perform, Counters.step, hk.admits hb]
  rcases hadmits : b.queue.admits operation with _ | _
  · rw [perform_of_refused hb hadmits]
    exact ⟨rfl, hb, rfl, hk⟩
  · rw [perform_of_admits hb hadmits, ← queue_after hb hadmits]
    exact ⟨rfl, wellFormed_after hb hadmits, b.capacity_after operation, hk.after hb hadmits⟩

/-- **Any number of operations,** by induction on them. -/
theorem run_refines (operations : List Operation) (hb : b.WellFormed) (hk : k.Count b) :
    run Queue.perform operations b.queue
        = ((run perform operations b).1, (run perform operations b).2.queue)
      ∧ (run perform operations b).2.WellFormed
      ∧ (run perform operations b).2.capacity = b.capacity
      ∧ (operations.foldl Counters.step k).Count (run perform operations b).2 := by
  induction operations generalizing b k with
  | nil => exact ⟨rfl, hb, rfl, hk⟩
  | cons operation operations ih =>
    obtain ⟨hqueue, hformed, hcapacity, hcount⟩ := step_refines hb hk operation
    obtain ⟨hqueues, hformed', hcapacity', hcount'⟩ := ih hformed hcount
    refine ⟨?_, hformed', hcapacity'.trans hcapacity, hcount'⟩
    rw [run, run, hqueue]
    simp only
    rw [hqueues]

end Runs

/-! ## The main statement -/

/-- **A receive buffer is a bounded queue of bytes.** Take a buffer of any capacity, do anything
with it, with words of any size for offsets and numbers, and store what you like in the regions that
it gives out. It replies what the queue replies, and is the queue that comes of this.

The cursor never stands behind the valid bytes, nor these behind the capacity, and the capacity
never changes. So the program's words are the numbers that they are meant to be, the number of bytes
that are left never wraps around, and an operation is refused just when it is on the queue; one that
is refused changes nothing. A region is given out in full if offset and number together do not
exceed the capacity, as exact numbers, and else it is empty; neither the size nor the cursor moves.
A reset succeeds exactly up to the capacity. And the readers take from the front: a word as two
bytes, many bytes one by one. -/
theorem refines_queue (capacity : UInt64) (operations : List Operation) :
    let b := (run perform operations (ofCapacity capacity.toNat)).2
    let k := operations.foldl Counters.step (.fresh capacity)
    run Queue.perform operations (.fresh capacity.toNat)
        = ((run perform operations (ofCapacity capacity.toNat)).1, b.queue)
      ∧ (b.position ≤ b.size ∧ b.size ≤ b.capacity ∧ b.capacity = capacity.toNat)
      ∧ (k.Count b ∧ k.remaining.toNat = b.unread.length
        ∧ ∀ operation, k.admits operation = b.queue.admits operation)
      ∧ (∀ operation, b.queue.admits operation = false →
        perform operation b = (operation.refusal, b))
      ∧ (∀ offset count : UInt64,
        (offset.toNat + count.toNat ≤ capacity.toNat →
          (b.region offset.toNat count.toNat).length = count.toNat)
        ∧ (capacity.toNat < offset.toNat + count.toNat →
          b.region offset.toNat count.toNat = [])
        ∧ ∀ bytes, ((perform (.fill offset count bytes) b).2.size = b.size
          ∧ (perform (.fill offset count bytes) b).2.position = b.position))
      ∧ (∀ length : UInt64, (b.reset length.toNat).1 = true ↔ length ≤ capacity)
      ∧ b.TakesFromFront := by
  intro b k
  have hfresh : (Counters.fresh capacity).Count (ofCapacity capacity.toNat) :=
    ⟨(capacity_ofCapacity _).symm, rfl, rfl⟩
  obtain ⟨hqueue, hb, hsame, hk⟩ :=
    run_refines operations (wellFormed_ofCapacity capacity.toNat) hfresh
  have hcapacity : b.capacity = capacity.toNat := hsame.trans (capacity_ofCapacity _)
  refine ⟨hqueue, ⟨hb.1, hb.2, hcapacity⟩, ⟨hk, hk.remaining hb, hk.admits hb⟩, ?_, ?_, ?_,
    hb.takesFromFront⟩
  · intro operation hrefused
    exact perform_of_refused hb hrefused
  · intro offset count
    refine ⟨?_, ?_, fun bytes => ⟨rfl, rfl⟩⟩
    · intro hfits
      exact length_region_of_fits (by rw [hcapacity]; exact hfits)
    · intro hbeyond
      exact region_of_not_fits (by rw [hcapacity]; exact hbeyond)
  · intro length
    rw [reset_fst, decide_eq_true_eq, hcapacity, UInt64.le_iff_toNat_le]

/-- A store reaches bytes that were declared valid before it. A word is not taken where one byte is
left or none, and an offset at the end of all words leads to no region. -/
example :
    (run perform
      [.fill 0 4 [1, 2, 3, 4], .reset 3, .readByte, .fill 1 2 [8, 9, 10], .readWord, .readWord,
        .fill 18446744073709551615 2 [7]]
      (ofCapacity 4)).1
    = [.bytes [0, 0, 0, 0], .accepted true, .byte (some 1), .bytes [2, 3], .word (some 0x0809),
        .word none, .bytes []] := by
  decide

end ModbusTcp.FrameBuffer
