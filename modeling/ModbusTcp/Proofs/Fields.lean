import ModbusTcp.Word

/-!
Fields of a run of bytes, each named by its offset.

The decoders walk through a payload with a cursor. What they must find there is said without one:
`byteAt` and `wordAt` give the field at an offset, and `wordsOf` gives all the words of a run.
`wordsOf_eq_map_wordAt` ties the two views of a list of registers together.
-/

set_option autoImplicit false

namespace ModbusTcp

/-- The byte at an offset; zero beyond the end. -/
def byteAt (bytes : List UInt8) (offset : Nat) : UInt8 := bytes.getD offset 0

/-- The word at an offset, its high byte first. -/
def wordAt (bytes : List UInt8) (offset : Nat) : UInt16 :=
  Word.ofBytes (byteAt bytes offset) (byteAt bytes (offset + 1))

/-- The words that a run of bytes spells. A single byte left over at the end spells none. -/
def wordsOf : List UInt8 → List UInt16
  | [] => []
  | [_] => []
  | high :: low :: rest => Word.ofBytes high low :: wordsOf rest

/-! ## Single fields -/

@[simp] theorem byteAt_cons_zero (byte : UInt8) (bytes : List UInt8) :
    byteAt (byte :: bytes) 0 = byte := rfl

@[simp] theorem byteAt_cons_succ (byte : UInt8) (bytes : List UInt8) (offset : Nat) :
    byteAt (byte :: bytes) (offset + 1) = byteAt bytes offset := rfl

theorem byteAt_drop (bytes : List UInt8) (start offset : Nat) :
    byteAt (bytes.drop start) offset = byteAt bytes (start + offset) := by
  simp only [byteAt, List.getD_eq_getElem?_getD, List.getElem?_drop]

theorem wordAt_drop (bytes : List UInt8) (start offset : Nat) :
    wordAt (bytes.drop start) offset = wordAt bytes (start + offset) := by
  simp only [wordAt, byteAt_drop, Nat.add_assoc]

theorem byteAt_take {offset count : Nat} (h : offset < count) (bytes : List UInt8) :
    byteAt (bytes.take count) offset = byteAt bytes offset := by
  rw [byteAt, byteAt, List.getD_eq_getElem?_getD, List.getD_eq_getElem?_getD,
    List.getElem?_take_of_lt h]

theorem wordAt_take {offset count : Nat} (h : offset + 1 < count) (bytes : List UInt8) :
    wordAt (bytes.take count) offset = wordAt bytes offset := by
  rw [wordAt, wordAt, byteAt_take (by omega), byteAt_take h]

/-- A word that was read is written as the two bytes it was read from. -/
theorem toBytes_wordAt (bytes : List UInt8) (offset : Nat) :
    Word.toBytes (wordAt bytes offset) = [byteAt bytes offset, byteAt bytes (offset + 1)] := by
  simp only [Word.toBytes, wordAt, Word.high_ofBytes, Word.low_ofBytes]

/-! ## Runs of words -/

theorem length_flatMap_toBytes (values : List UInt16) :
    (values.flatMap Word.toBytes).length = 2 * values.length := by
  induction values with
  | nil => rfl
  | cons value values ih =>
    rw [List.flatMap_cons, List.length_append, Word.length_toBytes, ih, List.length_cons]
    omega

/-- Words written one after the other are read back. -/
theorem wordsOf_flatMap_toBytes (values : List UInt16) :
    wordsOf (values.flatMap Word.toBytes) = values := by
  induction values with
  | nil => rfl
  | cons value values ih =>
    rw [List.flatMap_cons, Word.toBytes, List.cons_append, List.cons_append, List.nil_append,
      wordsOf, Word.ofBytes_high_low, ih]

/-- Words that were read are written as the bytes they were read from, unless one was left over. -/
theorem flatMap_toBytes_wordsOf {bytes : List UInt8} (h : bytes.length % 2 = 0) :
    (wordsOf bytes).flatMap Word.toBytes = bytes := by
  fun_induction wordsOf bytes with
  | case1 => rfl
  | case2 byte => simp at h
  | case3 high low rest ih =>
    simp only [List.length_cons] at h
    rw [List.flatMap_cons, ih (by omega), Word.toBytes, Word.high_ofBytes, Word.low_ofBytes]
    rfl

/-- The words of a run are those at its even offsets. -/
theorem wordsOf_eq_map_wordAt (bytes : List UInt8) :
    wordsOf bytes = (List.range (bytes.length / 2)).map fun i => wordAt bytes (2 * i) := by
  fun_induction wordsOf bytes with
  | case1 => rfl
  | case2 byte => simp
  | case3 high low rest ih =>
    have hlength : (high :: low :: rest).length / 2 = rest.length / 2 + 1 := by
      rw [List.length_cons, List.length_cons]
      omega
    -- Two bytes further on, every offset of the rest has grown by two.
    rw [hlength, List.range_succ_eq_map, List.map_cons, List.map_map, ih]
    rfl

end ModbusTcp
