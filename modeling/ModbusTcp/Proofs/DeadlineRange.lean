import Mathlib.Logic.Basic
import ModbusTcp.Deadline

/-!
Where the arithmetic on deadlines is exact.

A deadline (`StartDeadline`) is a count of nanoseconds in a signed 64-bit word, computed from a
timeout in milliseconds and a reading of the clock. `Instant.due` is the number that is meant, and
`Instant.toInt_after` the one that comes out: product and sum wrap around. Up to the last nanosecond
that the clock can count (`Instant.latest`) the two are the same, so a deadline lies behind the
start of its operation, and a longer timeout does not set an earlier one. For every clock within its
first half, that covers timeouts of up to 146 years (`Instant.due_le_latest`).

Nothing keeps a timeout below that. One that is longer sets a deadline that comes too early, and the
first ones beyond the range set one that had passed before the operation began. The main statement
is `Deadline.exact_in_range`, and `Deadline.starting_before_start` shows the longest timeout of all.
-/

set_option autoImplicit false

namespace ModbusTcp

/-- Nanoseconds in a millisecond. -/
def millisecond : Int := 1000000

theorem Deadline.toInt_million : (1000000 : Int64).toInt = 1000000 := rfl

theorem Deadline.toInt_pos {timeout : Int64} (h : ¬ timeout ≤ 0) : 0 < timeout.toInt := by
  rw [Int64.le_iff_toInt_le] at h
  exact Int.not_le.mp h

theorem Deadline.starting_of_pos {timeout : Int64} (h : 0 < timeout) (start : Instant) :
    Deadline.starting timeout start = some (start.after timeout) :=
  if_neg (Int64.not_le.mpr h)

namespace Instant

/-- The last nanosecond that the clock can count. -/
def latest : Int := 9223372036854775807

/-- The nanosecond that lies a number of milliseconds behind an instant, as an exact number. -/
def due (start : Instant) (timeout : Int64) : Int :=
  start.nanoseconds.toInt + timeout.toInt * millisecond

variable {start : Instant} {timeout : Int64}

/-- **What comes out is what is meant, up to wrapping around.** -/
theorem toInt_after (start : Instant) (timeout : Int64) :
    (start.after timeout).nanoseconds.toInt = (start.due timeout).bmod UInt64.size := by
  rw [after, nanosecondsOf, Int64.toInt_add, Int64.toInt_mul, Deadline.toInt_million,
    Int.add_bmod_bmod, due, millisecond, UInt64.size]

/-- A number that is not beyond the range comes out as it is; a timeout that is positive cannot take
it below. -/
theorem toInt_after_of_le (hpositive : 0 < timeout.toInt) (h : start.due timeout ≤ latest) :
    (start.after timeout).nanoseconds.toInt = start.due timeout := by
  have hstart := start.nanoseconds.le_toInt
  rw [toInt_after, UInt64.size]
  rw [due, millisecond, latest] at *
  apply Int.bmod_eq_of_le <;> omega

/-- No instant is as late as one beyond the range would have to be. -/
theorem toInt_after_lt_due (h : latest < start.due timeout) :
    (start.after timeout).nanoseconds.toInt < start.due timeout := by
  have hlast := (start.after timeout).nanoseconds.toInt_lt
  rw [latest] at h
  omega

/-- Where the timeout itself counts fewer nanoseconds than a word has values, the sum wraps around
once, and ends before it began. -/
theorem toInt_after_lt_start (h : latest < start.due timeout)
    (honce : timeout.toInt * millisecond < UInt64.size) :
    (start.after timeout).nanoseconds.toInt < start.nanoseconds.toInt := by
  have hstart := start.nanoseconds.toInt_lt
  have hwrapped : (start.after timeout).nanoseconds.toInt = start.due timeout - UInt64.size := by
    have hsplit : start.due timeout = start.due timeout - UInt64.size + UInt64.size * 1 := by omega
    rw [toInt_after, hsplit, Int.add_mul_bmod_self_left, ← hsplit]
    rw [due, latest, UInt64.size] at *
    apply Int.bmod_eq_of_le <;> omega
  rw [hwrapped, due]
  omega

/-- A clock in its first half leaves room for timeouts of 146 years. -/
theorem due_le_latest (hstart : start.nanoseconds.toInt ≤ 4611686018427387904)
    (hshort : timeout.toInt ≤ 4611686018427) : start.due timeout ≤ latest := by
  rw [due, millisecond, latest]
  omega

/-- The nanoseconds of a timeout alone do not leave the range if the sum does not. -/
theorem toInt_nanosecondsOf (hpositive : 0 < timeout.toInt) (hstart : 0 ≤ start.nanoseconds.toInt)
    (h : start.due timeout ≤ latest) :
    (nanosecondsOf timeout).toInt = timeout.toInt * millisecond := by
  rw [due, latest] at h
  rw [nanosecondsOf, Int64.toInt_mul, Deadline.toInt_million]
  rw [millisecond] at *
  apply Int.bmod_eq_of_le <;> omega

end Instant

namespace Deadline

open Instant

/-- **Where deadlines are exact.** Take any positive timeout, and a start in the first half of the
clock's range. There is a deadline. It is the number that is meant exactly if that is one the clock
can count, as it is for every timeout of up to 4611686018427 ms; then the nanoseconds of the timeout
are exact too, the deadline lies behind the start, and no shorter timeout sets a later one. If the
number that is meant is beyond the clock, the deadline comes before it; and it comes before the
start unless the timeout alone counts more nanoseconds than a word has values. -/
theorem exact_in_range {timeout : Int64} (hpositive : 0 < timeout) {start : Instant}
    (hstart : 0 ≤ start.nanoseconds.toInt)
    (hlate : start.nanoseconds.toInt ≤ 4611686018427387904) :
    ∃ t, starting timeout start = some t
      ∧ (t.nanoseconds.toInt = start.due timeout ↔ start.due timeout ≤ latest)
      ∧ (timeout.toInt ≤ 4611686018427 → start.due timeout ≤ latest)
      ∧ (start.due timeout ≤ latest →
        (nanosecondsOf timeout).toInt = timeout.toInt * millisecond
        ∧ start.nanoseconds.toInt < t.nanoseconds.toInt
        ∧ ∀ shorter, 0 < shorter → shorter ≤ timeout → ∃ t', starting shorter start = some t'
          ∧ t'.nanoseconds.toInt ≤ t.nanoseconds.toInt)
      ∧ (latest < start.due timeout →
        t.nanoseconds.toInt < start.due timeout
        ∧ (timeout.toInt * millisecond < UInt64.size →
          t.nanoseconds.toInt < start.nanoseconds.toInt)) := by
  have hcount : 0 < timeout.toInt := Int64.lt_iff_toInt_lt.mp hpositive
  refine ⟨start.after timeout, starting_of_pos hpositive start, ?_, due_le_latest hlate, ?_, ?_⟩
  · constructor
    · intro hexact
      apply Decidable.byContradiction
      intro hbeyond
      have hearly := toInt_after_lt_due (Int.not_le.mp hbeyond)
      omega
    · exact toInt_after_of_le hcount
  · intro hrange
    refine ⟨toInt_nanosecondsOf hcount hstart hrange, ?_, ?_⟩
    · rw [toInt_after_of_le hcount hrange, due, millisecond]
      omega
    · intro shorter hsome hle
      have hcount' : 0 < shorter.toInt := Int64.lt_iff_toInt_lt.mp hsome
      have hfewer : shorter.toInt ≤ timeout.toInt := Int64.le_iff_toInt_le.mp hle
      -- What is meant by the shorter timeout is no later, so it is within the range as well.
      have hearlier : start.due shorter ≤ start.due timeout := by
        rw [due, due, millisecond]
        omega
      refine ⟨start.after shorter, starting_of_pos hsome start, ?_⟩
      rw [toInt_after_of_le hcount hrange,
        toInt_after_of_le hcount' (Int.le_trans hearlier hrange)]
      exact hearlier
  · intro hbeyond
    exact ⟨toInt_after_lt_due hbeyond, toInt_after_lt_start hbeyond⟩

/-- The longest timeout that a text can give, from the latest start: the deadline is exact. The
first timeout with which that start goes beyond the clock: the deadline has passed. -/
theorem exact_in_range_half :
    let start : Instant := ⟨4611686018427387904⟩
    (0 < (4294967295 : Int64) ∧ 0 ≤ start.nanoseconds.toInt
      ∧ start.nanoseconds.toInt ≤ 4611686018427387904)
    ∧ (∃ t, starting 4294967295 start = some t
      ∧ t.nanoseconds.toInt = 4611686018427387904 + 4294967295000000)
    ∧ 0 < (4611686018428 : Int64)
    ∧ ∃ t, starting 4611686018428 start = some t
      ∧ t.nanoseconds.toInt < 4611686018427387904 := by
  intro start
  have hstart : 0 ≤ start.nanoseconds.toInt := by decide
  have hlate : start.nanoseconds.toInt ≤ 4611686018427387904 := by decide
  refine ⟨⟨by decide, hstart, hlate⟩, ?_, by decide, ?_⟩
  · obtain ⟨t, ht, hexact, hshort, -, -⟩ :=
      exact_in_range (show 0 < (4294967295 : Int64) by decide) hstart hlate
    exact ⟨t, ht, hexact.mpr (hshort (by decide))⟩
  · obtain ⟨t, ht, -, -, -, hbeyond⟩ :=
      exact_in_range (show 0 < (4611686018428 : Int64) by decide) hstart hlate
    exact ⟨t, ht, (hbeyond (by decide)).2 (by decide)⟩

/-- **The longest timeout of all sets a deadline that has passed,** one millisecond before the
origin of the clock, though the clock had just begun; and a timeout of one millisecond sets a later
one. -/
theorem starting_before_start :
    0 < (9223372036854775807 : Int64)
    ∧ starting 9223372036854775807 ⟨0⟩ = some ⟨-1000000⟩
    ∧ starting 1 ⟨0⟩ = some ⟨1000000⟩
    ∧ ¬ ∀ (timeout : Int64) (start : Instant), 0 < timeout → 0 ≤ start.nanoseconds.toInt →
      start.nanoseconds.toInt ≤ 4611686018427387904 →
      ∃ t, starting timeout start = some t ∧ start.nanoseconds.toInt ≤ t.nanoseconds.toInt := by
  have hpassed : starting 9223372036854775807 ⟨0⟩ = some ⟨-1000000⟩ := by decide
  refine ⟨by decide, hpassed, by decide, ?_⟩
  intro hclaim
  obtain ⟨t, ht, hlate⟩ := hclaim 9223372036854775807 ⟨0⟩ (by decide) (by decide) (by decide)
  rw [hpassed] at ht
  cases ht
  exact absurd hlate (by decide)

end Deadline

end ModbusTcp
