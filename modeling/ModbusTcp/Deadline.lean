/-!
Points in time and deadlines. The clock is steady and counts nanoseconds in a signed 64-bit word;
timeouts are given in milliseconds, also as signed 64-bit words. The arithmetic on them wraps, so a
timeout of some hundred years ends in the past.
-/

set_option autoImplicit false

namespace ModbusTcp

/-- A reading of the steady clock. -/
structure Instant where
  nanoseconds : Int64
  deriving DecidableEq, Repr, Inhabited

/-- The nanoseconds of a count of milliseconds. -/
def nanosecondsOf (milliseconds : Int64) : Int64 := milliseconds * 1000000

/-- The instant a number of milliseconds after the clock's origin. -/
def Instant.ofMilliseconds (milliseconds : Int64) : Instant := ⟨nanosecondsOf milliseconds⟩

/-- Whole milliseconds since the clock's origin, cut off toward zero. -/
def Instant.milliseconds (t : Instant) : Int64 := t.nanoseconds / 1000000

/-- The instant a number of milliseconds later. -/
def Instant.after (t : Instant) (milliseconds : Int64) : Instant :=
  ⟨t.nanoseconds + nanosecondsOf milliseconds⟩

/-- The point after which a read gives up; `none` waits for ever. -/
abbrev Deadline := Option Instant

/-- The deadline of an operation that starts at `start` (`StartDeadline`). A timeout of zero or less
sets none. -/
def Deadline.starting (timeout : Int64) (start : Instant) : Deadline :=
  if timeout ≤ 0 then none else some (start.after timeout)

/-- The timeout in milliseconds to hand to a wait of the operating system at the instant `now`
(`PollTimeoutMs`): -1 without a deadline, 0 once it has passed, else the time left, rounded up so
that the wait does not end too early, and at most the largest 32-bit number. -/
def Deadline.waitMilliseconds (deadline : Deadline) (now : Instant) : Int32 :=
  match deadline with
  | none => -1
  | some t =>
    let left := t.nanoseconds - now.nanoseconds
    if left ≤ 0 then 0
    else
      let whole := left / 1000000
      let rounded := if whole * 1000000 < left then whole + 1 else whole
      (min rounded 2147483647).toInt32

end ModbusTcp
