import Mathlib.Logic.Basic
import ModbusTcp.Proofs.DeadlineRange
import ModbusTcp.Proofs.Sending
import ModbusTcp.ReceiveTimeout
import ModbusTcp.Transport.Listener

/-!
When a wait of a socket expires.

A wait is handed to the operating system in whole milliseconds (`PollTimeoutMs`), rounded up, and as
a 32-bit number, so a deadline further ahead than `longestWait` is cut down to that. A wait that was
cut down and found nothing is reported as one that has expired (`ReadSome`, `Accept`). What can be
relied on is therefore that a report comes no earlier than the deadline or, if that is earlier,
`longestWait` behind the call (`expires_by_deadline`); deadlines that near are kept exactly, and
without one nothing is reported. That the deadline itself may not be reached is shown by
`expires_before_deadline`.

The kernel is any that keeps time as `Kernel.Timely` says. The induction of the two main lemmas is
on the retries, as which a wait goes on when a call was cut short.
-/

set_option autoImplicit false

namespace ModbusTcp

/-- The longest wait that can be asked for, in milliseconds: the largest 32-bit number. -/
def longestWait : Int := 2147483647

/-! ## The length of a wait -/

namespace Deadline

variable {left : Int64}

/-- Whole milliseconds of a time that is not negative; nothing of it overflows. -/
theorem toInt_whole (h : 0 ≤ left.toInt) : (left / 1000000).toInt = left.toInt / 1000000 := by
  have hlarge := left.toInt_lt
  rw [Int64.toInt_div, toInt_million, Int.tdiv_eq_ediv_of_nonneg h]
  apply Int.bmod_eq_of_le <;> omega

/-- Rounded up, the milliseconds are not less than the time itself. -/
theorem le_rounded (h : 0 ≤ left.toInt) {rounded : Int64}
    (hrounded : rounded
      = if left / 1000000 * 1000000 < left then left / 1000000 + 1 else left / 1000000) :
    0 ≤ rounded.toInt ∧ left.toInt ≤ rounded.toInt * millisecond := by
  have hlarge := left.toInt_lt
  have hwhole := toInt_whole h
  have hback : (left / 1000000 * 1000000).toInt = left.toInt / 1000000 * 1000000 := by
    rw [Int64.toInt_mul, hwhole, toInt_million]
    apply Int.bmod_eq_of_le <;> omega
  have hnext : (left / 1000000 + 1).toInt = left.toInt / 1000000 + 1 := by
    rw [Int64.toInt_add, hwhole, show (1 : Int64).toInt = 1 from rfl]
    apply Int.bmod_eq_of_le <;> omega
  rw [millisecond]
  by_cases hcut : left / 1000000 * 1000000 < left
  · rw [hrounded, if_pos hcut, hnext]
    omega
  · rw [hrounded, if_neg hcut, hwhole]
    rw [Int64.lt_iff_toInt_lt, hback] at hcut
    omega

/-- As a 32-bit number they are the same, or the largest one. -/
theorem le_cut {rounded : Int64} (h : 0 ≤ rounded.toInt) {wait : Int32}
    (hwait : wait = (min rounded 2147483647).toInt32) :
    0 ≤ wait.toInt ∧ (wait.toInt = rounded.toInt ∨ wait.toInt = longestWait) := by
  have hmin : min rounded 2147483647 = if rounded ≤ 2147483647 then rounded else 2147483647 := rfl
  rw [longestWait, hwait, hmin]
  by_cases hfits : rounded ≤ 2147483647
  · have hbound : rounded.toInt ≤ 2147483647 := Int64.le_iff_toInt_le.mp hfits
    have hsame : rounded.toInt32.toInt = rounded.toInt := by
      rw [Int64.toInt_toInt32]
      apply Int.bmod_eq_of_le <;> omega
    rw [if_pos hfits, hsame]
    exact ⟨h, .inl rfl⟩
  · rw [if_neg hfits]
    exact ⟨by decide, .inr (by decide)⟩

/-- The time left is not less than the difference, unless the deadline has passed. The clock counts
from its origin on, so only a difference far below zero can wrap around. -/
theorem le_left {t now : Instant} (hnow : 0 ≤ now.nanoseconds.toInt) :
    t.nanoseconds.toInt < now.nanoseconds.toInt
      ∨ t.nanoseconds.toInt - now.nanoseconds.toInt
        ≤ (t.nanoseconds - now.nanoseconds).toInt := by
  have hsmall := t.nanoseconds.toInt_lt
  by_cases hpassed : t.nanoseconds.toInt < now.nanoseconds.toInt
  · exact .inl hpassed
  · right
    apply Int.le_of_eq
    rw [Int64.toInt_sub, Int.bmod_eq_of_le (by omega) (by omega)]

/-- **How long a wait is:** up to the deadline at least, or the longest that can be asked for. -/
theorem le_waitMilliseconds (t : Instant) {now : Instant} (hnow : 0 ≤ now.nanoseconds.toInt) :
    0 ≤ (waitMilliseconds (some t) now).toInt
      ∧ (t.nanoseconds.toInt
          ≤ now.nanoseconds.toInt + (waitMilliseconds (some t) now).toInt * millisecond
        ∨ (waitMilliseconds (some t) now).toInt = longestWait) := by
  have hleft := le_left (t := t) hnow
  rw [waitMilliseconds]
  generalize t.nanoseconds - now.nanoseconds = left at hleft
  simp only
  by_cases hnone : left ≤ 0
  · have hzero : left.toInt ≤ 0 := Int64.le_iff_toInt_le.mp hnone
    rw [if_pos hnone, show (0 : Int32).toInt = 0 from rfl]
    omega
  · rw [if_neg hnone]
    obtain ⟨hrounded, hmost⟩ := le_rounded (Int.le_of_lt (toInt_pos hnone)) rfl
    obtain ⟨hwait, hsame | hlongest⟩ := le_cut hrounded rfl
    · refine ⟨hwait, .inl ?_⟩
      rw [hsame]
      rw [millisecond] at hmost ⊢
      omega
    · exact ⟨hwait, .inr hlongest⟩

end Deadline

/-! ## Kernels that keep time -/

namespace Kernel

variable {κ : Type} [Kernel κ]

/-- What the steady clock shows, in nanoseconds. -/
def clock (k : κ) : Int := (now k).1.nanoseconds.toInt

/-- A kernel that keeps time: its clock counts from its origin on and never goes back, a poll that
reports that there is nothing has waited as long as it was asked to, and a poll without a limit
never reports that. -/
structure Timely (κ : Type) [Kernel κ] : Prop where
  nonneg : ∀ k : κ, 0 ≤ clock k
  now_forward : ∀ k : κ, clock k ≤ clock (now k).2
  poll_forward : ∀ (d : Descriptor) (t : Int32) (k : κ) (r : Except Errno Bool) (k' : κ),
    poll d t k = some (r, k') → clock k ≤ clock k'
  recv_forward : ∀ (d : Descriptor) (n : Nat) (k : κ), clock k ≤ clock (recv d n k).2
  accept_forward : ∀ (d : Descriptor) (k : κ), clock k ≤ clock (accept d k).2
  poll_waits : ∀ (d : Descriptor) (t : Int32) (k k' : κ), 0 ≤ t.toInt →
    poll d t k = some (.ok false, k') → clock k + t.toInt * millisecond ≤ clock k'
  poll_forever : ∀ (d : Descriptor) (k k' : κ), poll d (-1) k ≠ some (.ok false, k')

/-- Whether a wait that began at a state of the kernel may be reported at another as one that has
expired: the deadline is reached, or it was further ahead than the longest wait, which is over. -/
def MayExpire (deadline : Deadline) (k k' : κ) : Prop :=
  ∃ t, deadline = some t
    ∧ (t.nanoseconds.toInt ≤ clock k'
      ∨ clock k + longestWait * millisecond < t.nanoseconds.toInt
        ∧ clock k + longestWait * millisecond ≤ clock k')

variable {deadline : Deadline} {d : Descriptor} {k k₁ k' : κ}

/-- What may have expired when it began later may also have when it began earlier. -/
theorem MayExpire.earlier (h : MayExpire deadline k₁ k') (hforward : clock k ≤ clock k₁) :
    MayExpire deadline k k' := by
  obtain ⟨t, rfl, hreached | ⟨hahead, hover⟩⟩ := h
  · exact ⟨t, rfl, .inl hreached⟩
  · exact ⟨t, rfl, .inr ⟨by omega, by omega⟩⟩

/-- A deadline that was not further ahead than the longest wait is reached. -/
theorem MayExpire.reached {t : Instant} (h : MayExpire (some t) k k')
    (hnear : t.nanoseconds.toInt ≤ clock k + longestWait * millisecond) :
    t.nanoseconds.toInt ≤ clock k' := by
  obtain ⟨t', ht', hreached | ⟨hahead, -⟩⟩ := h
  · cases ht'
    exact hreached
  · cases ht'
    omega

/-- One poll for a deadline. -/
theorem mayExpire_of_poll (hκ : Timely κ)
    (h : poll d (deadline.waitMilliseconds (now k).1) (now k).2 = some (.ok false, k')) :
    MayExpire deadline k k' := by
  cases deadline with
  | none => exact absurd h (hκ.poll_forever d _ k')
  | some t =>
    obtain ⟨hwait, hlong⟩ := Deadline.le_waitMilliseconds t (hκ.nonneg k)
    have hwaited := hκ.poll_waits d _ _ k' hwait h
    have hforward := hκ.now_forward k
    refine ⟨t, rfl, ?_⟩
    -- Either the wait went up to the deadline, or it was the longest one.
    rcases hlong with hdeadline | hlongest
    · change _ ≤ clock k + _ at hdeadline
      exact .inl (by omega)
    · rw [hlongest] at hwaited
      omega

/-- After a poll no time was lost. -/
theorem clock_le_of_poll (hκ : Timely κ) {t : Int32} {r : Except Errno Bool}
    (h : poll d t (now k).2 = some (r, k')) : clock k ≤ clock k' :=
  Int.le_trans (hκ.now_forward k) (hκ.poll_forward d t _ r k' h)

theorem clock_le_of_recv (hκ : Timely κ) {room : Nat} {r : Except Errno (List UInt8)}
    (h : recv d room k = (r, k')) : clock k ≤ clock k' := by
  have hforward := hκ.recv_forward d room k
  rwa [h] at hforward

theorem clock_le_of_accept (hκ : Timely κ) {r : Except Errno Descriptor}
    (h : accept d k = (r, k')) : clock k ≤ clock k' := by
  have hforward := hκ.accept_forward d k
  rwa [h] at hforward

end Kernel

/-! ## Waits of sockets -/

open Kernel

variable {κ : Type} [Kernel κ] {deadline : Deadline} {k k' : κ}

/-- **A read that expires has waited,** however often it started over. -/
theorem Socket.mayExpire_of_receive (hκ : Timely κ) {d : Descriptor} {room : Nat}
    {delivery : Delivery} (h : receive d room deadline k = some (delivery, k'))
    (hexpired : delivery.result.status = .timeout) : MayExpire deadline k k' := by
  -- The ways out of the loop, each with another status except the one of an empty poll.
  fun_induction receive d room deadline k
  case case1 => cases h
  case case4 hpoll =>
    cases h
    exact mayExpire_of_poll hκ hpoll
  case case3 | case5 | case6 | case8 | case9 =>
    cases h
    cases hexpired
  -- The ways on: what is to come may expire, and began later.
  case case2 hpoll _ ih => exact (ih h).earlier (clock_le_of_poll hκ hpoll)
  case case7 hpoll _ _ hrecv _ _ ih =>
    exact (ih h).earlier (Int.le_trans (clock_le_of_poll hκ hpoll) (clock_le_of_recv hκ hrecv))

theorem Socket.mayExpire_of_readSome (hκ : Timely κ) {s : Socket} {room : Nat}
    {delivery : Delivery} (h : s.readSome room deadline k = some (delivery, k'))
    (hexpired : delivery.result.status = .timeout) : MayExpire deadline k k' := by
  unfold readSome at h
  split at h
  · cases h
    cases hexpired
  · split at h
    · cases h
      cases hexpired
    · exact mayExpire_of_receive hκ h hexpired

/-- **So has a wait for a client.** -/
theorem Listener.mayExpire_of_accept (hκ : Timely κ) {l : Listener} {f : AcceptFailure}
    (h : l.accept deadline k = some (.error f, k')) (hexpired : f.status.timedOut = true) :
    MayExpire deadline k k' := by
  fun_induction accept l deadline k
  case case1 => cases h
  case case4 hpoll =>
    cases h
    exact mayExpire_of_poll hκ hpoll
  case case3 | case7 =>
    cases h
    cases hexpired
  case case5 => cases h
  case case2 hpoll _ ih => exact (ih h).earlier (clock_le_of_poll hκ hpoll)
  case case6 hpoll _ _ haccept _ _ ih =>
    exact (ih h).earlier (Int.le_trans (clock_le_of_poll hκ hpoll) (clock_le_of_accept hκ haccept))

/-- A timeout that is not longer than the longest wait sets a deadline no further ahead. -/
theorem Deadline.after_le {timeout : Int64} (hpositive : 0 < timeout.toInt)
    (hshort : timeout.toInt ≤ longestWait) (start : Instant) :
    (start.after timeout).nanoseconds.toInt
      ≤ start.nanoseconds.toInt + longestWait * millisecond := by
  have hmeant : start.due timeout ≤ start.nanoseconds.toInt + longestWait * millisecond := by
    rw [Instant.due, millisecond]
    omega
  by_cases hrange : start.due timeout ≤ Instant.latest
  · rw [Instant.toInt_after_of_le hpositive hrange]
    exact hmeant
  · have hearly := Instant.toInt_after_lt_due (Int.not_le.mp hrange)
    omega

/-- Whether a read or a wait for a client, begun at one state of the kernel, is reported at another
as one that has expired. -/
inductive ReportsTimeout (deadline : Deadline) (k k' : κ) : Prop where
  | read {s : Socket} {room : Nat} {delivery : Delivery} :
    s.readSome room deadline k = some (delivery, k') → delivery.result.status = .timeout →
    ReportsTimeout deadline k k'
  | accept {l : Listener} {f : Listener.AcceptFailure} :
    l.accept deadline k = some (.error f, k') → f.status.timedOut = true →
    ReportsTimeout deadline k k'

/-- **When a wait expires.** Over any kernel that keeps time: a read or a wait for a client that is
reported as expired had a deadline, and this is reached, or was further ahead than the longest wait,
and that is over. So every timeout up to the longest wait is kept, from whatever moment before the
call it counts. -/
theorem expires_by_deadline (hκ : Timely κ) (h : ReportsTimeout deadline k k') :
    MayExpire deadline k k'
    ∧ ∀ (timeout : Int64) (start : Instant), deadline = Deadline.starting timeout start →
      start.nanoseconds.toInt ≤ clock k → timeout.toInt ≤ longestWait →
      (start.after timeout).nanoseconds.toInt ≤ clock k' := by
  have hexpire : MayExpire deadline k k' := by
    cases h with
    | read hread hexpired => exact Socket.mayExpire_of_readSome hκ hread hexpired
    | accept haccept hexpired => exact Listener.mayExpire_of_accept hκ haccept hexpired
  refine ⟨hexpire, ?_⟩
  intro timeout start hdeadline hstart hshort
  rw [hdeadline, Deadline.starting] at hexpire
  by_cases hnone : timeout ≤ 0
  · rw [if_pos hnone] at hexpire
    obtain ⟨t, ht, -⟩ := hexpire
    cases ht
  · rw [if_neg hnone] at hexpire
    have hnear := Deadline.after_le (Deadline.toInt_pos hnone) hshort start
    apply hexpire.reached
    omega

/-! ## One turn of a wait -/

theorem Socket.receive_of_interrupted {d : Descriptor} {room : Nat}
    (h : poll d (deadline.waitMilliseconds (now k).1) (now k).2
      = some (.error .interrupted, k')) :
    Socket.receive d room deadline k = Socket.receive d room deadline k' := by
  rw [Socket.receive]
  simp only
  split <;> rename_i hpoll <;> rw [h] at hpoll <;> cases hpoll
  rw [dif_pos rfl]

theorem Socket.receive_of_nothing {d : Descriptor} {room : Nat}
    (h : poll d (deadline.waitMilliseconds (now k).1) (now k).2 = some (.ok false, k')) :
    Socket.receive d room deadline k = some (.ofResult .expired, k') := by
  rw [Socket.receive]
  simp only
  split <;> rename_i hpoll <;> rw [h] at hpoll <;> cases hpoll
  rfl

theorem Listener.accept_of_nothing {l : Listener}
    (h : poll l.descriptor (deadline.waitMilliseconds (now k).1) (now k).2
      = some (.ok false, k')) :
    l.accept deadline k = some (.error .expired, k') := by
  rw [Listener.accept]
  simp only
  split <;> rename_i hpoll <;> rw [h] at hpoll <;> cases hpoll
  rfl

/-! ## A kernel on which nothing happens -/

/-- A kernel with a clock, in nanoseconds, and no input. The next polls are cut short, each after a
time of its own. -/
structure Silent where
  time : Nat
  cuts : List Nat := []
  inRange : time < 9223372036854775808

namespace Silent

/-- The kernel some nanoseconds later, as long as the clock can count them. -/
def later (k : Silent) (nanoseconds : Nat) (cuts : List Nat) : Option Silent :=
  if h : k.time + nanoseconds < 9223372036854775808 then some ⟨k.time + nanoseconds, cuts, h⟩
  else none

/-- A poll is cut short, or finds nothing in the time that it was given. -/
def poll (t : Int32) (k : Silent) : Option (Except Errno Bool × Silent) :=
  match k.cuts with
  | cut :: cuts => (k.later cut cuts).map (.error .interrupted, ·)
  | [] =>
    if t < 0 then none
    else (k.later (t.toInt.toNat * 1000000) []).map (.ok false, ·)

theorem of_later {k k' : Silent} {n : Nat} {cuts : List Nat} (h : k.later n cuts = some k') :
    k'.time = k.time + n ∧ k'.cuts = cuts := by
  unfold later at h
  split at h
  · cases h
    exact ⟨rfl, rfl⟩
  · cases h

/-- What a poll does to the time, and to the polls to come. -/
theorem poll_cases {t : Int32} {k k' : Silent} {r : Except Errno Bool}
    (h : k.poll t = some (r, k')) :
    (r = .error .interrupted ∧ k'.cuts.length < k.cuts.length ∧ k.time ≤ k'.time)
      ∨ (r = .ok false ∧ k'.cuts.length = k.cuts.length ∧ 0 ≤ t.toInt
        ∧ k'.time = k.time + t.toInt.toNat * 1000000) := by
  unfold poll at h
  split at h
  · rename_i cut cuts hcuts
    obtain ⟨k₁, hlater, hk₁⟩ := Option.map_eq_some_iff.mp h
    obtain ⟨htime, hrest⟩ := of_later hlater
    cases hk₁
    left
    rw [hrest, hcuts, htime]
    exact ⟨rfl, Nat.lt_succ_self _, Nat.le_add_right _ _⟩
  · rename_i hcuts
    split at h
    · cases h
    · rename_i hlimit
      obtain ⟨k₁, hlater, hk₁⟩ := Option.map_eq_some_iff.mp h
      obtain ⟨htime, hrest⟩ := of_later hlater
      cases hk₁
      right
      rw [hrest, hcuts, htime]
      rw [Int32.lt_iff_toInt_lt, show (0 : Int32).toInt = 0 from rfl] at hlimit
      exact ⟨rfl, rfl, Int.not_lt.mp hlimit, rfl⟩

theorem later_of_time {k k' : Silent} {n : Nat} (htime : k'.time = k.time + n) :
    k.later n k'.cuts = some k' := by
  obtain ⟨time, cuts, inRange⟩ := k'
  simp only at htime
  subst htime
  exact dif_pos inRange

theorem poll_of_cut {t : Int32} {k k' : Silent} {cut : Nat} (hcuts : k.cuts = cut :: k'.cuts)
    (htime : k'.time = k.time + cut) : k.poll t = some (.error .interrupted, k') := by
  rw [poll, hcuts]
  simp only
  rw [later_of_time htime]
  rfl

theorem poll_of_no_cut {t : Int32} {k k' : Silent} (hcuts : k.cuts = k'.cuts) (hnone : k'.cuts = [])
    (ht : 0 ≤ t.toInt) (htime : k'.time = k.time + t.toInt.toNat * 1000000) :
    k.poll t = some (.ok false, k') := by
  have hlimit : ¬ t < 0 := by
    rw [Int32.lt_iff_toInt_lt]
    exact Int.not_lt.mpr ht
  have hlater := later_of_time htime
  rw [hnone] at hlater
  rw [poll, hcuts, hnone]
  simp only
  rw [if_neg hlimit, hlater]
  rfl

instance : Kernel Silent where
  now k := (⟨Int64.ofNat k.time⟩, k)
  poll _ := poll
  recv _ _ k := (.error .ioError, k)
  send _ bytes k := (.ok bytes.length, k)
  queued _ _ := 0
  shutdown _ _ k := (none, k)
  release _ k := k
  socket _ k := (.error .accessDenied, k)
  reuseAddress _ k := (some .badDescriptor, k)
  bind _ _ _ k := (some .badDescriptor, k)
  listen _ k := (some .badDescriptor, k)
  accept _ k := (.error .badDescriptor, k)
  localPort _ _ := none
  resolve _ _ k := (.ok [], k)
  connect _ _ k := (some .badDescriptor, k)
  streamPair k := (.error .accessDenied, k)
  interruptions k := k.cuts.length
  now_interruptions _ := Nat.le_refl _
  poll_interruptions _ _ _ _ h := by
    rcases poll_cases h with ⟨-, hcuts, -⟩ | ⟨-, hcuts, -⟩ <;> omega
  poll_interrupted _ _ _ _ h hr := by
    rcases poll_cases h with ⟨-, hcuts, -⟩ | ⟨hok, -⟩
    · exact hcuts
    · rw [hok] at hr
      cases hr
  recv_retried _ _ _ _ h := by
    cases h
    simp
  send_interrupted _ _ _ h := nomatch h
  recv_bounded _ _ _ _ h := nomatch h
  send_progress _ bytes _ _ h hbytes := by
    cases h
    exact List.length_pos_iff.mpr hbytes
  send_bounded _ _ _ _ h := by
    cases h
    exact Nat.le_refl _
  accept_retried _ _ _ h := by
    cases h
    simp

theorem clock_eq (k : Silent) : clock k = k.time := by
  have hlarge := k.inRange
  show (Int64.ofNat k.time).toInt = k.time
  rw [Int64.toInt_ofNat_of_lt (by omega)]

theorem timely : Timely Silent := by
  constructor
  case nonneg =>
    intro k
    rw [clock_eq]
    exact Int.natCast_nonneg _
  case now_forward => exact fun k => Int.le_refl _
  case poll_forward =>
    intro d t k r k' h
    rw [clock_eq, clock_eq]
    rcases poll_cases h with ⟨-, -, htime⟩ | ⟨-, -, -, htime⟩ <;> omega
  case recv_forward => exact fun d n k => Int.le_refl _
  case accept_forward => exact fun d k => Int.le_refl _
  case poll_waits =>
    intro d t k k' ht h
    rw [clock_eq, clock_eq, millisecond]
    rcases poll_cases h with ⟨hcut, -⟩ | ⟨-, -, -, htime⟩
    · cases hcut
    · omega
  case poll_forever =>
    intro d k k' h
    rcases poll_cases h with ⟨hcut, -⟩ | ⟨-, -, hlimit, -⟩
    · cases hcut
    · exact absurd hlimit (by decide)

end Silent

/-- A wait of 10 ms is cut short after 0.3 ms and goes on for the 9.7 ms that are left, rounded up
to 10 ms again. -/
theorem expires_by_deadline_interrupted :
    let k : Silent := { time := 5000000, cuts := [300000], inRange := by decide }
    let k' : Silent := { time := 15300000, inRange := by decide }
    let deadline := Deadline.starting 10 ⟨5000000⟩
    let s : Socket := { descriptor := 3 }
    Timely Silent ∧ s.readSome 1 deadline k = some (.ofResult .expired, k')
      ∧ ReportsTimeout deadline k k' ∧ MayExpire deadline k k'
      ∧ (Instant.after ⟨5000000⟩ 10).nanoseconds.toInt ≤ clock k' := by
  intro k k' deadline s
  let k₁ : Silent := { time := 5300000, inRange := by decide }
  have hcut : poll 3 (deadline.waitMilliseconds (now k).1) (now k).2
      = some (.error .interrupted, k₁) := Silent.poll_of_cut rfl (by decide)
  have hwait : deadline.waitMilliseconds (now k₁).1 = 10 := by decide
  have hpoll : poll 3 (deadline.waitMilliseconds (now k₁).1) (now k₁).2
      = some (.ok false, k') := by
    rw [hwait]
    exact Silent.poll_of_no_cut rfl rfl (by decide) (by decide)
  have hread : s.readSome 1 deadline k = some (.ofResult .expired, k') := by
    show Socket.receive 3 1 deadline k = _
    rw [Socket.receive_of_interrupted hcut]
    exact Socket.receive_of_nothing hpoll
  have hreport : ReportsTimeout deadline k k' := .read hread rfl
  obtain ⟨hexpire, hkept⟩ := expires_by_deadline Silent.timely hreport
  exact ⟨Silent.timely, hread, hreport, hexpire,
    hkept 10 ⟨5000000⟩ rfl (by decide) (by decide)⟩

/-- **The deadline itself may not be reached.** The longest timeout that a text can give is about
twice the longest wait. After the first wait, with half of the time left, both operations report
that it has expired. -/
theorem expires_before_deadline :
    let k : Silent := { time := 0, inRange := by decide }
    let k' : Silent := { time := 2147483647000000, inRange := by decide }
    let deadline := Deadline.starting 4294967295 ⟨0⟩
    let s : Socket := { descriptor := 3 }
    let l : Listener := { descriptor := 3 }
    ReceiveTimeout.parse? "4294967295" = some 4294967295 ∧ Timely Silent
      ∧ s.readSome 1 deadline k = some (.ofResult .expired, k')
      ∧ l.accept deadline k = some (.error .expired, k')
      ∧ Listener.AcceptFailure.expired.status.timedOut = true
      ∧ deadline = some ⟨4294967295000000⟩ ∧ clock k' = 2147483647000000 := by
  intro k k' deadline s l
  have hwait : deadline.waitMilliseconds (now k).1 = 2147483647 := by decide
  have hpoll : poll 3 (deadline.waitMilliseconds (now k).1) (now k).2 = some (.ok false, k') := by
    rw [hwait]
    exact Silent.poll_of_no_cut rfl rfl (by decide) (by decide)
  refine ⟨by decide, Silent.timely, ?_, Listener.accept_of_nothing hpoll, rfl, by decide,
    Silent.clock_eq k'⟩
  exact Socket.receive_of_nothing hpoll

end ModbusTcp
