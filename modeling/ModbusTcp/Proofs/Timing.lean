import ModbusTcp.Proofs.DeadlineRange
import ModbusTcp.Proofs.Filling
import ModbusTcp.Proofs.MemoryQueues

/-!
Over a connection in memory the clock decides nothing but whether to wait.

A read of such a connection (`ReadSome`) that finds something gives it, whatever its deadline; one
that finds nothing waits, and the deadline can only end the wait. So two reads of a message from one
and the same connection come to the same, whatever their timeouts and whenever they start
(`Timeless`), unless one of them waits for ever; and one that has a timeout never does. A frame that
is there as a whole is read without a wait, so it never loses to a deadline, not even to one that
had passed before.

The argument is a simulation: `Transport.Follows` says that each read of one connection comes to the
same on another one, and is followed through the filling of a region up to the read of a channel.
`Clocked` is a connection in memory whose waits look at a clock, each time they wake up, and end
only at a reading that the deadline has come to; the one that never looks is compared with it. The
main statement is `Channel.read_timeless`.
-/

set_option autoImplicit false

namespace ModbusTcp

/-! ## Connections that read alike -/

namespace Transport

variable {ρ σ τ : Type} [Transport ρ σ] [Transport ρ τ]

/-- Whether the reads of one connection under one deadline, as far as they come to an end, come to
the same on another connection under another deadline. `R` says which states go together. -/
structure Follows (r : ρ) (deadline deadline' : Deadline) (R : σ → τ → Prop) : Prop where
  readSome : ∀ {room : Nat} {s s' : σ} {t : τ} {d : Delivery}, R s t →
    Transport.readSome r room deadline s = some (d, s') →
    ∃ t', Transport.readSome r room deadline' t = some (d, t') ∧ R s' t'

namespace Follows

open Channel

variable {r : ρ} {deadline deadline' : Deadline} {R : σ → τ → Prop} {s s' : σ} {t : τ}

/-- Filling a region, by induction on the reads of the one connection. Both loops see the same
reports, so they take the same way out or the same way on. -/
theorem fillsTo (h : Follows r deadline deadline' R) {filled : Nat} {region : List UInt8}
    {out : IoResult × List UInt8 × σ} (hs : R s t)
    (hfill : FillsTo r deadline filled region s out) :
    ∃ t', FillsTo r deadline' filled region t (out.1, out.2.1, t') ∧ R out.2.2 t' := by
  induction hfill generalizing t with
  | full hfull => exact ⟨t, .full hfull, hs⟩
  | failed hless hread hfailed =>
    obtain ⟨t', hread, hs'⟩ := h.readSome hs hread
    exact ⟨t', .failed hless hread hfailed, hs'⟩
  | idle hless hread hok hidle =>
    obtain ⟨t', hread, hs'⟩ := h.readSome hs hread
    exact ⟨t', .idle hless hread hok hidle, hs'⟩
  | more hless hread hok hsome _ ih =>
    obtain ⟨t₁, hread, hs₁⟩ := h.readSome hs hread
    obtain ⟨t', hfill, hs'⟩ := ih hs₁
    exact ⟨t', .more hless hread hok hsome hfill, hs'⟩

theorem fill (h : Follows r deadline deadline' R) {region region' : List UInt8} {result : IoResult}
    (hs : R s t) (hfill : Transport.fill r deadline region s = some (result, region', s')) :
    ∃ t', Transport.fill r deadline' region t = some (result, region', t') ∧ R s' t' := by
  obtain ⟨t', hfill', hs'⟩ := h.fillsTo hs (fillFrom_eq_some_iff.mp hfill)
  exact ⟨t', fillFrom_eq_some_iff.mpr hfill', hs'⟩

theorem readBody (h : Follows r deadline deadline' R) {length : UInt16} {b b' : FrameBuffer}
    {outcome : Except ReadFailure Unit} (hs : R s t)
    (hread : Channel.readBody r deadline length b s = some (outcome, b', s')) :
    ∃ t', Channel.readBody r deadline' length b t = some (outcome, b', t') ∧ R s' t' := by
  rw [readBody_eq, Option.map_eq_some_iff] at hread
  obtain ⟨⟨result, body, s₁⟩, hfill, heq⟩ := hread
  obtain ⟨t₁, hfill', hs₁⟩ := h.fill hs hfill
  cases heq
  refine ⟨t₁, ?_, hs₁⟩
  rw [readBody_eq, hfill']
  rfl

theorem readFrame (h : Follows r deadline deadline' R) {b b' : FrameBuffer}
    {outcome : Except ReadFailure Unit} (hs : R s t)
    (hread : Channel.readFrame r deadline b s = some (outcome, b', s')) :
    ∃ t', Channel.readFrame r deadline' b t = some (outcome, b', t') ∧ R s' t' := by
  rw [readFrame_eq, Option.bind_eq_some_iff] at hread
  obtain ⟨⟨result, head, s₁⟩, hfill, hbehind⟩ := hread
  obtain ⟨t₁, hfill', hs₁⟩ := h.fill hs hfill
  rw [readFrame_eq, hfill']
  simp only [Option.bind_some] at hbehind ⊢
  -- What is made of the head goes by its bytes, and not by the state.
  generalize headRead (b.store 0 head) result head = made at hbehind ⊢
  cases made with
  | error e =>
    cases hbehind
    exact ⟨t₁, rfl, hs₁⟩
  | ok length => exact h.readBody hs₁ hbehind

end Follows

/-- One read brings all that a region is to be filled with. -/
theorem fill_of_all {r : ρ} {deadline : Deadline} {region : List UInt8} {s s' : σ} {d : Delivery}
    (hsome : 0 < region.length) (hread : readSome r region.length deadline s = some (d, s'))
    (hok : d.result.status = .ok) (hbytes : d.result.bytes = d.data.length)
    (hall : d.data.length = region.length) :
    fill r deadline region s = some (.transferred region.length, d.data, s') := by
  have hdata : d.data ≠ [] := List.length_pos_iff.mp (hall ▸ hsome)
  have hstored : region.take 0 ++ overlay (region.drop 0) d.data = d.data :=
    overlay_of_length_eq hall
  rw [fill, fillFrom_of_bytes hsome hread hdata (Nat.le_of_eq hall) hok hbytes, hstored,
    Nat.zero_add, fillFrom_of_full (by omega), hall]

end Transport

/-! ## Reads of a connection in memory -/

namespace Memory

open Transport

variable {m m' : Memory}

/-- Whether a read finds something and need not wait. -/
def ready (m : Memory) : Bool :=
  !m.unread.isEmpty || m.inputEnded || m.inputClosed || m.readFailure.isSome

theorem readSome_of_ready (h : m.ready = true) (room : Nat) (deadline : Deadline) :
    m.readSome room deadline = m.readSome room none := by
  unfold readSome
  split
  · rfl
  · split
    · rfl
    · split
      · rfl
      · split
        · rfl
        · simp_all [ready]

theorem readSome_of_not_ready (h : ¬ m.ready = true) (room : Nat) (deadline : Deadline) :
    m.readSome room deadline = deadline.map fun _ => (.ofResult .expired, m) := by
  simp only [ready, Bool.or_eq_true, not_or, Bool.not_eq_true, Bool.not_eq_false',
    List.isEmpty_iff, Option.isSome_eq_false_iff, Option.isNone_iff_eq_none] at h
  obtain ⟨⟨⟨hunread, hended⟩, hopen⟩, hfailure⟩ := h
  exact readSome_of_idle hopen hunread hfailure hended

/-- **What a read gives does not depend on its deadline.** A read without one waits for ever where
one with a deadline finds it passed. -/
theorem follows {deadline deadline' : Deadline} (h : deadline.isSome → deadline'.isSome) :
    Follows () deadline deadline' (Eq : Memory → Memory → Prop) where
  readSome := by
    rintro room m m' _ d rfl hread
    have hfound : m.readSome room deadline = some (d, m') := hread
    refine ⟨m', ?_, rfl⟩
    by_cases hready : m.ready = true
    · rw [readSome_of_ready hready] at hfound
      exact (readSome_of_ready hready room deadline').trans hfound
    · rw [readSome_of_not_ready hready, Option.map_eq_some_iff] at hfound
      obtain ⟨t, rfl, hexpired⟩ := hfound
      obtain ⟨t', rfl⟩ := Option.isSome_iff_exists.mp (h rfl)
      exact (readSome_of_not_ready hready room (some t')).trans (congrArg some hexpired)

/-- The failure that was set for reads comes without bytes. -/
def Sound (m : Memory) : Prop := ∀ failure, m.readFailure = some failure → failure.bytes = 0

theorem Sound.readSome (hm : m.Sound) {room : Nat} {deadline : Deadline} {d : Delivery}
    (h : m.readSome room deadline = some (d, m')) : m'.Sound := by
  rw [(readSome_takes h).2]
  exact hm

theorem bytes_injected {e : Entry} {failure : IoResult} (h : (effect e).injected = some failure) :
    failure.bytes = 0 := by
  unfold effect at h
  split at h
  · exact nomatch h
  · exact nomatch h
  · cases h
    rfl
  · exact nomatch h
  · exact nomatch h
  · split at h
    · split at h
      all_goals exact nomatch h
    · exact nomatch h

/-- What a history of a fresh connection leaves is sound. -/
theorem sound_of_history (steps : List (History.Step Unit Outside)) :
    (History.behind (history steps) {}).Sound := by
  have htracks : Tracks (history steps) (History.behind (history steps) {}) :=
    History.keeps_behind (fun _ _ h he => h.step he) tracks_fresh steps
  intro failure hfailure
  rw [htracks.readFailure, injected] at hfailure
  obtain ⟨e, -, he⟩ := List.mem_filterMap.mp (List.mem_of_getLast? hfailure)
  exact bytes_injected he

theorem Sound.keepsContract (hm : m.Sound) : KeepsContract () m := by
  intro m₁ hreads room deadline d m₂ hread hok
  have hm₁ : m₁.Sound :=
    hreads.keeps Sound (fun _ _ _ _ _ hsome hs => hs.readSome hsome) hm
  have hfound : m₁.readSome room deadline = some (d, m₂) := hread
  unfold Memory.readSome at hfound
  split at hfound
  · cases hfound
    exact nomatch hok
  · split at hfound
    · cases hfound
      exact ⟨rfl, List.length_take_le _ _⟩
    · split at hfound
      · rename_i failure hfailure
        cases hfound
        exact ⟨hm₁ failure hfailure, Nat.zero_le _⟩
      · split at hfound
        · cases hfound
          exact nomatch hok
        · split at hfound
          · cases hfound
            exact nomatch hok
          · exact nomatch hfound

/-- A filling with a deadline comes to an end. -/
theorem Sound.exists_fill (hm : m.Sound) (t : Instant) (region : List UInt8) :
    ∃ result region' m', fill () (some t) region m = some (result, region', m') ∧ m'.Sound := by
  rcases fillFrom_takes_missing hm.keepsContract (Nat.zero_le region.length) (some t) with
    ⟨reads, result, m', hfill, -, -⟩ | ⟨-, reads, m', -, hwaiting⟩
  · refine ⟨result, _, m', hfill, ?_⟩
    exact (fill_reads hfill).keeps Sound (fun _ _ _ _ _ hsome hs => hs.readSome hsome) hm
  · exact nomatch (readSome_eq_none hwaiting.waits).1

theorem Sound.exists_readBody (hm : m.Sound) (t : Instant) (length : UInt16) (b : FrameBuffer) :
    ∃ outcome b' m', Channel.readBody () (some t) length b m = some (outcome, b', m') := by
  obtain ⟨result, body, m', hfill, -⟩ :=
    hm.exists_fill t (b.region Frame.prefixLength length.toNat)
  rw [Channel.readBody_eq, hfill]
  exact ⟨_, _, _, rfl⟩

theorem Sound.exists_readFrame (hm : m.Sound) (t : Instant) (b : FrameBuffer) :
    ∃ outcome b' m', Channel.readFrame () (some t) b m = some (outcome, b', m') := by
  obtain ⟨result, head, m₁, hfill, hm₁⟩ := hm.exists_fill t (b.region 0 Frame.prefixLength)
  rw [Channel.readFrame_eq, hfill, Option.bind_some]
  simp only
  cases Channel.headRead (b.store 0 head) result head with
  | error e => exact ⟨_, _, _, rfl⟩
  | ok length => exact hm₁.exists_readBody t length _

/-! ## Frames that are there as a whole -/

/-- A region for which there are bytes enough is filled without a wait: by one read, or not at all
if the input is closed. -/
theorem fill_of_buffered {region : List UInt8} (h : region.length ≤ m.unread.length)
    (deadline : Deadline) :
    ∃ result region' m', fill () deadline region m = some (result, region', m')
      ∧ result.status ≠ .timeout
      ∧ (result.status = .ok → region' = m.unread.take region.length
        ∧ m'.unread = m.unread.drop region.length) := by
  rcases Nat.eq_zero_or_pos region.length with hnone | hsome
  · obtain rfl := List.length_eq_zero_iff.mp hnone
    refine ⟨.transferred 0, [], m, ?_, by decide, fun _ => ⟨rfl, rfl⟩⟩
    rw [fill, fillFrom_of_full (by decide)]
  · rcases hclosed : m.inputClosed with _ | _
    · have hunread : m.unread ≠ [] := List.length_pos_iff.mp (by omega)
      have hread : Transport.readSome () region.length deadline m
          = some (.ofBytes (m.unread.take region.length),
            { m with unread := m.unread.drop region.length }) :=
        readSome_of_unread hclosed hunread
      have hfill := fill_of_all hsome hread rfl rfl (List.length_take_of_le h)
      exact ⟨_, _, _, hfill, by simp [IoResult.transferred], fun _ => ⟨rfl, rfl⟩⟩
    · have hread : Transport.readSome () (region.length - 0) deadline m
          = some (.ofResult .ended, m) := readSome_of_closed hclosed
      have hstop : ¬ (⟨region.length - 0, deadline, .ofResult .ended⟩ : Exchange).GoesOn := by
        simp [Exchange.GoesOn, Delivery.ofResult, IoResult.ended]
      have hfill := fillFrom_of_stop hsome hread hstop
      refine ⟨_, _, _, hfill, ?_, ?_⟩
      · simp [Exchange.ending, Delivery.ofResult, IoResult.ended]
      · simp [Exchange.ending, Delivery.ofResult, IoResult.ended]

end Memory

/-- Only what came of filling a region is ever reported as timed out. -/
theorem ReadFailure.timedOut_eq_false {f : ReadFailure}
    (hheader : ∀ result, f = .headerBroken result → result.status ≠ .timeout)
    (hbody : ∀ result length, f = .bodyBroken result length → result.status ≠ .timeout) :
    f.status.timedOut = false := by
  cases f with
  | headerBroken result =>
    unfold status
    simp only
    split
    · rfl
    · split
      · exact decide_eq_false (hheader result rfl)
      · exact decide_eq_false (hheader result rfl)
  | bodyBroken result length =>
    unfold status
    simp only
    split
    · rfl
    · exact decide_eq_false (hbody result length rfl)
  | _ => rfl

namespace Channel

open Transport

/-- Whether an outcome is not that the time was up. -/
def InTime {α : Type} (outcome : Except ReadFailure α) : Prop :=
  ∀ f, outcome = .error f → f.status.timedOut = false

theorem lengthField_take (bytes : List UInt8) :
    lengthField (bytes.take Frame.prefixLength) = lengthField bytes := by
  unfold lengthField
  rw [List.drop_take]
  rcases bytes.drop Frame.lengthOffset with _ | ⟨high, _ | ⟨low, rest⟩⟩
  · rfl
  · rfl
  · rfl

section InTime

variable {m m' : Memory} {deadline : Deadline} {b b' : FrameBuffer}
  {outcome : Except ReadFailure Unit}

theorem inTime_of_readBody {length : UInt16} (h : length.toNat ≤ m.unread.length)
    (hread : readBody () deadline length b m = some (outcome, b', m')) : InTime outcome := by
  have hregion : (b.region Frame.prefixLength length.toNat).length ≤ m.unread.length := by
    refine Nat.le_trans ?_ h
    unfold FrameBuffer.region
    split
    · exact List.length_take_le ..
    · exact Nat.zero_le _
  obtain ⟨result, body, m₁, hfill, hintime, -⟩ := m.fill_of_buffered hregion deadline
  unfold readBody at hread
  rw [hfill] at hread
  simp only at hread
  split at hread
  · cases hread
    rintro f ⟨rfl⟩
    refine ReadFailure.timedOut_eq_false nofun ?_
    rintro result' length' ⟨rfl, rfl⟩
    exact hintime
  · split at hread
    · cases hread
      rintro f ⟨rfl⟩
      rfl
    · split at hread
      · cases hread
        rintro f ⟨rfl⟩
        rfl
      · cases hread
        exact nofun

/-- **A frame that is there as a whole is read without a wait.** The head leaves the bytes that it
announces to the body. -/
theorem inTime_of_readFrame (hb : Frame.prefixLength ≤ b.capacity)
    (h : Frame.prefixLength + (lengthField m.unread).toNat ≤ m.unread.length)
    (hread : readFrame () deadline b m = some (outcome, b', m')) : InTime outcome := by
  have hregion : (b.region 0 Frame.prefixLength).length = Frame.prefixLength :=
    FrameBuffer.length_region_of_fits (by omega)
  have hbuffered : (b.region 0 Frame.prefixLength).length ≤ m.unread.length := by omega
  obtain ⟨result, head, m₁, hfill, hintime, hhead⟩ := m.fill_of_buffered hbuffered deadline
  unfold readFrame at hread
  rw [hfill] at hread
  simp only at hread
  split at hread
  · cases hread
    rintro f ⟨rfl⟩
    refine ReadFailure.timedOut_eq_false ?_ nofun
    rintro result' ⟨rfl⟩
    exact hintime
  · rename_i hok
    obtain ⟨rfl, hunread⟩ := hhead (not_not.mp hok)
    rw [hregion, lengthField_take] at hread
    split at hread
    · cases hread
      rintro f ⟨rfl⟩
      rfl
    · refine inTime_of_readBody ?_ hread
      rw [hunread, hregion, List.length_drop]
      omega

theorem inTime_decodeRead {outcome : Except ReadFailure Unit} (h : InTime outcome)
    (table : VariantTable) (role : Role) (b : FrameBuffer) :
    InTime (decodeRead table role outcome b).1 := by
  unfold decodeRead
  split
  · rintro f ⟨rfl⟩
    exact h _ rfl
  · unfold decodeFrame
    split
    · rintro f ⟨rfl⟩
      rfl
    · simp only
      split
      · rintro f ⟨rfl⟩
        rfl
      · exact nofun

end InTime

end Channel

/-! ## Waits that look at a clock -/

/-- A connection in memory whose waits look at a clock. -/
structure Clocked where
  memory : Memory
  /-- What the clock will show, each time that a wait wakes up and looks at it. -/
  readings : List Instant

namespace Clocked

open Transport

/-- A read that finds something does not look at the clock. One that does not waits, and gives up
when the clock shows the deadline or a later time; if it never does, the read waits for ever. -/
def readSome (room : Nat) (deadline : Deadline) (k : Clocked) : Option (Delivery × Clocked) :=
  if k.memory.ready then
    (k.memory.readSome room none).map fun (d, memory) => (d, { k with memory })
  else
    match deadline with
    | none => none
    | some t =>
      match k.readings.dropWhile fun now => now.nanoseconds < t.nanoseconds with
      | [] => none
      | readings => some (.ofResult .expired, { k with readings })

/-- The connection behind an operation that waits for nothing. -/
def behind (k : Clocked) (outcome : IoResult × Memory) : IoResult × Clocked :=
  (outcome.1, { k with memory := outcome.2 })

instance : Transport Unit Clocked where
  readSome _ := readSome
  write _ data k := k.behind (k.memory.write data)
  flush _ k := k.behind k.memory.flush
  isOpen _ k := k.memory.isOpen
  closeInput _ k := k.behind k.memory.closeInput
  closeOutput _ k := k.behind k.memory.closeOutput
  close _ k := k.behind k.memory.close
  backlog _ k := k.memory.unread.length

/-- Whether the clock comes to show a time or a later one. -/
def Reaches (readings : List Instant) (t : Instant) : Prop :=
  ∃ now ∈ readings, t.nanoseconds ≤ now.nanoseconds

/-- A wait for a time that comes ends there, and that time is still to be seen. -/
theorem Reaches.wait {readings : List Instant} {t : Instant} (h : Reaches readings t) :
    ∃ now later, (readings.dropWhile fun now => now.nanoseconds < t.nanoseconds) = now :: later
      ∧ Reaches (now :: later) t := by
  induction readings with
  | nil =>
    obtain ⟨now, hnow, -⟩ := h
    simp at hnow
  | cons first readings ih =>
    by_cases hearly : first.nanoseconds < t.nanoseconds
    · rw [List.dropWhile_cons, decide_eq_true hearly, if_pos rfl]
      apply ih
      obtain ⟨now, hnow, hreached⟩ := h
      rcases List.mem_cons.mp hnow with rfl | hnow
      · exact absurd hreached (Int64.not_le.mpr hearly)
      · exact ⟨now, hnow, hreached⟩
    · rw [List.dropWhile_cons, decide_eq_false hearly, if_neg Bool.false_ne_true]
      exact ⟨first, readings, rfl, h⟩

/-- A read that looks at the clock gives what one gives that does not. -/
theorem followed (deadline : Deadline) :
    Follows () deadline deadline fun (k : Clocked) m => k.memory = m where
  readSome := by
    rintro room k k' _ d rfl hread
    have hfound : k.readSome room deadline = some (d, k') := hread
    unfold Clocked.readSome at hfound
    split at hfound
    · rename_i hready
      obtain ⟨⟨d', m'⟩, hmemory, heq⟩ := Option.map_eq_some_iff.mp hfound
      cases heq
      exact ⟨m', (Memory.readSome_of_ready hready room deadline).trans hmemory, rfl⟩
    · rename_i hwaits
      split at hfound
      · exact nomatch hfound
      · split at hfound
        · exact nomatch hfound
        · cases hfound
          exact ⟨k.memory, Memory.readSome_of_not_ready hwaits room _, rfl⟩

/-- And it gives this whenever the clock comes to show the deadline; so it does for the reads to
come, since a clock that stands there has not gone by. -/
theorem follows (t : Instant) :
    Follows () (some t) (some t) fun m (k : Clocked) => k.memory = m ∧ Reaches k.readings t where
  readSome := by
    rintro room m m' k d ⟨rfl, hreached⟩ hread
    have hfound : k.memory.readSome room (some t) = some (d, m') := hread
    by_cases hready : k.memory.ready = true
    · rw [Memory.readSome_of_ready hready] at hfound
      refine ⟨{ k with memory := m' }, ?_, rfl, hreached⟩
      refine (if_pos hready).trans ?_
      rw [hfound]
      rfl
    · rw [Memory.readSome_of_not_ready hready] at hfound
      cases hfound
      obtain ⟨now, later, hwait, hlater⟩ := hreached.wait
      refine ⟨{ k with readings := now :: later }, ?_, rfl, hlater⟩
      refine (if_neg hready).trans ?_
      rw [hwait]

end Clocked

/-! ## The main statement -/

namespace Channel

open Transport

/-- What reading a frame from a connection in memory comes to, under any deadline and over any
clock. -/
structure FrameTimeless (b : FrameBuffer) (m : Memory) (outcome : Except ReadFailure Unit)
    (b' : FrameBuffer) (m' : Memory) : Prop where
  timed : ∀ t, readFrame () (some t) b m = some (outcome, b', m')
  untimed : ∀ deadline, readFrame () deadline b m = none
    ∨ readFrame () deadline b m = some (outcome, b', m')
  clocked : ∀ t readings, Clocked.Reaches readings t → ∃ readings',
    readFrame () (some t) b (Clocked.mk m readings) = some (outcome, b', ⟨m', readings'⟩)
  unreached : ∀ deadline readings, readFrame () deadline b (Clocked.mk m readings) = none
    ∨ ∃ readings',
      readFrame () deadline b (Clocked.mk m readings) = some (outcome, b', ⟨m', readings'⟩)

/-- One deadline stands for all of them, since a read under it comes to an end. -/
theorem exists_frameTimeless {m : Memory} (hm : m.Sound) (b : FrameBuffer) :
    ∃ outcome b' m', FrameTimeless b m outcome b' m' := by
  obtain ⟨outcome, b', m', hframe⟩ := hm.exists_readFrame ⟨0⟩ b
  -- Whatever a read under another deadline comes to, this one comes to it too.
  have hsame : ∀ {deadline outcome₁ b₁ m₁},
      readFrame () deadline b m = some (outcome₁, b₁, m₁) →
      some (outcome₁, b₁, m₁) = some (outcome, b', m') := by
    intro deadline outcome₁ b₁ m₁ hfound
    have hfollows : Follows () deadline (some ⟨0⟩) (Eq : Memory → Memory → Prop) :=
      Memory.follows fun _ => rfl
    obtain ⟨_, hread, rfl⟩ := hfollows.readFrame rfl hfound
    exact hread.symm.trans hframe
  have htimed : ∀ t, readFrame () (some t) b m = some (outcome, b', m') := by
    intro t
    have hfollows : Follows () (some ⟨0⟩) (some t) (Eq : Memory → Memory → Prop) :=
      Memory.follows fun _ => rfl
    obtain ⟨_, hread, rfl⟩ := hfollows.readFrame rfl hframe
    exact hread
  refine ⟨outcome, b', m', htimed, ?_, ?_, ?_⟩
  · intro deadline
    rcases hfound : readFrame () deadline b m with _ | ⟨outcome₁, b₁, m₁⟩
    · exact .inl rfl
    · exact .inr (hsame hfound)
  · intro t readings hreached
    have hclock : (Clocked.mk m readings).memory = m ∧ Clocked.Reaches readings t :=
      ⟨rfl, hreached⟩
    obtain ⟨⟨_, readings'⟩, hread, rfl, -⟩ := (Clocked.follows t).readFrame hclock (htimed t)
    exact ⟨readings', hread⟩
  · intro deadline readings
    rcases hfound : readFrame () deadline b (Clocked.mk m readings)
      with _ | ⟨outcome₁, b₁, m₁, readings'⟩
    · exact .inl rfl
    · obtain ⟨_, hread, rfl⟩ := (Clocked.followed deadline).readFrame rfl hfound
      cases hsame hread
      exact .inr ⟨readings', rfl⟩

/-- What a read of a message from a connection in memory comes to: an outcome, a buffer and a
connection behind it. Neither the timeout of the channel nor the start of the read nor what a clock
shows plays a part in them. -/
structure Timeless (role : Role) (c : Channel Unit) (m : Memory)
    (outcome : Except ReadFailure (Message role)) (b : FrameBuffer) (m' : Memory) : Prop where
  /-- A read with a timeout comes to an end. -/
  timed : ∀ timeout start, 0 < timeout →
    (c.setReceiveTimeout timeout).read role start m
      = some (outcome, { c.setReceiveTimeout timeout with buffer := some b }, m')
  /-- A read without one may wait for ever. -/
  untimed : ∀ timeout start, timeout ≤ 0 →
    (c.setReceiveTimeout timeout).read role start m = none
      ∨ (c.setReceiveTimeout timeout).read role start m
        = some (outcome, { c.setReceiveTimeout timeout with buffer := some b }, m')
  /-- It is the same if waits look at a clock that comes to show the deadline, or has shown it from
  the beginning. -/
  clocked : ∀ timeout start readings, 0 < timeout →
    Clocked.Reaches readings (start.after timeout) → ∃ readings',
      (c.setReceiveTimeout timeout).read role start (Clocked.mk m readings)
        = some (outcome, { c.setReceiveTimeout timeout with buffer := some b }, ⟨m', readings'⟩)
  /-- Over any other clock, or without a timeout, such a read may wait for ever. -/
  unreached : ∀ timeout start readings,
    (c.setReceiveTimeout timeout).read role start (Clocked.mk m readings) = none
      ∨ ∃ readings', (c.setReceiveTimeout timeout).read role start (Clocked.mk m readings)
        = some (outcome, { c.setReceiveTimeout timeout with buffer := some b }, ⟨m', readings'⟩)
  /-- The time is not up for a frame of which all bytes are there. -/
  whole : Frame.prefixLength + (lengthField m.unread).toNat ≤ m.unread.length → InTime outcome

/-- **Over a connection in memory the clock decides nothing but whether to wait.** Whatever has
happened to the connection, a read of a message comes to the same with any two timeouts and any
readings of the clock, also where the deadline has passed at its start; without a timeout it comes
to this or waits for ever; and a frame that is there as a whole is never reported as timed out. -/
theorem read_timeless (steps : List (History.Step Unit Memory.Outside)) {c : Channel Unit}
    (hc : c.BoundTo ()) (role : Role) :
    ∃ outcome b m',
      Timeless role c (History.behind (Memory.history steps) {}) outcome b m' := by
  obtain ⟨hr, b, hb, hcapacity⟩ := hc
  generalize hm : History.behind (Memory.history steps) {} = m
  have hsound : m.Sound := hm ▸ Memory.sound_of_history steps
  obtain ⟨outcome, b', m', hframe⟩ := exists_frameTimeless hsound b
  -- The message is what comes of the frame, at any timeout of the channel.
  have hmemory : ∀ timeout start, (c.setReceiveTimeout timeout).read role start m = _ :=
    fun timeout start => read_eq_readFrame (c := c.setReceiveTimeout timeout) hr hb role start m
  have hclock : ∀ timeout start readings,
      (c.setReceiveTimeout timeout).read role start (Clocked.mk m readings) = _ :=
    fun timeout start readings =>
      read_eq_readFrame (c := c.setReceiveTimeout timeout) hr hb role start (Clocked.mk m readings)
  refine ⟨(decodeRead c.table role outcome b').1, (decodeRead c.table role outcome b').2, m', ?_⟩
  constructor
  · intro timeout start hpositive
    have hdeadline := Deadline.starting_of_pos hpositive start
    exact (hmemory timeout start).trans (congrArg _ (hdeadline ▸ hframe.timed _))
  · intro timeout start hnone
    rw [hmemory]
    rcases hframe.untimed (.starting timeout start) with hwaits | hread
    · exact .inl (congrArg _ hwaits)
    · exact .inr (congrArg _ hread)
  · intro timeout start readings hpositive hreached
    have hdeadline := Deadline.starting_of_pos hpositive start
    obtain ⟨readings', hread⟩ := hframe.clocked _ readings hreached
    exact ⟨readings', (hclock timeout start readings).trans (congrArg _ (hdeadline ▸ hread))⟩
  · intro timeout start readings
    rw [hclock]
    rcases hframe.unreached (.starting timeout start) readings with hwaits | ⟨readings', hread⟩
    · exact .inl (congrArg _ hwaits)
    · exact .inr ⟨readings', congrArg _ hread⟩
  · intro hwhole
    have hfits : Frame.prefixLength ≤ b.capacity := by
      rw [hcapacity]
      decide
    exact inTime_decodeRead (inTime_of_readFrame hfits hwhole (hframe.timed ⟨0⟩)) c.table role b'

set_option maxRecDepth 2000 in
/-- A frame that came in two parts, with the first byte of another one behind it: it is read with a
timeout of 5 milliseconds, though the clock never shows less than 6. -/
theorem read_timeless_passed :
    let steps : List (History.Step Unit Memory.Outside) :=
      [.outside (.append [0, 1, 0, 0, 0, 6, 0x11]), .outside (.append [3, 0, 0x6B, 0, 3, 0])]
    let m : Memory := { unread := [0, 1, 0, 0, 0, 6, 0x11, 3, 0, 0x6B, 0, 3, 0] }
    let c : Channel Unit := ({} : Channel Unit).attach ()
    let request : Message .request := ⟨⟨1, 0, 0x11⟩, 3, .readRegisters 0x6B 3⟩
    History.behind (Memory.history steps) {} = m ∧ c.BoundTo ()
      ∧ Frame.prefixLength + (lengthField m.unread).toNat ≤ m.unread.length
      ∧ ∃ b readings, (c.setReceiveTimeout 5).read .request ⟨0⟩ (Clocked.mk m [⟨6000000⟩])
        = some (.ok request, { c.setReceiveTimeout 5 with buffer := some b },
          ⟨{ unread := [0] }, readings⟩) := by
  intro steps m c request
  have hm : History.behind (Memory.history steps) {} = m := rfl
  have hc : c.BoundTo () := boundTo_attach _ ()
  have hread : (c.read .request ⟨0⟩ m).map (fun (outcome, _, m') => (outcome, m'))
      = some (.ok request, { unread := [0] }) := by cbv
  refine ⟨hm, hc, by decide, ?_⟩
  obtain ⟨outcome, b, m', htimeless⟩ := read_timeless steps hc .request
  rw [hm] at htimeless
  -- The read without a timeout need not wait, and tells what all of them come to.
  have huntimed := htimeless.untimed 0 ⟨0⟩ (by decide)
  rw [show c.setReceiveTimeout 0 = c from rfl] at huntimed
  rcases huntimed with hwaits | hfound
  · rw [hwaits] at hread
    simp at hread
  · rw [hfound] at hread
    obtain ⟨rfl, rfl⟩ := Prod.mk.inj (Option.some.inj hread)
    have hreached : Clocked.Reaches [⟨6000000⟩] ((⟨0⟩ : Instant).after 5) :=
      ⟨⟨6000000⟩, List.mem_singleton_self _, by decide⟩
    obtain ⟨readings, hclocked⟩ := htimeless.clocked 5 ⟨0⟩ _ (by decide) hreached
    exact ⟨b, readings, hclocked⟩

end Channel

end ModbusTcp
