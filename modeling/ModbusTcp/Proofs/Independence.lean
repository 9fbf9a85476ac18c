import ModbusTcp.Proofs.Calls
import ModbusTcp.Proofs.MemoryQueues
import ModbusTcp.Proofs.Playback

/-!
Reading and writing on one channel do not interfere.

Messages are read (`ReadRequest`, `ReadResponse`) and written (`Write`) in any order. The
connections of a script and in memory have two sides (`Transport.Sides`): reads go by what comes in
and leave what goes out alone, writes and flushes the other way round. Each side is the connection
without the other one, and it behaves on its own as it does beside the other. So a read of a
channel, seen from the incoming side, is the same read of that side alone (`Sides.read`), and what
was written in between plays no part. A run of reads and writes therefore falls into the run of its
reads and the run of its writes (`run_reads`, `run_writes`), whenever each of them happens. The main
statement is `transfers_independent`.
-/

set_option autoImplicit false

namespace ModbusTcp

/-! ## Sides of a connection -/

/-- What stands behind a result, seen from a side. -/
def seenBy {α β σ : Type} (side : σ → σ) (result : α × β × σ) : α × β × σ :=
  (result.1, result.2.1, side result.2.2)

@[simp] theorem seenBy_mk {α β σ : Type} (side : σ → σ) (a : α) (b : β) (s : σ) :
    seenBy side (a, b, s) = (a, b, side s) := rfl

namespace Transport

variable {ρ σ : Type} [Transport ρ σ]

/-- Connections with two sides, each of which is a connection without the other side. Of a deadline
it only counts for a read whether there is one. -/
structure Sides (incoming outgoing : σ → σ) : Prop where
  readSome : ∀ (r : ρ) (room : Nat) (deadline deadline' : Deadline) (s : σ),
    deadline.isSome = deadline'.isSome →
    (readSome r room deadline s).map (fun (d, s') => (d, incoming s'))
      = readSome r room deadline' (incoming s)
  readSome_outgoing : ∀ (r : ρ) (room : Nat) (deadline : Deadline) (s : σ) (d : Delivery) (s' : σ),
    Transport.readSome r room deadline s = some (d, s') → outgoing s' = outgoing s
  write : ∀ (r : ρ) (data : List UInt8) (s : σ),
    write r data (outgoing s) = ((write r data s).1, outgoing (write r data s).2)
  write_incoming : ∀ (r : ρ) (data : List UInt8) (s : σ),
    incoming (Transport.write r data s).2 = incoming s
  flush : ∀ (r : ρ) (s : σ), flush r (outgoing s) = ((flush r s).1, outgoing (flush r s).2)
  flush_incoming : ∀ (r : ρ) (s : σ), incoming (Transport.flush r s).2 = incoming s

namespace Sides

variable {incoming outgoing : σ → σ} {r : ρ} {deadline deadline' : Deadline}

theorem readSome_eq_some (h : Sides incoming outgoing)
    (hdeadline : deadline.isSome = deadline'.isSome) {room : Nat} {s s' : σ} {d : Delivery}
    (hread : Transport.readSome r room deadline s = some (d, s')) :
    Transport.readSome r room deadline' (incoming s) = some (d, incoming s') := by
  rw [← h.readSome r room deadline deadline' s hdeadline, hread]
  rfl

/-- What a read of the incoming side gives, the connection gives. -/
theorem exists_readSome (h : Sides incoming outgoing)
    (hdeadline : deadline.isSome = deadline'.isSome) {room : Nat} {s t : σ} {d : Delivery}
    (hread : Transport.readSome r room deadline' (incoming s) = some (d, t)) :
    ∃ s', Transport.readSome r room deadline s = some (d, s') ∧ t = incoming s' := by
  rw [← h.readSome r room deadline deadline' s hdeadline, Option.map_eq_some_iff] at hread
  obtain ⟨⟨_, s'⟩, hread, heq⟩ := hread
  cases heq
  exact ⟨s', hread, rfl⟩

/-- The reads of a filling give the same on the incoming side alone. -/
theorem fillsTo (h : Sides incoming outgoing) (hdeadline : deadline.isSome = deadline'.isSome)
    {filled : Nat} {region : List UInt8} {s : σ} {out : IoResult × List UInt8 × σ}
    (hfill : FillsTo r deadline filled region s out) :
    FillsTo r deadline' filled region (incoming s) (seenBy incoming out) := by
  induction hfill with
  | full hfull => exact .full hfull
  | failed hless hread hfailed =>
    exact .failed hless (h.readSome_eq_some hdeadline hread) hfailed
  | idle hless hread hok hidle =>
    exact .idle hless (h.readSome_eq_some hdeadline hread) hok hidle
  | more hless hread hok hsome _ ih =>
    exact .more hless (h.readSome_eq_some hdeadline hread) hok hsome ih

/-- And a filling of the incoming side alone is one of the connection. -/
theorem exists_fillsTo (h : Sides incoming outgoing)
    (hdeadline : deadline.isSome = deadline'.isSome) {filled : Nat} {region : List UInt8} {s t : σ}
    {out : IoResult × List UInt8 × σ} (hfill : FillsTo r deadline' filled region t out)
    (ht : t = incoming s) :
    ∃ out', FillsTo r deadline filled region s out' ∧ out = seenBy incoming out' := by
  induction hfill generalizing s with
  | full hfull => exact ⟨_, .full hfull, ht ▸ rfl⟩
  | failed hless hread hfailed =>
    obtain ⟨s', hside, rfl⟩ := h.exists_readSome hdeadline (ht ▸ hread)
    exact ⟨_, .failed hless hside hfailed, rfl⟩
  | idle hless hread hok hidle =>
    obtain ⟨s', hside, rfl⟩ := h.exists_readSome hdeadline (ht ▸ hread)
    exact ⟨_, .idle hless hside hok hidle, rfl⟩
  | more hless hread hok hsome _ ih =>
    obtain ⟨s', hside, hs'⟩ := h.exists_readSome hdeadline (ht ▸ hread)
    obtain ⟨out', hfill, hout⟩ := ih hs'
    exact ⟨out', .more hless hside hok hsome hfill, hout⟩

/-- **Filling a region is filling it from the incoming side alone,** also where it never ends. -/
theorem fill (h : Sides incoming outgoing) (hdeadline : deadline.isSome = deadline'.isSome)
    (region : List UInt8) (s : σ) :
    (Transport.fill r deadline region s).map (seenBy incoming)
      = Transport.fill r deadline' region (incoming s) := by
  apply Option.ext
  intro out
  rw [Option.map_eq_some_iff]
  constructor
  · rintro ⟨out', hfill, rfl⟩
    exact fillFrom_eq_some_iff.mpr (h.fillsTo hdeadline (fillFrom_eq_some_iff.mp hfill))
  · intro hfill
    obtain ⟨out', hfill', rfl⟩ := h.exists_fillsTo hdeadline (fillFrom_eq_some_iff.mp hfill) rfl
    exact ⟨out', fillFrom_eq_some_iff.mpr hfill', rfl⟩

end Sides

end Transport

/-! ## Reads and writes of a channel -/

theorem Deadline.isSome_starting (timeout : Int64) (start start' : Instant) :
    (Deadline.starting timeout start).isSome = (Deadline.starting timeout start').isSome := by
  unfold Deadline.starting
  split
  · rfl
  · rw [Option.isSome_some, Option.isSome_some]

namespace Transport.Sides

open Channel

variable {ρ σ : Type} [Transport ρ σ] {incoming outgoing : σ → σ} {r : ρ}
  {deadline deadline' : Deadline}

theorem readBody (h : Sides incoming outgoing) (hdeadline : deadline.isSome = deadline'.isSome)
    (length : UInt16) (b : FrameBuffer) (s : σ) :
    (Channel.readBody r deadline length b s).map (seenBy incoming)
      = Channel.readBody r deadline' length b (incoming s) := by
  rw [readBody_eq, readBody_eq, ← h.fill hdeadline, Option.map_map, Option.map_map]
  rfl

theorem readFrame (h : Sides incoming outgoing) (hdeadline : deadline.isSome = deadline'.isSome)
    (b : FrameBuffer) (s : σ) :
    (Channel.readFrame r deadline b s).map (seenBy incoming)
      = Channel.readFrame r deadline' b (incoming s) := by
  rw [readFrame_eq, readFrame_eq, ← h.fill hdeadline]
  rcases Transport.fill r deadline (b.region 0 Frame.prefixLength) s with _ | ⟨result, head, s'⟩
  · rfl
  · simp only [Option.bind_some, Option.map_some, seenBy_mk]
    cases headRead (b.store 0 head) result head with
    | error e => rfl
    | ok length => exact h.readBody hdeadline length _ s'

/-- **A read of a channel is a read of the incoming side alone,** whenever it starts. -/
theorem read (h : Sides incoming outgoing) (role : Role) (start start' : Instant) (c : Channel ρ)
    (s : σ) :
    (c.read role start s).map (seenBy incoming) = c.read role start' (incoming s) := by
  rw [read_eq, read_eq]
  split
  · simp only
    rw [← h.readFrame (Deadline.isSome_starting c.receiveTimeout start start')]
    split <;> rename_i hframe <;> rw [hframe] <;> rfl
  · rfl

theorem read_outgoing (h : Sides incoming outgoing) {role : Role} {start : Instant}
    {c c' : Channel ρ} {s s' : σ} {outcome : Except ReadFailure (Message role)}
    (hread : c.read role start s = some (outcome, c', s')) :
    outgoing s' = outgoing s ∧ c'.connection = c.connection := by
  have hkeeps : ∀ {r : ρ} {s' : σ}, Reads r s s' → outgoing s' = outgoing s := fun hreads =>
    hreads.keeps (outgoing · = outgoing s)
      (fun _ _ _ _ _ hsome hs => (h.readSome_outgoing _ _ _ _ _ _ hsome).trans hs) rfl
  rw [read_eq] at hread
  split at hread
  · split at hread
    · exact nomatch hread
    · rename_i hframe
      cases hread
      exact ⟨hkeeps (readFrame_leaves hframe).reads, rfl⟩
    · rename_i hframe
      cases hread
      exact ⟨hkeeps (readFrame_leaves hframe).reads, rfl⟩
  · cases hread
    exact ⟨rfl, rfl⟩

theorem send (h : Sides incoming outgoing) {role : Role} (m : Message role) (r : ρ) (s : σ) :
    m.send r (outgoing s) = ((m.send r s).1, outgoing (m.send r s).2) := by
  unfold Message.send
  simp only
  rw [h.write]
  rcases Transport.write r m.frame s with ⟨result, s'⟩
  by_cases hlong : Frame.maximumLength < m.frame.length
  · simp only [if_pos hlong]
  · simp only [if_neg hlong]
    split
    · rfl
    · split <;> rfl

theorem send_incoming (h : Sides incoming outgoing) {role : Role} (m : Message role) (r : ρ)
    (s : σ) : incoming (m.send r s).2 = incoming s := by
  have hwritten := h.write_incoming r m.frame s
  unfold Message.send
  rcases Transport.write r m.frame s with ⟨result, s'⟩
  simp only
  split
  · rfl
  · split
    · exact hwritten
    · split <;> exact hwritten

/-- **A write of a channel is a write of the outgoing side alone,** whatever is in the buffer. -/
theorem channelWrite (h : Sides incoming outgoing) {role : Role} (m : Message role)
    {c d : Channel ρ} (hd : d.connection = c.connection) (s : σ) :
    d.write m (outgoing s) = ((c.write m s).1, outgoing (c.write m s).2) := by
  unfold Channel.write
  rw [hd]
  rcases c.connection with _ | r
  · rfl
  · simp only
    rw [h.send]
    rcases m.send r s with ⟨_ | _, s'⟩
    · rfl
    · simp only
      rw [h.flush]
      split <;> rfl

theorem channelWrite_incoming (h : Sides incoming outgoing) {role : Role} (m : Message role)
    (c : Channel ρ) (s : σ) : incoming (c.write m s).2 = incoming s := by
  unfold Channel.write
  rcases c.connection with _ | r
  · rfl
  · have hsent := h.send_incoming m r s
    simp only
    generalize m.send r s = sent at hsent
    rcases sent with ⟨_ | _, s'⟩
    · exact hsent
    · have hflushed := h.flush_incoming r s'
      simp only
      split <;> exact hflushed.trans hsent

end Transport.Sides

/-! ## Runs -/

/-- A read or a write of a message. -/
inductive Transfer where
  | read (role : Role)
  | write {role : Role} (m : Message role)

/-- What came of a transfer. -/
inductive Transfer.Outcome where
  | read {role : Role} (outcome : Except ReadFailure (Message role))
  | write (outcome : Except WriteFailure Unit)

namespace Transfer

def isRead : Transfer → Bool
  | .read _ => true
  | .write _ => false

def Outcome.isRead : Outcome → Bool
  | .read _ => true
  | .write _ => false

variable {ρ σ : Type} [Transport ρ σ]

/-- Makes a transfer. A deadline counts from `start`; no result if a read waits for ever. -/
def perform (t : Transfer) (start : Instant) (c : Channel ρ) (s : σ) :
    Option (Outcome × Channel ρ × σ) :=
  match t with
  | .read role => (c.read role start s).map fun (outcome, c, s) => (.read outcome, c, s)
  | .write m =>
    let (outcome, s) := c.write m s
    some (.write outcome, c, s)

theorem perform_write {role : Role} (m : Message role) (start : Instant) (c : Channel ρ) (s : σ) :
    (Transfer.write m).perform start c s = some (.write (c.write m s).1, c, (c.write m s).2) := rfl

/-- Makes one transfer after the other. The clock tells when each of them starts. -/
def run (clock : Nat → Instant) :
    List Transfer → Channel ρ → σ → Option (List Outcome × Channel ρ × σ)
  | [], c, s => some ([], c, s)
  | t :: transfers, c, s => do
    let (outcome, c, s) ← t.perform (clock 0) c s
    let (outcomes, c, s) ← run (fun n => clock (n + 1)) transfers c s
    return (outcome :: outcomes, c, s)

variable {incoming outgoing : σ → σ}

/-- What a run comes to for its reads: their outcomes, the channel and the incoming side. -/
def readSide (incoming : σ → σ) (result : List Outcome × Channel ρ × σ) :
    List Outcome × Channel ρ × σ :=
  (result.1.filter (·.isRead), result.2.1, incoming result.2.2)

/-- What a run comes to for its writes: their outcomes and the outgoing side. -/
def writeSide (outgoing : σ → σ) (result : List Outcome × Channel ρ × σ) : List Outcome × σ :=
  (result.1.filter (!·.isRead), outgoing result.2.2)

/-- **Seen from its reads, a run is the run of the reads on the incoming side alone.** By induction
on the transfers; the clocks of the two runs have nothing to do with one another. -/
theorem run_reads (h : Transport.Sides (ρ := ρ) incoming outgoing) (clock clock' : Nat → Instant)
    (transfers : List Transfer) (c : Channel ρ) (s : σ) :
    (run clock transfers c s).map (readSide incoming)
      = run clock' (transfers.filter (·.isRead)) c (incoming s) := by
  induction transfers generalizing clock clock' c s with
  | nil => rfl
  | cons t transfers ih =>
    cases t with
    | read role =>
      rw [List.filter_cons_of_pos rfl, run, run, perform, perform,
        ← h.read role (clock 0) (clock' 0) c s]
      rcases c.read role (clock 0) s with _ | ⟨outcome, c', s'⟩
      · rfl
      · simp only [Option.map_some, seenBy_mk, Option.bind_eq_bind, Option.bind_some]
        rw [← ih (fun n => clock (n + 1))]
        rcases run (fun n => clock (n + 1)) transfers c' s' with _ | ⟨outcomes, c'', s''⟩ <;> rfl
    | write m =>
      -- The run of the reads has no such step, and the write left the incoming side to it.
      rw [List.filter_cons_of_neg Bool.false_ne_true, run, perform_write,
        ← h.channelWrite_incoming m c s, ← ih (fun n => clock (n + 1))]
      simp only [Option.bind_eq_bind, Option.bind_some]
      rcases run (fun n => clock (n + 1)) transfers c (c.write m s).2
        with _ | ⟨outcomes, c', s'⟩ <;> rfl

/-- **Seen from its writes, a run is the run of the writes on the outgoing side alone,** if it comes
to an end. The channel of that run is another one, since nothing is ever read into its buffer. -/
theorem run_writes (h : Transport.Sides (ρ := ρ) incoming outgoing) (clock clock' : Nat → Instant)
    {transfers : List Transfer} {c d : Channel ρ} (hd : d.connection = c.connection) {s : σ}
    {result : List Outcome × Channel ρ × σ} (hrun : run clock transfers c s = some result) :
    run clock' (transfers.filter (!·.isRead)) d (outgoing s)
      = some ((writeSide outgoing result).1, d, (writeSide outgoing result).2) := by
  induction transfers generalizing clock clock' c s result with
  | nil =>
    cases hrun
    rfl
  | cons t transfers ih =>
    rw [run] at hrun
    obtain ⟨⟨outcome, c', s'⟩, hfirst, hrun⟩ := Option.bind_eq_some_iff.mp hrun
    obtain ⟨⟨outcomes, c'', s''⟩, hrest, hresult⟩ := Option.bind_eq_some_iff.mp hrun
    cases hresult
    cases t with
    | read role =>
      obtain ⟨⟨outcome, c₁, s₁⟩, hread, heq⟩ := Option.map_eq_some_iff.mp hfirst
      cases heq
      -- The run of the writes has no such step, and the read left the outgoing side to it.
      obtain ⟨hkept, hconnection⟩ := h.read_outgoing hread
      rw [List.filter_cons_of_neg Bool.false_ne_true, ← hkept]
      exact (ih _ clock' (hd.trans hconnection.symm) hrest).trans rfl
    | write m =>
      rw [perform_write] at hfirst
      cases hfirst
      rw [List.filter_cons_of_pos rfl, run, perform_write, h.channelWrite m hd]
      simp only [Option.bind_eq_bind, Option.bind_some]
      rw [ih _ (fun n => clock' (n + 1)) hd hrest]
      rfl

/-- Writes wait for nothing, and leave the channel as it is. -/
theorem run_of_writes (clock : Nat → Instant) (transfers : List Transfer)
    (hwrites : ∀ t ∈ transfers, t.isRead = false) (c : Channel ρ) (s : σ) :
    ∃ outcomes s', run clock transfers c s = some (outcomes, c, s') := by
  induction transfers generalizing clock s with
  | nil => exact ⟨[], s, rfl⟩
  | cons t transfers ih =>
    obtain ⟨hfirst, hrest⟩ := List.forall_mem_cons.mp hwrites
    cases t with
    | read role => exact nomatch hfirst
    | write m =>
      obtain ⟨outcomes, s', hrun⟩ := ih (fun n => clock (n + 1)) hrest (c.write m s).2
      refine ⟨.write (c.write m s).1 :: outcomes, s', ?_⟩
      rw [run, perform_write]
      simp only [Option.bind_eq_bind, Option.bind_some]
      rw [hrun]
      rfl

/-- How the reads and the writes of a run get on without one another: the run of the reads waits
for ever if the whole run does, and else comes to the same for its reads; and the run of the writes
comes to the same for its writes. -/
structure Apart (incoming outgoing : σ → σ) (transfers : List Transfer) (c : Channel ρ) (s : σ) :
    Prop where
  reads : ∀ clock clock', (run clock transfers c s).map (readSide incoming)
    = (run clock' (transfers.filter (·.isRead)) c s).map (readSide incoming)
  writes : ∀ clock clock', ∃ alone, run clock' (transfers.filter (!·.isRead)) c s = some alone
    ∧ ∀ result, run clock transfers c s = some result →
      writeSide outgoing result = writeSide outgoing alone

theorem apart_of_sides (h : Transport.Sides (ρ := ρ) incoming outgoing) (transfers : List Transfer)
    (c : Channel ρ) (s : σ) : Apart incoming outgoing transfers c s := by
  constructor
  · intro clock clock'
    rw [run_reads h clock clock', run_reads h clock' clock', List.filter_filter]
    simp only [Bool.and_self]
  · intro clock clock'
    obtain ⟨outcomes, s', halone⟩ :=
      run_of_writes clock' (transfers.filter (!·.isRead)) (by simp) c s
    refine ⟨_, halone, ?_⟩
    intro result hrun
    -- Both runs come to the run of the writes on the outgoing side alone.
    have hwhole := run_writes h clock clock' rfl hrun
    have hwrites := run_writes h clock' clock' rfl halone
    rw [List.filter_filter] at hwrites
    simp only [Bool.and_self] at hwrites
    obtain ⟨houtcomes, hstate⟩ := Prod.mk.inj (Option.some.inj (hwhole.symm.trans hwrites))
    exact Prod.ext houtcomes (Prod.mk.inj hstate).2

end Transfer

/-! ## The sides of scripts and of connections in memory -/

namespace Script

/-- All of a script but its results of writes and flushes and what was written. -/
def unwritable (t : Script) : Script :=
  { t with writes := [], flushes := [], written := [], flushCount := 0 }

theorem unwritable_readSome (room : Nat) (t : Script) :
    t.unwritable.readSome room = ((t.readSome room).1, (t.readSome room).2.unwritable) := by
  have hreads : t.unwritable.reads = t.reads := rfl
  unfold readSome
  rw [hreads]
  split
  · rfl
  · rfl
  · split <;> rfl

theorem sides : Transport.Sides unwritable unreadable where
  readSome _ room _ _ t _ := congrArg some (unwritable_readSome room t).symm
  readSome_outgoing _ room _ t d t' hread := by
    have hread : t.readSome room = (d, t') := Option.some.inj hread
    have hkept := unreadable_readSome room t
    rwa [hread] at hkept
  write _ _ _ := rfl
  write_incoming _ _ _ := rfl
  flush _ _ := rfl
  flush_incoming _ _ := rfl

end Script

namespace Memory

/-- What is there to be read, and what reads report without it. -/
def incoming (m : Memory) : Memory :=
  { m with pending := [], written := [], writeFailure := none, flushes := 0, outputClosed := false }

/-- What was written, and what is set for writes. -/
def outgoing (m : Memory) : Memory :=
  { m with unread := [], readFailure := none, inputEnded := false, inputClosed := false }

theorem incoming_readSome (room : Nat) {deadline deadline' : Deadline}
    (hdeadline : deadline.isSome = deadline'.isSome) (m : Memory) :
    (m.readSome room deadline).map (fun (d, m') => (d, m'.incoming))
      = m.incoming.readSome room deadline' := by
  unfold readSome incoming
  simp only
  split
  · rfl
  · split
    · rfl
    · split
      · rfl
      · split
        · rfl
        · cases deadline <;> cases deadline'
          · rfl
          · exact nomatch hdeadline
          · exact nomatch hdeadline
          · rfl

theorem outgoing_write (data : List UInt8) (m : Memory) :
    m.outgoing.write data = ((m.write data).1, (m.write data).2.outgoing)
      ∧ (m.write data).2.incoming = m.incoming := by
  unfold write outgoing
  simp only
  split
  · exact ⟨rfl, rfl⟩
  · split <;> exact ⟨rfl, rfl⟩

theorem outgoing_flush (m : Memory) :
    m.outgoing.flush = (m.flush.1, m.flush.2.outgoing) ∧ m.flush.2.incoming = m.incoming := by
  unfold flush outgoing
  simp only
  split <;> exact ⟨rfl, rfl⟩

theorem sides : Transport.Sides incoming outgoing where
  readSome _ room _ _ m hdeadline := incoming_readSome room hdeadline m
  readSome_outgoing _ room _ m _ m' hread := by
    rw [(readSome_takes hread).2]
    rfl
  write _ data m := (outgoing_write data m).1
  write_incoming _ data m := (outgoing_write data m).2
  flush _ m := (outgoing_flush m).1
  flush_incoming _ m := (outgoing_flush m).2

end Memory

/-- **Reading and writing on one channel do not interfere.** Of any reads and writes of a channel
over a script or a connection in memory, failing ones included, the reads come to what they come to
without the writes, and the writes to what they come to without the reads. -/
theorem Transfer.transfers_independent (transfers : List Transfer) (c : Channel Unit) :
    (∀ s : Script, Apart Script.unwritable Script.unreadable transfers c s)
      ∧ ∀ m : Memory, Apart Memory.incoming Memory.outgoing transfers c m :=
  ⟨apart_of_sides Script.sides transfers c, apart_of_sides Memory.sides transfers c⟩

set_option maxRecDepth 4000 in
/-- The first write fails and the second one is flushed; the read between them takes its frame from
two items, and the one behind them finds the end of the stream. -/
theorem Transfer.transfers_independent_interleaved :
    let s : Script :=
      { reads := [.data [0, 1, 0], .data [0, 0, 6, 0x11, 3, 0, 0x6B, 0, 3]]
        writes := [{ status := .error, error := .brokenPipe }] }
    let c : Channel Unit := ({} : Channel Unit).attach ()
    let m : Message .response := .exceptionResponse 3 ExceptionCode.illegalDataValue
    let transfers : List Transfer := [.write m, .read .request, .write m, .read .response]
    (run (fun _ => ⟨0⟩) transfers c s).map (fun (_, _, s) => (s.reads, s.written, s.flushCount))
        = some ([], [0, 0, 0, 0, 0, 3, 0, 0x83, 3], 1)
      ∧ Apart Script.unwritable Script.unreadable transfers c s := by
  intro s c m transfers
  exact ⟨by cbv, (transfers_independent transfers c).1 s⟩

end ModbusTcp
