import Mathlib.Logic.Basic
import ModbusTcp.Proofs.History
import ModbusTcp.Transport.Memory

/-!
A connection in memory (`MemoryConnection`) is a pair of queues that lose nothing.

Bytes that arrive wait to be read, and bytes that are written wait to be flushed. Over any history
that begins with a fresh connection, what was read and what still waits are together what arrived,
and what was sent and what is pending are together what was written (`Balanced`). Bytes are sent by
a flush or by the first closing of the output and by nothing else (`Moves`), a refused call moves
none (`Unmoved`), and what a read gives follows from the past and the bytes that wait (`Reading`).
The main statement is `queues_of_history`.

All of it rests on `Tracks`, which says how the fields of the connection come from its past, and on
`changes_of_happens`, which says of every single step what it does to the queues and the flags.
-/

set_option autoImplicit false

namespace ModbusTcp.Memory

open History

/-- What the other side of a connection in memory does to it, and what is set from outside. -/
inductive Outside where
  | append (data : List UInt8)
  | endInput
  | failReads (status : IoStatus) (error : Errno)
  | failWrites (error : Errno)
  | failCloses (error : Errno)
  deriving DecidableEq, Repr

/-- What that does to the connection. -/
def Outside.affect : Outside → Memory → Memory
  | .append data, m => m.append data
  | .endInput, m => m.endInput
  | .failReads status error, m => m.failReads status error
  | .failWrites error, m => m.failWrites error
  | .failCloses error, m => m.failCloses error

/-- An entry of the history of a connection in memory. -/
abbrev Entry := History.Entry Unit Outside Memory

/-! ## The past -/

/-- What a step adds to the past of a connection. -/
structure Effect where
  /-- Bytes that a read handed over. -/
  delivered : List UInt8 := []
  /-- Bytes that arrived. -/
  arrived : List UInt8 := []
  /-- Bytes that a write took. -/
  accepted : List UInt8 := []
  closesInput : Bool := false
  closesOutput : Bool := false
  endsInput : Bool := false
  /-- A failure of reads. -/
  injected : Option IoResult := none

/-- What a step adds. A call that fails adds nothing. -/
def effect (e : Entry) : Effect :=
  match e.step with
  | .outside (.append data) => { arrived := data }
  | .outside .endInput => { endsInput := true }
  | .outside (.failReads status error) => { injected := some { status, error } }
  | .outside (.failWrites _) | .outside (.failCloses _) => {}
  | .call c =>
    if e.reply.result.isOk then
      match c with
      | .readSome .. => { delivered := e.reply.data }
      | .write _ data => { accepted := data }
      | .flush _ => {}
      | .closeInput _ => { closesInput := true }
      | .closeOutput _ => { closesOutput := true }
      | .close _ => { closesInput := true, closesOutput := true }
    else {}

/-- All bytes that reads handed over. -/
def delivered (past : List Entry) : List UInt8 := past.flatMap fun e => (effect e).delivered

/-- All bytes that arrived. -/
def arrived (past : List Entry) : List UInt8 := past.flatMap fun e => (effect e).arrived

/-- All bytes that writes took. -/
def accepted (past : List Entry) : List UInt8 := past.flatMap fun e => (effect e).accepted

/-- Whether the input was closed, alone or with the connection. -/
def InputClosed (past : List Entry) : Prop := ∃ e ∈ past, (effect e).closesInput = true

/-- Whether the output was closed, alone or with the connection. -/
def OutputClosed (past : List Entry) : Prop := ∃ e ∈ past, (effect e).closesOutput = true

/-- Whether the peer ended the input. -/
def InputEnded (past : List Entry) : Prop := ∃ e ∈ past, (effect e).endsInput = true

/-- The failure of reads that was set last. -/
def injected (past : List Entry) : Option IoResult :=
  (past.filterMap fun e => (effect e).injected).getLast?

/-- Whether a step sends the pending bytes: a flush does, and closing the output if it was not
`closed` before. -/
def Sends (closed : Prop) (e : Entry) : Prop :=
  e.reply.result.isOk = true
    ∧ (e.step = .call (.flush ()) ∨ e.step = .call (.closeOutput ()) ∧ ¬ closed)

/-! ## Reads -/

section Reads

variable {m m' : Memory} {room : Nat} {deadline : Deadline}

theorem readSome_of_closed (h : m.inputClosed = true) :
    m.readSome room deadline = some (.ofResult .ended, m) := by
  unfold readSome
  rw [if_pos h]

theorem readSome_of_unread (h : m.inputClosed = false) (hunread : m.unread ≠ []) :
    m.readSome room deadline
      = some (.ofBytes (m.unread.take room), { m with unread := m.unread.drop room }) := by
  unfold readSome
  simp [h, hunread]

theorem readSome_of_failure (h : m.inputClosed = false) (hunread : m.unread = [])
    {failure : IoResult} (hfailure : m.readFailure = some failure) :
    m.readSome room deadline = some (.ofResult failure, m) := by
  unfold readSome
  simp [h, hunread, hfailure]

theorem readSome_of_ended (h : m.inputClosed = false) (hunread : m.unread = [])
    (hfailure : m.readFailure = none) (hended : m.inputEnded = true) :
    m.readSome room deadline = some (.ofResult .ended, m) := by
  unfold readSome
  simp [h, hunread, hfailure, hended]

theorem readSome_of_idle (h : m.inputClosed = false) (hunread : m.unread = [])
    (hfailure : m.readFailure = none) (hended : m.inputEnded = false) :
    m.readSome room deadline = deadline.map fun _ => (.ofResult .expired, m) := by
  unfold readSome
  cases deadline <;> simp [h, hunread, hfailure, hended]

/-- A read waits for ever if it has no deadline and there is nothing to report. -/
theorem readSome_eq_none (h : m.readSome room deadline = none) :
    deadline = none ∧ m.inputClosed = false ∧ m.unread = [] ∧ m.readFailure = none
      ∧ m.inputEnded = false := by
  have hopen : m.inputClosed = false := by
    rcases hclosed : m.inputClosed with _ | _
    · rfl
    · rw [readSome_of_closed hclosed] at h
      exact nomatch h
  have hunread : m.unread = [] := by
    refine Decidable.byContradiction fun hunread => ?_
    rw [readSome_of_unread hopen hunread] at h
    exact nomatch h
  have hfailure : m.readFailure = none := by
    rcases hfailure : m.readFailure with _ | failure
    · rfl
    · rw [readSome_of_failure hopen hunread hfailure] at h
      exact nomatch h
  have hended : m.inputEnded = false := by
    rcases hended : m.inputEnded with _ | _
    · rfl
    · rw [readSome_of_ended hopen hunread hfailure hended] at h
      exact nomatch h
  rw [readSome_of_idle hopen hunread hfailure hended] at h
  exact ⟨Option.map_eq_none_iff.mp h, hopen, hunread, hfailure, hended⟩

/-- A read takes what it hands over from the front of the bytes that wait, and changes nothing
else. -/
theorem readSome_takes {d : Delivery} (h : m.readSome room deadline = some (d, m')) :
    (if d.result.isOk then d.data else []) ++ m'.unread = m.unread
      ∧ m' = { m with unread := m'.unread } := by
  unfold readSome at h
  split at h
  · cases h
    exact ⟨rfl, rfl⟩
  · split at h
    · cases h
      exact ⟨List.take_append_drop room m.unread, rfl⟩
    · split at h
      · -- A failure that was set may be a success, but it comes without bytes.
        cases h
        refine ⟨?_, rfl⟩
        split <;> rfl
      · split at h
        · cases h
          exact ⟨rfl, rfl⟩
        · split at h
          · cases h
            exact ⟨rfl, rfl⟩
          · exact nomatch h

end Reads

/-! ## Writes, flushes and closings -/

section Writes

variable (m : Memory)

theorem write_cases (data : List UInt8) :
    m.write data = (.transferred data.length, { m with pending := m.pending ++ data })
      ∨ ∃ error, m.write data = (.failed error, m) := by
  unfold write
  split
  · exact .inr ⟨_, rfl⟩
  · split
    · exact .inr ⟨_, rfl⟩
    · exact .inl rfl

theorem flush_cases :
    m.flush = (.transferred m.pending.length, { m.drain with flushes := m.flushes + 1 })
      ∨ ∃ error, m.flush = (.failed error, m) := by
  unfold flush
  split
  · exact .inr ⟨_, rfl⟩
  · exact .inl rfl

/-- A call of a close operation is counted in any case. -/
theorem closing_cases (effect : Memory → Memory) :
    m.closing effect = ({}, effect { m with closeCalls := m.closeCalls + 1 })
      ∨ ∃ error, m.closing effect
        = (.failed error, { m with closeCalls := m.closeCalls + 1 }) := by
  unfold closing
  simp only
  split
  · exact .inr ⟨_, rfl⟩
  · exact .inl rfl

end Writes

/-! ## One step -/

/-- **What a step does,** said of its entry: each queue passes on what it was given, and each flag
is raised by the steps that raise it and never lowered. -/
structure Changes (e : Entry) : Prop where
  incoming : (effect e).delivered ++ e.after.unread = e.before.unread ++ (effect e).arrived
  sent : Sends (e.before.outputClosed = true) e →
    e.after.written = e.before.written ++ e.before.pending ∧ e.after.pending = []
      ∧ (effect e).accepted = []
  counted : e.step = .call (.flush ()) → e.reply.result.isOk = true →
    e.reply.result.bytes = e.before.pending.length
  kept : ¬ Sends (e.before.outputClosed = true) e →
    e.after.written = e.before.written ∧ e.after.pending = e.before.pending ++ (effect e).accepted
  inputClosed : e.after.inputClosed = (e.before.inputClosed || (effect e).closesInput)
  outputClosed : e.after.outputClosed = (e.before.outputClosed || (effect e).closesOutput)
  inputEnded : e.after.inputEnded = (e.before.inputEnded || (effect e).endsInput)
  readFailure : e.after.readFailure = (effect e).injected.or e.before.readFailure

section Refused

variable {e : Entry} {c : Call Unit}

theorem effect_of_refused (hcall : e.step = .call c) (hrefused : e.reply.result.isOk = false) :
    effect e = {} := by
  unfold effect
  simp [hcall, hrefused]

theorem not_sends_of_refused (hrefused : e.reply.result.isOk = false) (closed : Prop) :
    ¬ Sends closed e := by
  rintro ⟨hok, -⟩
  rw [hrefused] at hok
  exact nomatch hok

/-- A call that fails changes neither queue and no flag; it may be counted. -/
theorem Changes.of_refused (hcall : e.step = .call c) (hrefused : e.reply.result.isOk = false)
    {closeCalls : Nat} (hafter : e.after = { e.before with closeCalls }) : Changes e := by
  have heffect := effect_of_refused hcall hrefused
  constructor
  · simp [heffect, hafter]
  · exact fun hsends => absurd hsends (not_sends_of_refused hrefused _)
  · intro _ hok
    rw [hrefused] at hok
    exact nomatch hok
  all_goals simp [heffect, hafter]

end Refused

theorem changes_of_happens {e : Entry} (h : e.Happens Outside.affect) : Changes e := by
  obtain ⟨step, m, reply, m'⟩ := e
  simp only [History.Entry.Happens, Step.perform] at h
  cases step with
  | outside event =>
    cases h
    cases event <;> constructor <;>
      simp [effect, Sends, Outside.affect, append, endInput, failReads, failWrites, failCloses]
  | call c =>
    cases c with
    | readSome r room deadline =>
      obtain ⟨htaken, hkept⟩ := readSome_takes h
      rcases hok : reply.result.isOk with _ | _
      · rw [hok, if_neg Bool.false_ne_true, List.nil_append] at htaken
        exact .of_refused rfl hok (by rw [hkept, htaken])
      · rw [hok, if_pos rfl] at htaken
        rw [hkept]
        constructor <;> simp [effect, Sends, hok, htaken]
    | write r data =>
      simp only [Call.perform, Transport.write] at h
      rcases m.write_cases data with hwrite | ⟨error, hwrite⟩ <;> rw [hwrite] at h <;> cases h
      · constructor <;>
          simp [effect, Sends, Delivery.ofResult, IoResult.isOk, IoResult.transferred]
      · exact .of_refused rfl rfl rfl
    | flush r =>
      simp only [Call.perform, Transport.flush] at h
      rcases m.flush_cases with hflush | ⟨error, hflush⟩ <;> rw [hflush] at h <;> cases h
      · constructor <;>
          simp [effect, Sends, Delivery.ofResult, IoResult.isOk, IoResult.transferred, drain]
      · exact .of_refused rfl rfl rfl
    | closeInput r =>
      simp only [Call.perform, Transport.closeInput, closeInput] at h
      rcases m.closing_cases _ with hclose | ⟨error, hclose⟩ <;> rw [hclose] at h <;> cases h
      · constructor <;> simp [effect, Sends, Delivery.ofResult, IoResult.isOk]
      · exact .of_refused rfl rfl rfl
    | closeOutput r =>
      simp only [Call.perform, Transport.closeOutput, closeOutput] at h
      rcases m.closing_cases _ with hclose | ⟨error, hclose⟩ <;> rw [hclose] at h <;> cases h
      · -- Pending bytes stay where they are if the output was closed before.
        by_cases hclosed : m.outputClosed = true <;> constructor <;>
          simp [effect, Sends, Delivery.ofResult, IoResult.isOk, drain, hclosed]
      · exact .of_refused rfl rfl rfl
    | close r =>
      simp only [Call.perform, Transport.close, close] at h
      rcases m.closing_cases _ with hclose | ⟨error, hclose⟩ <;> rw [hclose] at h <;> cases h
      · constructor <;> simp [effect, Sends, Delivery.ofResult, IoResult.isOk]
      · exact .of_refused rfl rfl rfl

/-! ## Runs -/

/-- How a connection comes from its past. -/
structure Tracks (past : List Entry) (m : Memory) : Prop where
  incoming : delivered past ++ m.unread = arrived past
  outgoing : m.written ++ m.pending = accepted past
  inputClosed : m.inputClosed = true ↔ InputClosed past
  outputClosed : m.outputClosed = true ↔ OutputClosed past
  inputEnded : m.inputEnded = true ↔ InputEnded past
  readFailure : m.readFailure = injected past

theorem tracks_fresh : Tracks [] {} := by
  constructor <;>
    simp [delivered, arrived, accepted, InputClosed, OutputClosed, InputEnded, injected]

/-- The connection behind a step comes from the past and that step. -/
theorem Tracks.step {past : List Entry} {e : Entry} (h : Tracks past e.before)
    (he : e.Happens Outside.affect) : Tracks (past ++ [e]) e.after := by
  have hchanges := changes_of_happens he
  -- A flag that is raised by some steps is up if one of them was in the past or is the last.
  have hraised : ∀ (p : Entry → Bool) (before after : Bool),
      (before = true ↔ ∃ e ∈ past, p e = true) → after = (before || p e) →
      (after = true ↔ ∃ e' ∈ past ++ [e], p e' = true) := by
    intro p before after hbefore hafter
    simp only [hafter, Bool.or_eq_true, hbefore, List.mem_append, List.mem_singleton, or_and_right,
      exists_or, exists_eq_left]
  constructor
  · rw [delivered, arrived, List.flatMap_append, List.flatMap_append, List.flatMap_singleton,
      List.flatMap_singleton, List.append_assoc, hchanges.incoming, ← List.append_assoc]
    exact congrArg (· ++ _) h.incoming
  · rw [accepted, List.flatMap_append, List.flatMap_singleton]
    have houtgoing : e.before.written ++ e.before.pending
        = past.flatMap fun e => (effect e).accepted := h.outgoing
    by_cases hsends : Sends (e.before.outputClosed = true) e
    · obtain ⟨hwritten, hpending, haccepted⟩ := hchanges.sent hsends
      rw [hwritten, hpending, haccepted, houtgoing]
    · obtain ⟨hwritten, hpending⟩ := hchanges.kept hsends
      rw [hwritten, hpending, ← List.append_assoc, houtgoing]
  · exact hraised (fun e => (effect e).closesInput) _ _ h.inputClosed hchanges.inputClosed
  · exact hraised (fun e => (effect e).closesOutput) _ _ h.outputClosed hchanges.outputClosed
  · exact hraised (fun e => (effect e).endsInput) _ _ h.inputEnded hchanges.inputEnded
  · have hfailure : e.before.readFailure
        = (past.filterMap fun e => (effect e).injected).getLast? := h.readFailure
    rw [injected, List.filterMap_append, hchanges.readFailure, hfailure]
    rcases hinjected : (effect e).injected with _ | failure
    · simp [hinjected]
    · simp [hinjected]

/-! ## The two queues -/

/-- What has come through a connection, and what is still in it. -/
structure Balanced (past : List Entry) (m : Memory) : Prop where
  incoming : delivered past ++ m.unread = arrived past
  outgoing : m.written ++ m.pending = accepted past

/-- How bytes move from the pending ones to the written ones. -/
structure Moves (past : List Entry) (e : Entry) : Prop where
  /-- Sending empties the pending bytes. -/
  sent : Sends (OutputClosed past) e →
    e.after.written = e.before.written ++ e.before.pending ∧ e.after.pending = []
  counted : e.step = .call (.flush ()) → e.reply.result.isOk = true →
    e.reply.result.bytes = e.before.pending.length
  /-- No other step sends, and a write only adds to the pending bytes. -/
  kept : ¬ Sends (OutputClosed past) e →
    e.after.written = e.before.written ∧ e.after.pending = e.before.pending ++ (effect e).accepted

/-- Nothing moves in either queue. -/
structure Unmoved (e : Entry) : Prop where
  unread : e.after.unread = e.before.unread
  pending : e.after.pending = e.before.pending
  written : e.after.written = e.before.written

/-- What a read gives: bytes as long as there are some, whatever else is set; then the failure that
was set last, then the end of the input, and nothing until the deadline if there is none of this. A
closed input hides it all. -/
structure Reading (past : List Entry) (room : Nat) (deadline : Deadline) (e : Entry) : Prop where
  closed : InputClosed past → e.reply = .ofResult .ended
  buffered : ¬ InputClosed past → e.before.unread ≠ [] →
    e.reply.result = .transferred (min room e.before.unread.length)
      ∧ e.reply.data = e.before.unread.take room ∧ e.after.unread = e.before.unread.drop room
  failed : ¬ InputClosed past → e.before.unread = [] → ∀ failure, injected past = some failure →
    e.reply = .ofResult failure
  ended : ¬ InputClosed past → e.before.unread = [] → injected past = none → InputEnded past →
    e.reply = .ofResult .ended
  expired : ¬ InputClosed past → e.before.unread = [] → injected past = none → ¬ InputEnded past →
    deadline.isSome ∧ e.reply = .ofResult .expired

/-- What holds of an entry behind its past. -/
structure Queued (past : List Entry) (e : Entry) : Prop where
  balanced : Balanced (past ++ [e]) e.after
  moves : Moves past e
  refused : e.reply.result.isOk = false → Unmoved e
  reading : ∀ r room deadline, e.step = .call (.readSome r room deadline) →
    Reading past room deadline e

theorem Tracks.balanced {past : List Entry} {m : Memory} (h : Tracks past m) : Balanced past m :=
  ⟨h.incoming, h.outgoing⟩

theorem Tracks.moves {past : List Entry} {e : Entry} (h : Tracks past e.before)
    (he : e.Happens Outside.affect) : Moves past e := by
  have hchanges := changes_of_happens he
  -- The flag and the past say the same about the output.
  have hclosed : (e.before.outputClosed = true) = OutputClosed past := propext h.outputClosed
  constructor
  · intro hsends
    rw [← hclosed] at hsends
    obtain ⟨hwritten, hpending, -⟩ := hchanges.sent hsends
    exact ⟨hwritten, hpending⟩
  · exact hchanges.counted
  · rw [← hclosed]
    exact hchanges.kept

theorem unmoved_of_refused {e : Entry} (he : e.Happens Outside.affect)
    (hrefused : e.reply.result.isOk = false) : Unmoved e := by
  have hchanges := changes_of_happens he
  -- Only calls can be refused.
  have hcall : ∃ c, e.step = .call c := by
    rcases hstep : e.step with c | event
    · exact ⟨c, rfl⟩
    · rw [History.Entry.Happens, hstep] at he
      rw [← (Prod.mk.inj (Option.some.inj he)).1] at hrefused
      exact nomatch hrefused
  obtain ⟨c, hcall⟩ := hcall
  have heffect := effect_of_refused hcall hrefused
  have hincoming := hchanges.incoming
  obtain ⟨hwritten, hpending⟩ := hchanges.kept (not_sends_of_refused hrefused _)
  rw [heffect, List.nil_append, List.append_nil] at hincoming
  rw [heffect, List.append_nil] at hpending
  exact ⟨hincoming, hpending, hwritten⟩

theorem Tracks.reading {past : List Entry} {e : Entry} (h : Tracks past e.before)
    (he : e.Happens Outside.affect) {r : Unit} {room : Nat} {deadline : Deadline}
    (hread : e.step = .call (.readSome r room deadline)) : Reading past room deadline e := by
  obtain ⟨step, m, reply, m'⟩ := e
  obtain rfl : step = .call (.readSome r room deadline) := hread
  have hreply : m.readSome room deadline = some (reply, m') := he
  have hopen : ¬ InputClosed past → m.inputClosed = false := fun hopen =>
    Bool.eq_false_iff.mpr (mt h.inputClosed.mp hopen)
  constructor
  · intro hclosed
    have hclosed : m.inputClosed = true := h.inputClosed.mpr hclosed
    rw [readSome_of_closed hclosed] at hreply
    cases hreply
    rfl
  · intro hclosed hunread
    rw [readSome_of_unread (hopen hclosed) hunread] at hreply
    cases hreply
    refine ⟨?_, rfl, rfl⟩
    exact congrArg IoResult.transferred List.length_take
  · intro hclosed hunread failure hfailure
    rw [← h.readFailure] at hfailure
    rw [readSome_of_failure (hopen hclosed) hunread hfailure] at hreply
    cases hreply
    rfl
  · intro hclosed hunread hfailure hended
    rw [← h.readFailure] at hfailure
    rw [readSome_of_ended (hopen hclosed) hunread hfailure (h.inputEnded.mpr hended)] at hreply
    cases hreply
    rfl
  · intro hclosed hunread hfailure hended
    rw [← h.readFailure] at hfailure
    have hended : m.inputEnded = false := Bool.eq_false_iff.mpr (mt h.inputEnded.mp hended)
    rw [readSome_of_idle (hopen hclosed) hunread hfailure hended, Option.map_eq_some_iff] at hreply
    obtain ⟨t, hdeadline, hreply⟩ := hreply
    cases hreply
    exact ⟨Option.isSome_iff_exists.mpr ⟨t, hdeadline⟩, rfl⟩

/-- The history of a fresh connection. -/
def history (steps : List (History.Step Unit Outside)) : List Entry :=
  entries Outside.affect steps {}

/-- **A connection in memory is a pair of queues that lose nothing.** Of every step of every history
of a fresh connection `Queued` holds; and the history goes on until a read without a deadline finds
nothing: no byte, no failure, no end and no closed input. -/
theorem queues_of_history (steps : List (History.Step Unit Outside)) :
    (∀ front e back, history steps = front ++ e :: back → Queued front e)
      ∧ Balanced (history steps) (behind (history steps) {})
      ∧ ((history steps).map (·.step) = steps
        ∨ ∃ room back,
          steps = (history steps).map (·.step) ++ .call (.readSome () room none) :: back
          ∧ (behind (history steps) {}).unread = [] ∧ ¬ InputClosed (history steps)
          ∧ injected (history steps) = none ∧ ¬ InputEnded (history steps)) := by
  -- The induction is on the history, with `Tracks` as what every step keeps.
  have hstep : ∀ past e, Tracks past e.before → e.Happens Outside.affect →
      Tracks (past ++ [e]) e.after := fun _ _ h he => h.step he
  have hbehind : Tracks (history steps) (behind (history steps) {}) :=
    keeps_behind hstep tracks_fresh steps
  refine ⟨?_, hbehind.balanced, ?_⟩
  · intro front e back hfront
    obtain ⟨he, hbefore, hafter⟩ := keeps_at hstep tracks_fresh hfront
    exact ⟨hafter.balanced, hbefore.moves he, unmoved_of_refused he,
      fun r room deadline => hbefore.reading he⟩
  · rcases complete_or_waits steps ({} : Memory) with hall | hwaits
    · exact .inl hall
    · obtain ⟨front, r, room, deadline, back, hsteps, hfront, hwait⟩ := hwaits
      obtain ⟨rfl, hopen, hunread, hfailure, hended⟩ := readSome_eq_none hwait
      refine .inr ⟨room, back, hfront ▸ hsteps, hunread, ?_, ?_, ?_⟩
      · exact fun h => Bool.eq_false_iff.mp hopen (hbehind.inputClosed.mpr h)
      · exact hbehind.readFailure ▸ hfailure
      · exact fun h => Bool.eq_false_iff.mp hended (hbehind.inputEnded.mpr h)

/-- Two of three bytes are read, one of two written ones is flushed, and the other goes out with the
closing of the output. The failure of reads waits until the third byte is read. -/
theorem queues_of_history_run :
    ∃ past, past = history [.outside (.append [1, 2, 3]), .outside (.failReads .error .ioError),
        .call (.readSome () 2 none), .call (.write () [7]), .call (.flush ()),
        .call (.write () [8]), .call (.closeOutput ()), .call (.write () [9]),
        .call (.readSome () 2 none), .call (.readSome () 2 none)]
      ∧ (past.getLast?.map fun e => (e.reply, e.after.written))
        = some (.ofResult (.failed .ioError), [7, 8])
      ∧ delivered past = [1, 2, 3] ∧ accepted past = [7, 8]
      ∧ ∀ front e back, past = front ++ e :: back → Queued front e :=
  ⟨_, rfl, by decide, by decide, by decide, (queues_of_history _).1⟩

end ModbusTcp.Memory
