import ModbusTcp.Proofs.Independence
import ModbusTcp.Proofs.Sending

/-!
Closing is permanent, one-sided and idempotent.

Of a connection in memory and of a socket the same is said (`Lasting`), over any history of a fresh
one, by the calls of the past alone: whether the input, the output or the whole connection was to be
closed (`CloseInput`, `CloseOutput`, `Close`), whatever came of it. Reads then report the end of the
stream, writes and flushes fail and nothing is queued or sent, the connection is not open, a closing
leaves the other side alone, and one that repeats another succeeds and does nothing.

The two keep different flags, and only one of them has a kernel below. What a single step does to
the flags, and what it does where they are raised, is `Sealed`. There is one lemma of this kind for
each operation of either connection; from there on the argument is the same for both
(`lasting_of_sealed`). The main statement is `closing_lasts`.
-/

set_option autoImplicit false

namespace ModbusTcp

namespace History

variable {ε σ : Type}

/-! ## What was to be closed -/

/-- Whether a step is to close the input, alone or with the connection. -/
@[simp] def Step.shutsInput : Step Unit ε → Bool
  | .call (.closeInput _) | .call (.close _) => true
  | _ => false

/-- Whether a step is to close the output, alone or with the connection. -/
@[simp] def Step.shutsOutput : Step Unit ε → Bool
  | .call (.closeOutput _) | .call (.close _) => true
  | _ => false

/-- Whether a step is to close the connection. -/
@[simp] def Step.shutsAll : Step Unit ε → Bool
  | .call (.close _) => true
  | _ => false

/-- Whether a step is a write or a flush. -/
@[simp] def Step.isOutput : Step Unit ε → Bool
  | .call (.write ..) | .call (.flush _) => true
  | _ => false

def InputShut (past : List (Entry Unit ε σ)) : Prop := ∃ e ∈ past, e.step.shutsInput = true

def OutputShut (past : List (Entry Unit ε σ)) : Prop := ∃ e ∈ past, e.step.shutsOutput = true

def Shut (past : List (Entry Unit ε σ)) : Prop := ∃ e ∈ past, e.step.shutsAll = true

/-- Whether a step closes again what was closed before. -/
def Repeats (past : List (Entry Unit ε σ)) : Step Unit ε → Prop
  | .call (.closeInput _) => InputShut past
  | .call (.closeOutput _) => OutputShut past
  | .call (.close _) => Shut past
  | _ => False

/-- Closing the connection closes both of its sides. -/
theorem Shut.sides {past : List (Entry Unit ε σ)} (h : Shut past) :
    InputShut past ∧ OutputShut past := by
  obtain ⟨e, he, hshuts⟩ := h
  unfold Step.shutsAll at hshuts
  split at hshuts
  · rename_i hstep
    exact ⟨⟨e, he, by rw [hstep]; rfl⟩, ⟨e, he, by rw [hstep]; rfl⟩⟩
  · exact nomatch hshuts

/-! ## What closing comes to -/

/-- What there is to see of a connection: its flags, its two sides, all of it but what only counts
calls, and the bytes that are queued and those that were sent. -/
structure Aspects (σ α β γ : Type) where
  inputClosed : σ → Bool
  outputClosed : σ → Bool
  incoming : σ → α
  outgoing : σ → β
  whole : σ → γ
  queued : σ → List UInt8
  sent : σ → List UInt8

variable {α β γ : Type} [Transport Unit σ] {v : Aspects σ α β γ}

/-- **What closing comes to,** said of an entry and its past. -/
structure Lasting (v : Aspects σ α β γ) (past : List (Entry Unit ε σ)) (e : Entry Unit ε σ) :
    Prop where
  /-- Reads report the end of the stream. -/
  ended : InputShut past → ∀ r room deadline, e.step = .call (.readSome r room deadline) →
    e.reply = .ofResult .ended
  /-- Writes and flushes fail. -/
  refused : OutputShut past → e.step.isOutput = true → e.reply.result.isOk = false
  /-- Nothing is queued or sent, whatever happens. -/
  silent : OutputShut past →
    v.queued e.after = v.queued e.before ∧ v.sent e.after = v.sent e.before
  notOpen : Shut (past ++ [e]) → Transport.isOpen () e.after = false
  /-- Closing one side leaves the other one alone. -/
  inputAlone : e.step = .call (.closeInput ()) → v.outgoing e.after = v.outgoing e.before
  outputAlone : e.step = .call (.closeOutput ()) → v.incoming e.after = v.incoming e.before
  /-- Closing again succeeds and changes nothing. -/
  repeated : Repeats past e.step → e.reply = .ofResult {} ∧ v.whole e.after = v.whole e.before

/-- Whether the flags of a connection say that there is nothing left for a step to close. -/
@[simp] def Aspects.covers (v : Aspects σ α β γ) (s : σ) : Step Unit ε → Prop
  | .call (.closeInput _) => v.inputClosed s = true
  | .call (.closeOutput _) => v.outputClosed s = true
  | .call (.close _) =>
    Transport.isOpen () s = false ∧ v.inputClosed s = true ∧ v.outputClosed s = true
  | _ => False

/-- What one step does to the flags, and what it does where they are raised. -/
structure Sealed (v : Aspects σ α β γ) (e : Entry Unit ε σ) : Prop where
  input : v.inputClosed e.after = (v.inputClosed e.before || e.step.shutsInput)
  output : v.outputClosed e.after = (v.outputClosed e.before || e.step.shutsOutput)
  isOpen : Transport.isOpen () e.after = (Transport.isOpen () e.before && !e.step.shutsAll)
  ended : v.inputClosed e.before = true → ∀ r room deadline,
    e.step = .call (.readSome r room deadline) → e.reply = .ofResult .ended
  refused : v.outputClosed e.before = true → e.step.isOutput = true →
    e.reply.result.isOk = false
  silent : v.outputClosed e.before = true →
    v.queued e.after = v.queued e.before ∧ v.sent e.after = v.sent e.before
  inputAlone : e.step = .call (.closeInput ()) → v.outgoing e.after = v.outgoing e.before
  outputAlone : e.step = .call (.closeOutput ()) → v.incoming e.after = v.incoming e.before
  repeated : v.covers e.before e.step →
    e.reply = .ofResult {} ∧ v.whole e.after = v.whole e.before

/-- Whether the flags show what was to be closed. -/
structure Shows (v : Aspects σ α β γ) (past : List (Entry Unit ε σ)) (s : σ) : Prop where
  input : InputShut past → v.inputClosed s = true
  output : OutputShut past → v.outputClosed s = true
  shut : Shut past → Transport.isOpen () s = false

theorem shows_fresh (v : Aspects σ α β γ) (s : σ) : Shows (ε := ε) v [] s := by
  constructor <;> simp [InputShut, OutputShut, Shut]

theorem Shows.step {past : List (Entry Unit ε σ)} {e : Entry Unit ε σ} (h : Shows v past e.before)
    (he : Sealed v e) : Shows v (past ++ [e]) e.after := by
  -- What was to be closed was so before, or is so now.
  have hbehind : ∀ p : Step Unit ε → Bool, (∃ e' ∈ past ++ [e], p e'.step = true) →
      (∃ e' ∈ past, p e'.step = true) ∨ p e.step = true := by
    intro p hshut
    simpa only [List.mem_append, List.mem_singleton, or_and_right, exists_or, exists_eq_left]
      using hshut
  constructor
  · intro hshut
    rw [he.input, Bool.or_eq_true]
    exact (hbehind _ hshut).imp_left h.input
  · intro hshut
    rw [he.output, Bool.or_eq_true]
    exact (hbehind _ hshut).imp_left h.output
  · intro hshut
    rw [he.isOpen, Bool.and_eq_false_iff, Bool.not_eq_false']
    exact (hbehind _ hshut).imp_left h.shut

/-- The past is all that is needed to know the flags by. -/
theorem Sealed.lasting {past : List (Entry Unit ε σ)} {e : Entry Unit ε σ} (he : Sealed v e)
    (h : Shows v past e.before) : Lasting v past e := by
  constructor
  · intro hshut
    exact he.ended (h.input hshut)
  · intro hshut
    exact he.refused (h.output hshut)
  · intro hshut
    exact he.silent (h.output hshut)
  · exact (h.step he).shut
  · exact he.inputAlone
  · exact he.outputAlone
  · intro hrepeats
    apply he.repeated
    unfold Repeats at hrepeats
    unfold Aspects.covers
    split at hrepeats
    · exact h.input hrepeats
    · exact h.output hrepeats
    · exact ⟨h.shut hrepeats, h.input hrepeats.sides.1, h.output hrepeats.sides.2⟩
    · exact hrepeats.elim

/-! ## Histories -/

variable {affect : ε → σ → σ}

theorem step_mem {steps : List (Step Unit ε)} {s : σ} {e : Entry Unit ε σ}
    (h : e ∈ entries affect steps s) : e.step ∈ steps := by
  have hmem : e.step ∈ (entries affect steps s).map Entry.step := List.mem_map_of_mem h
  rcases complete_or_waits steps s with hall | ⟨front, r, room, deadline, back, hsteps, hfront, -⟩
  · rwa [hall] at hmem
  · rw [hfront] at hmem
    rw [hsteps]
    exact List.mem_append_left _ hmem

/-- What every step keeps, as long as only permitted ones are taken. -/
def Kept (Permitted : Step Unit ε → Prop) (Sound : σ → Prop) (v : Aspects σ α β γ)
    (past : List (Entry Unit ε σ)) (s : σ) : Prop :=
  (∀ e ∈ past, Permitted e.step) → Sound s ∧ Shows v past s

section Runs

variable (Permitted : Step Unit ε → Prop) (Sound : σ → Prop)
  (hstep : ∀ e : Entry Unit ε σ, Permitted e.step → Sound e.before → e.Happens affect →
    Sound e.after ∧ Sealed v e)

include hstep

theorem Kept.step (past : List (Entry Unit ε σ)) (e : Entry Unit ε σ)
    (h : Kept Permitted Sound v past e.before) (he : e.Happens affect) :
    Kept Permitted Sound v (past ++ [e]) e.after := by
  intro hpermitted
  obtain ⟨hsound, hshows⟩ := h fun e' hpast => hpermitted e' (List.mem_append_left _ hpast)
  obtain ⟨hafter, hsealed⟩ := hstep e (hpermitted e (by simp)) hsound he
  exact ⟨hafter, hshows.step hsealed⟩

variable {steps : List (Step Unit ε)} (hsteps : ∀ step ∈ steps, Permitted step) {s : σ}
  (hs : Sound s)

include hsteps hs

/-- **Where every step goes by the flags, closing lasts.** The induction is on the history. -/
theorem lasting_of_sealed {front back : List (Entry Unit ε σ)} {e : Entry Unit ε σ}
    (h : entries affect steps s = front ++ e :: back) : e.Happens affect ∧ Lasting v front e := by
  have hpermitted : ∀ e' ∈ front ++ e :: back, Permitted e'.step :=
    fun e' he' => hsteps _ (step_mem (h ▸ he'))
  have hfresh : Kept Permitted Sound v [] s := fun _ => ⟨hs, shows_fresh v s⟩
  obtain ⟨he, hbefore, -⟩ := keeps_at (Kept.step Permitted Sound hstep) hfresh h
  obtain ⟨hsound, hshows⟩ := hbefore fun e' he' => hpermitted e' (List.mem_append_left _ he')
  obtain ⟨-, hsealed⟩ := hstep e (hpermitted e (by simp)) hsound he
  exact ⟨he, hsealed.lasting hshows⟩

/-- And no read waits behind the closing of the input: a history that is not complete has none. -/
theorem complete_of_sealed
    (hready : ∀ (s : σ) (room : Nat) (deadline : Deadline), v.inputClosed s = true →
      Transport.readSome () room deadline s ≠ none) :
    (entries affect steps s).map Entry.step = steps ∨ ¬ InputShut (entries affect steps s) := by
  rcases complete_or_waits steps s with hall | ⟨front, r, room, deadline, back, -, -, hwaits⟩
  · exact .inl hall
  · refine .inr ?_
    intro hshut
    have hfresh : Kept Permitted Sound v [] s := fun _ => ⟨hs, shows_fresh v s⟩
    have hkept := keeps_behind (Kept.step Permitted Sound hstep) hfresh steps
    obtain ⟨-, hshows⟩ := hkept fun e' he' => hsteps _ (step_mem he')
    exact hready _ room deadline (hshows.input hshut) hwaits

end Runs

end History

open History

/-! ## Connections in memory -/

namespace Memory

/-- All of a connection but the number of calls that were to close something. -/
def uncounted (m : Memory) : Memory := { m with closeCalls := 0 }

/-- The two sides are those of which each behaves without the other one; the number of the calls
that were to close something is out of sight. -/
def aspects : Aspects Memory Memory Memory Memory where
  inputClosed m := m.inputClosed
  outputClosed m := m.outputClosed
  incoming m := m.uncounted.incoming
  outgoing m := m.uncounted.outgoing
  whole := uncounted
  queued m := m.pending
  sent m := m.written

/-- Whether closings are not set to fail. -/
def Closable (m : Memory) : Prop := m.closeFailure = none

/-- Whether a step leaves closings to succeed. -/
def LetsClose (step : Step Unit Outside) : Prop := ∀ error, step ≠ .outside (.failCloses error)

theorem write_of_closed {m : Memory} (h : m.outputClosed = true) (data : List UInt8) :
    m.write data = (.failed .brokenPipe, m) := if_pos h

theorem flush_of_closed {m : Memory} (h : m.outputClosed = true) :
    m.flush = (.failed .brokenPipe, m) := if_pos h

theorem closing_of_closable {m : Memory} (h : m.Closable) (effect : Memory → Memory) :
    m.closing effect = ({}, effect { m with closeCalls := m.closeCalls + 1 }) := by
  have hfailure : m.closeFailure = none := h
  unfold closing
  simp only [hfailure]

section Operations

variable (m : Memory)

theorem sealed_readSome {room : Nat} {deadline : Deadline} {reply : Delivery} {m' : Memory}
    (h : m.readSome room deadline = some (reply, m')) :
    m'.closeFailure = m.closeFailure
      ∧ Sealed aspects (⟨.call (.readSome () room deadline), m, reply, m'⟩ : Entry) := by
  have hkept := (readSome_takes h).2
  rw [hkept]
  refine ⟨rfl, ?_⟩
  -- A read closes nothing and leaves all flags alone, so all but one of the fields say nothing new.
  constructor <;> simp [aspects, Transport.isOpen, isOpen]
  intro hclosed
  rw [readSome_of_closed hclosed] at h
  exact (Prod.mk.inj (Option.some.inj h)).1.symm

theorem sealed_write (data : List UInt8) :
    (m.write data).2.closeFailure = m.closeFailure
      ∧ Sealed aspects (⟨.call (.write () data), m, .ofResult (m.write data).1,
        (m.write data).2⟩ : Entry) := by
  -- A write that is taken is one to an output that is not closed, so nothing has to stay silent.
  rcases hclosed : m.outputClosed with _ | _
  · rcases m.write_cases data with hwrite | ⟨error, hwrite⟩
    all_goals
      rw [hwrite]
      refine ⟨rfl, ?_⟩
      constructor <;> simp [aspects, Transport.isOpen, isOpen, hclosed]
  · rw [write_of_closed hclosed]
    refine ⟨rfl, ?_⟩
    constructor <;>
      simp [aspects, Transport.isOpen, Delivery.ofResult, IoResult.isOk, IoResult.failed]

theorem sealed_flush :
    m.flush.2.closeFailure = m.closeFailure
      ∧ Sealed aspects (⟨.call (.flush ()), m, .ofResult m.flush.1, m.flush.2⟩ : Entry) := by
  rcases hclosed : m.outputClosed with _ | _
  · rcases m.flush_cases with hflush | ⟨error, hflush⟩
    all_goals
      rw [hflush]
      refine ⟨rfl, ?_⟩
      constructor <;> simp [aspects, Transport.isOpen, isOpen, drain, hclosed]
  · rw [flush_of_closed hclosed]
    refine ⟨rfl, ?_⟩
    constructor <;>
      simp [aspects, Transport.isOpen, Delivery.ofResult, IoResult.isOk, IoResult.failed]

variable {m} (hs : m.Closable)

include hs

theorem sealed_closeInput :
    m.closeInput.2.Closable
      ∧ Sealed aspects
        (⟨.call (.closeInput ()), m, .ofResult m.closeInput.1, m.closeInput.2⟩ : Entry) := by
  rw [closeInput, closing_of_closable hs]
  refine ⟨hs, ?_⟩
  constructor <;>
    simp [aspects, Transport.isOpen, isOpen, uncounted, outgoing, Delivery.ofResult]

/-- Pending bytes stay where they are if the output was closed before. -/
theorem sealed_closeOutput :
    m.closeOutput.2.Closable
      ∧ Sealed aspects
        (⟨.call (.closeOutput ()), m, .ofResult m.closeOutput.1, m.closeOutput.2⟩ : Entry) := by
  rw [closeOutput, closing_of_closable hs]
  rcases hclosed : m.outputClosed with _ | _
  · refine ⟨hs, ?_⟩
    constructor <;>
      simp [aspects, Transport.isOpen, isOpen, uncounted, incoming, drain, hclosed]
  · refine ⟨hs, ?_⟩
    constructor <;>
      simp [aspects, Transport.isOpen, isOpen, uncounted, incoming, Delivery.ofResult, hclosed]

theorem sealed_close :
    m.close.2.Closable
      ∧ Sealed aspects
        (⟨.call (.close ()), m, .ofResult m.close.1, m.close.2⟩ : Entry) := by
  rw [close, closing_of_closable hs]
  refine ⟨hs, ?_⟩
  constructor <;> simp [aspects, Transport.isOpen, isOpen, uncounted, Delivery.ofResult]
  -- A connection that is closed has no flag left to be raised.
  intro hclosed hinput houtput
  exact ⟨hinput, houtput, hclosed⟩

end Operations

theorem sealed_of_happens {e : Entry} (hpermitted : LetsClose e.step)
    (hs : e.before.Closable) (h : e.Happens Outside.affect) :
    e.after.Closable ∧ Sealed aspects e := by
  obtain ⟨step, m, reply, m'⟩ := e
  simp only [History.Entry.Happens, Step.perform] at h hs hpermitted
  cases step with
  | outside event =>
    cases h
    cases event with
    | failCloses error => exact absurd rfl (hpermitted error)
    | _ =>
      refine ⟨hs, ?_⟩
      constructor <;>
        simp [aspects, Outside.affect, append, endInput, failReads, failWrites, Transport.isOpen,
          isOpen]
  | call c =>
    cases c with
    | readSome r room deadline =>
      obtain ⟨hkept, hsealed⟩ := m.sealed_readSome h
      exact ⟨hkept.trans hs, hsealed⟩
    | write r data =>
      obtain ⟨hkept, hsealed⟩ := m.sealed_write data
      cases h
      exact ⟨hkept.trans hs, hsealed⟩
    | flush r =>
      obtain ⟨hkept, hsealed⟩ := m.sealed_flush
      cases h
      exact ⟨hkept.trans hs, hsealed⟩
    | closeInput r =>
      cases h
      exact sealed_closeInput hs
    | closeOutput r =>
      cases h
      exact sealed_closeOutput hs
    | close r =>
      cases h
      exact sealed_close hs

end Memory

/-! ## Sockets -/

namespace Socket

variable {κ : Type} [Kernel κ]

/-- The queue belongs to the side that writes, and so do the sends; the kernel below is seen as part
of the whole. -/
def aspects : Aspects (Socket × Logged κ) Socket (Socket × List SendCall) (Socket × Logged κ) where
  inputClosed s := s.1.gone || s.1.inputClosed
  outputClosed s := s.1.mute
  incoming s := { s.1 with outputClosed := false, queue := [] }
  outgoing s := ({ s.1 with inputClosed := false }, s.2.sends)
  whole s := s
  queued s := s.1.queue
  sent s := SendCall.takenOn s.1.descriptor s.2.sends

theorem readSome_of_closed {s : Socket} (h : (s.gone || s.inputClosed) = true) (room : Nat)
    (deadline : Deadline) (k : κ) :
    s.readSome room deadline k = some (.ofResult .ended, k) := if_pos h

theorem closeInput_of_closed {s : Socket} (h : (s.gone || s.inputClosed) = true) (k : κ) :
    s.closeInput k = ({}, s, k) := if_pos h

/-- The first closing of the input raises its flag, whatever the kernel makes of it. -/
theorem closeInput_of_not_closed {s : Socket} (h : ¬ (s.gone || s.inputClosed) = true)
    (k : Logged κ) :
    (s.closeInput k).2.1 = { s with inputClosed := true }
      ∧ (s.closeInput k).2.2.sends = k.sends := by
  unfold closeInput
  rw [if_neg h]
  exact shutDown_keeps _ _ _ _

theorem close_of_gone {s : Socket} (h : s.gone = true) (k : κ) : s.close k = ({}, s, k) := if_pos h

theorem close_of_not_gone {s : Socket} (h : ¬ s.gone = true) (k : Logged κ) :
    (s.close k).2.1 = { s with closed := true, inputClosed := true, outputClosed := true }
      ∧ (s.close k).2.2.sends = k.sends := by
  obtain ⟨hsocket, hsends⟩ := shutDown_keeps .both {}
    { s with closed := true, inputClosed := true, outputClosed := true } k
  unfold close
  rw [if_neg h]
  simp only
  split
  · rename_i hshut
    rw [hshut] at hsocket hsends
    exact ⟨hsocket, hsends⟩
  · exact ⟨hsocket, hsends⟩

/-- Neither side and no queued bytes decide whether a connection is gone. -/
@[simp] theorem gone_sides (s : Socket) (inputClosed outputClosed : Bool) (queue : List UInt8) :
    ({ s with inputClosed, outputClosed, queue } : Socket).gone = s.gone := rfl

section Operations

variable (s : Socket) (k : Logged κ)

theorem sealed_outside (change : κ → κ) :
    Sealed aspects (⟨.outside change, (s, k), .ofResult {}, affect change (s, k)⟩ : Entry κ) := by
  constructor <;> simp [aspects, affect, Transport.isOpen]

theorem sealed_readSome {room : Nat} {deadline : Deadline} {reply : Delivery} {k k' : Logged κ}
    (h : s.readSome room deadline k = some (reply, k')) :
    Sealed aspects (⟨.call (.readSome () room deadline), (s, k), reply, (s, k')⟩ : Entry κ) := by
  -- A socket keeps nothing of what it receives, and the kernel is asked to send nothing.
  have hsends := readSome_sends h
  constructor <;> simp [aspects, Transport.isOpen, hsends]
  intro hclosed
  rw [readSome_of_closed (by simpa using hclosed)] at h
  exact (Prod.mk.inj (Option.some.inj h)).1.symm

theorem sealed_write (data : List UInt8) :
    Sealed aspects (⟨.call (.write () data), (s, k), .ofResult (s.write data).1,
      ((s.write data).2, k)⟩ : Entry κ) := by
  rcases hmute : s.mute with _ | _
  · rw [write_of_not_mute hmute]
    constructor <;> simp [aspects, Transport.isOpen, isOpen, hmute]
  · rw [write_of_mute hmute]
    constructor <;>
      simp [aspects, Transport.isOpen, hmute, Delivery.ofResult, IoResult.isOk, IoResult.failed]

theorem sealed_flush :
    Sealed aspects
      (⟨.call (.flush ()), (s, k), .ofResult (s.flush k).1, (s.flush k).2⟩ : Entry κ) := by
  rcases hmute : s.mute with _ | _
  · rw [flush_of_not_mute hmute]
    constructor <;> simp [aspects, Transport.isOpen, isOpen, drain, hmute]
  · rw [flush_of_mute hmute]
    constructor <;>
      simp [aspects, Transport.isOpen, hmute, Delivery.ofResult, IoResult.isOk, IoResult.failed]

theorem sealed_closeInput :
    Sealed aspects
      (⟨.call (.closeInput ()), (s, k), .ofResult (s.closeInput k).1, (s.closeInput k).2⟩ :
        Entry κ) := by
  by_cases hclosed : (s.gone || s.inputClosed) = true
  · rw [closeInput_of_closed hclosed]
    constructor <;> simp [aspects, Transport.isOpen, Delivery.ofResult]
    simpa using hclosed
  · obtain ⟨hsocket, hsends⟩ := closeInput_of_not_closed hclosed k
    constructor <;> simp [aspects, Transport.isOpen, isOpen, mute, hsocket, hsends]
    -- The first closing repeats none.
    intro hcovered
    exact absurd (by simpa using hcovered) hclosed

theorem sealed_closeOutput :
    Sealed aspects
      (⟨.call (.closeOutput ()), (s, k), .ofResult (s.closeOutput k).1, (s.closeOutput k).2⟩ :
        Entry κ) := by
  rcases hmute : s.mute with _ | _
  · obtain ⟨hsocket, -⟩ := closeOutput_of_not_mute hmute k
    have hshut : ({ s with outputClosed := true, queue := [] } : Socket).mute = true :=
      Bool.or_true _
    constructor <;> simp [aspects, Transport.isOpen, isOpen, hmute, hsocket, hshut]
  · rw [closeOutput_of_mute hmute]
    constructor <;> simp [aspects, Transport.isOpen, hmute, Delivery.ofResult]

theorem sealed_close :
    Sealed aspects
      (⟨.call (.close ()), (s, k), .ofResult (s.close k).1, (s.close k).2⟩ : Entry κ) := by
  by_cases hgone : s.gone = true
  · rw [close_of_gone hgone]
    constructor <;> simp [aspects, Transport.isOpen, isOpen, mute, hgone, Delivery.ofResult]
  · obtain ⟨hsocket, hsends⟩ := close_of_not_gone hgone k
    have hshut : ({ s with closed := true, inputClosed := true, outputClosed := true } :
        Socket).gone = true := Bool.or_true _
    constructor <;> simp [aspects, Transport.isOpen, isOpen, mute, hgone, hsocket, hsends, hshut]

end Operations

theorem sealed_of_happens {e : Entry κ} (h : e.Happens affect) : Sealed aspects e := by
  obtain ⟨step, ⟨s, k⟩, reply, after⟩ := e
  simp only [History.Entry.Happens, Step.perform] at h
  cases step with
  | outside change =>
    cases h
    exact sealed_outside s k change
  | call c =>
    cases c with
    | readSome r room deadline =>
      obtain ⟨⟨d, k₁⟩, hread, heq⟩ := Option.map_eq_some_iff.mp h
      cases heq
      exact sealed_readSome s hread
    | write r data =>
      cases h
      exact sealed_write s k data
    | flush r =>
      cases h
      exact sealed_flush s k
    | closeInput r =>
      cases h
      exact sealed_closeInput s k
    | closeOutput r =>
      cases h
      exact sealed_closeOutput s k
    | close r =>
      cases h
      exact sealed_close s k

/-! ## The kernel below a socket -/

/-- What the closing of one side leaves alone in the kernel: everything that neither the shutting
down of that side nor, for the output, a send on the descriptor has an effect on. -/
structure HalfShut (e : Entry κ) : Prop where
  input : e.step = .call (.closeInput ()) → ∀ {τ : Type} (view : κ → τ),
    (∀ k, view (Kernel.shutdown e.before.1.descriptor .receiving k).2 = view k) →
    view e.after.2.kernel = view e.before.2.kernel
  output : e.step = .call (.closeOutput ()) → ∀ {τ : Type} (view : κ → τ),
    (∀ bytes k, view (Kernel.send e.before.1.descriptor bytes k).2 = view k) →
    (∀ k, view (Kernel.shutdown e.before.1.descriptor .sending k).2 = view k) →
    view e.after.2.kernel = view e.before.2.kernel

section View

variable {τ : Type} (view : κ → τ)

theorem shutDown_view {direction : Shutdown} {s : Socket}
    (h : ∀ k, view (Kernel.shutdown s.descriptor direction k).2 = view k) (result : IoResult)
    (k : Logged κ) : view (shutDown direction result s k).2.2.kernel = view k.kernel := by
  have hkernel : (Kernel.shutdown s.descriptor direction k).2.kernel
      = (Kernel.shutdown s.descriptor direction k.kernel).2 := rfl
  unfold shutDown
  split
  · rename_i hshut
    rw [hshut] at hkernel
    exact (congrArg view hkernel).trans (h k.kernel)
  · rename_i hshut
    rw [hshut] at hkernel
    exact (congrArg view hkernel).trans (h k.kernel)

/-- The loop changes the kernel by sends alone, by induction on them. -/
theorem sendAll_view {d : Descriptor} (h : ∀ bytes k, view (Kernel.send d bytes k).2 = view k)
    (sent : Nat) (bytes : List UInt8) (k : Logged κ) :
    view (sendAll d sent bytes k).2.2.kernel = view k.kernel := by
  have hsend : ∀ (bytes : List UInt8) (k k' : Logged κ) (outcome : Except Errno Nat),
      Kernel.send d bytes k = (outcome, k') → view k'.kernel = view k.kernel := by
    intro bytes k k' outcome hsent
    cases hsent
    exact h bytes k.kernel
  fun_induction sendAll d sent bytes k with
  | case1 sent k => rfl
  | case2 sent bytes k hb k' hs _ ih => exact ih.trans (hsend bytes k k' _ hs)
  | case3 sent bytes k hb e k' hs he => exact hsend bytes k k' _ hs
  | case4 sent bytes k hb n k' hs _ ih => exact ih.trans (hsend bytes k k' _ hs)

theorem closeInput_view {s : Socket}
    (h : ∀ k, view (Kernel.shutdown s.descriptor .receiving k).2 = view k) (k : Logged κ) :
    view (s.closeInput k).2.2.kernel = view k.kernel := by
  unfold closeInput
  split
  · rfl
  · exact shutDown_view (s := { s with inputClosed := true }) view h _ _

theorem closeOutput_view {s : Socket}
    (hsend : ∀ bytes k, view (Kernel.send s.descriptor bytes k).2 = view k)
    (hshut : ∀ k, view (Kernel.shutdown s.descriptor .sending k).2 = view k) (k : Logged κ) :
    view (s.closeOutput k).2.2.kernel = view k.kernel := by
  unfold closeOutput
  split
  · rfl
  · have hsent := sendAll_view view hsend 0 s.queue k
    have hstopped := shutDown_view (s := { s with outputClosed := true, queue := [] }) view hshut
    exact (hstopped _ _).trans hsent

end View

theorem halfShut_of_happens {e : Entry κ} (h : e.Happens affect) : HalfShut e := by
  obtain ⟨step, ⟨s, k⟩, reply, after⟩ := e
  constructor
  · rintro rfl τ view hshut
    have hafter : (s.closeInput k).2 = after := (Prod.mk.inj (Option.some.inj h)).2
    rw [← hafter]
    exact closeInput_view view hshut k
  · rintro rfl τ view hsend hshut
    have hafter : (s.closeOutput k).2 = after := (Prod.mk.inj (Option.some.inj h)).2
    rw [← hafter]
    exact closeOutput_view view hsend hshut k

end Socket

/-! ## The main statement -/

/-- **Closing is permanent, one-sided and idempotent.** Of every step of every history of a fresh
connection `Lasting` holds: in memory, where closings are not set to fail; and over a descriptor, a
negative one too, whatever the kernel does and however its calls end. No read waits behind the
closing of the input. -/
theorem closing_lasts {κ : Type} [Kernel κ] (d : Descriptor) (k : κ) :
    (∀ steps : List (Step Unit Memory.Outside), (∀ step ∈ steps, Memory.LetsClose step) →
      (∀ past e back, Memory.history steps = past ++ e :: back → Lasting Memory.aspects past e)
        ∧ ((Memory.history steps).map (·.step) = steps ∨ ¬ InputShut (Memory.history steps)))
      ∧ ∀ steps : List (Step Unit (κ → κ)),
        (∀ past e back, Socket.history d k steps = past ++ e :: back →
          Lasting Socket.aspects past e ∧ Socket.HalfShut e)
        ∧ ((Socket.history d k steps).map (·.step) = steps
          ∨ ¬ InputShut (Socket.history d k steps)) := by
  constructor
  · intro steps hsteps
    have hstep : ∀ e : Memory.Entry, Memory.LetsClose e.step → e.before.Closable →
        e.Happens Memory.Outside.affect → e.after.Closable ∧ Sealed Memory.aspects e :=
      fun _ => Memory.sealed_of_happens
    have hfresh : Memory.Closable {} := rfl
    constructor
    · intro past e back hpast
      exact (lasting_of_sealed Memory.LetsClose Memory.Closable hstep hsteps hfresh hpast).2
    · apply complete_of_sealed Memory.LetsClose Memory.Closable hstep hsteps hfresh
      intro m room deadline hclosed hwaits
      have hopen : m.inputClosed = false := (Memory.readSome_eq_none hwaits).2.1
      exact nomatch hclosed.symm.trans hopen
  · intro steps
    -- A socket needs nothing but its flags, and every step is permitted.
    have hstep : ∀ e : Socket.Entry κ, True → True → e.Happens Socket.affect →
        True ∧ Sealed Socket.aspects e := fun _ _ _ he => ⟨trivial, Socket.sealed_of_happens he⟩
    constructor
    · intro past e back hpast
      obtain ⟨he, hlasts⟩ := lasting_of_sealed (fun _ => True) (fun _ => True) hstep
        (fun _ _ => trivial) trivial hpast
      exact ⟨hlasts, Socket.halfShut_of_happens he⟩
    · apply complete_of_sealed (fun _ => True) (fun _ => True) hstep (fun _ _ => trivial) trivial
      rintro ⟨s, k⟩ room deadline hclosed hwaits
      have hread := Socket.readSome_of_closed hclosed room deadline k
      have hnone := Option.map_eq_none_iff.mp hwaits
      rw [hread] at hnone
      exact nomatch hnone

/-- Bytes and a failure arrive behind the closing of the input, in memory; and over a descriptor the
one byte that was queued is lost to a kernel that refuses it. The closings behind that succeed. -/
theorem closing_lasts_again :
    let steps : List (Step Unit Memory.Outside) :=
      [.call (.write () [7]), .call (.closeInput ()), .outside (.append [1, 2]),
        .outside (.failReads .error .ioError), .call (.readSome () 4 none),
        .call (.closeOutput ()), .call (.write () [8]), .call (.flush ()), .call (.close ()),
        .call (.closeOutput ())]
    let sends : List (Step Unit (PlayedSends → PlayedSends)) :=
      [.call (.write () [7]), .call (.closeOutput ()), .call (.closeOutput ()), .call (.flush ()),
        .call (.close ()), .call (.closeInput ()), .call (.readSome () 4 none)]
    let k : PlayedSends := ⟨[.error .connectionReset]⟩
    (∀ step ∈ steps, Memory.LetsClose step)
      ∧ (Memory.history steps).map (fun e => (e.reply.result, e.after.written))
        = [(.transferred 1, []), ({}, []), ({}, []), ({}, []), (.ended, []), ({}, [7]),
          (.failed .brokenPipe, [7]), (.failed .brokenPipe, [7]), ({}, [7]), ({}, [7])]
      ∧ (∀ past e back, Memory.history steps = past ++ e :: back → Lasting Memory.aspects past e)
      ∧ (Socket.history 3 k sends).map (fun e => (e.reply.result, e.after.1.queue))
        = [(.transferred 1, [7]),
          ({ status := .connectionReset, error := .connectionReset }, []), ({}, []),
          (.failed .notConnected, []), ({}, []), ({}, []), (.ended, [])]
      ∧ ∀ past e back, Socket.history 3 k sends = past ++ e :: back →
        Lasting Socket.aspects past e ∧ Socket.HalfShut e := by
  intro steps sends k
  have hsteps : ∀ step ∈ steps, Memory.LetsClose step := by
    simp [steps, Memory.LetsClose]
  obtain ⟨hmemory, hsocket⟩ := closing_lasts 3 k
  refine ⟨hsteps, by decide, (hmemory steps hsteps).1, ?_, (hsocket sends).1⟩
  simp [sends, k, Socket.history, History.entries, History.Step.perform, Call.perform,
    Transport.readSome, Transport.write, Transport.flush, Transport.closeInput,
    Transport.closeOutput, Transport.close, Socket.readSome, Socket.write, Socket.flush,
    Socket.closeInput, Socket.closeOutput, Socket.close, Socket.gone, Socket.drain, Socket.sendAll,
    Socket.shutDown, Kernel.send, Kernel.shutdown, PlayedSends.send, Logged.on, Delivery.ofResult,
    IoResult.transferred, IoResult.failed, IoResult.ended, Errno.isReset]

end ModbusTcp
