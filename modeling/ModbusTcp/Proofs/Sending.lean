import Mathlib.Logic.Basic
import ModbusTcp.Proofs.History
import ModbusTcp.Transport.Socket

/-!
A socket sends every byte that was written at most once and in order.

Which bytes a kernel took is not part of any state of a connection, so the sends are written down
(`Logged`), with what was offered and what came of it. Over any history of a socket on a descriptor,
whatever the kernel does, the bytes that it took are a prefix of the bytes that were written. After
a flush that succeeds they are all of them, after one that fails the rest is still in the queue, and
once the output is closed nothing is sent any more (`Sending`). The main statement is
`sending_of_history`.

The one loop behind this is `Socket.sendAll` (`FlushLocked`): what it was given is what the kernel
took, and then what is left (`sendAll_sends`). `changes_of_happens` says what that means for a
single step, and `Tracks` how the queue comes from the past.
-/

set_option autoImplicit false

namespace ModbusTcp

/-! ## Sends that are written down -/

/-- A call of `send`. -/
structure SendCall where
  descriptor : Descriptor
  offered : List UInt8
  outcome : Except Errno Nat

namespace SendCall

/-- The bytes that were taken. -/
def taken (c : SendCall) : List UInt8 :=
  match c.outcome with
  | .ok n => c.offered.take n
  | .error _ => []

/-- Whether the kernel did not refuse. A call that was cut short is no refusal. -/
def Succeeds (c : SendCall) : Prop := ∀ e, c.outcome = .error e → e = .interrupted

/-- The bytes that were taken on a descriptor, in order. -/
def takenOn (d : Descriptor) (calls : List SendCall) : List UInt8 :=
  calls.flatMap fun c => if c.descriptor = d then c.taken else []

@[simp] theorem takenOn_nil (d : Descriptor) : takenOn d [] = [] := rfl

@[simp] theorem takenOn_append (d : Descriptor) (calls later : List SendCall) :
    takenOn d (calls ++ later) = takenOn d calls ++ takenOn d later := List.flatMap_append

@[simp] theorem takenOn_cons_ok (d : Descriptor) (bytes : List UInt8) (n : Nat)
    (calls : List SendCall) :
    takenOn d (⟨d, bytes, .ok n⟩ :: calls) = bytes.take n ++ takenOn d calls := by
  simp [takenOn, taken]

@[simp] theorem takenOn_cons_error (d : Descriptor) (bytes : List UInt8) (e : Errno)
    (calls : List SendCall) : takenOn d (⟨d, bytes, .error e⟩ :: calls) = takenOn d calls := by
  simp [takenOn, taken]

end SendCall

/-- A kernel and the sends that were made on it. -/
structure Logged (κ : Type) where
  kernel : κ
  sends : List SendCall := []

namespace Logged

variable {κ : Type}

/-- The kernel goes on, and no send was made. -/
def on {α : Type} (k : Logged κ) (outcome : α × κ) : α × Logged κ :=
  (outcome.1, { k with kernel := outcome.2 })

instance [Kernel κ] : Kernel (Logged κ) where
  now k := k.on (Kernel.now k.kernel)
  poll d t k := (Kernel.poll d t k.kernel).map k.on
  recv d n k := k.on (Kernel.recv d n k.kernel)
  send d bytes k :=
    let outcome := Kernel.send d bytes k.kernel
    (outcome.1, { kernel := outcome.2, sends := k.sends ++ [⟨d, bytes, outcome.1⟩] })
  queued d k := Kernel.queued d k.kernel
  shutdown d direction k := k.on (Kernel.shutdown d direction k.kernel)
  release d k := { k with kernel := Kernel.release d k.kernel }
  socket family k := k.on (Kernel.socket family k.kernel)
  reuseAddress d k := k.on (Kernel.reuseAddress d k.kernel)
  bind d address port k := k.on (Kernel.bind d address port k.kernel)
  listen d k := k.on (Kernel.listen d k.kernel)
  accept d k := k.on (Kernel.accept d k.kernel)
  localPort d k := Kernel.localPort d k.kernel
  resolve host port k := k.on (Kernel.resolve host port k.kernel)
  connect d endpoint k := k.on (Kernel.connect d endpoint k.kernel)
  streamPair k := k.on (Kernel.streamPair k.kernel)
  interruptions k := Kernel.interruptions k.kernel
  now_interruptions k := Kernel.now_interruptions k.kernel
  poll_interruptions d t k r h := by
    obtain ⟨outcome, hpoll, rfl⟩ := Option.map_eq_some_iff.mp h
    exact Kernel.poll_interruptions d t k.kernel outcome hpoll
  poll_interrupted d t k r h hr := by
    obtain ⟨outcome, hpoll, rfl⟩ := Option.map_eq_some_iff.mp h
    exact Kernel.poll_interrupted d t k.kernel outcome hpoll hr
  recv_retried d n k := Kernel.recv_retried d n k.kernel
  send_interrupted d bytes k := Kernel.send_interrupted d bytes k.kernel
  recv_bounded d n k := Kernel.recv_bounded d n k.kernel
  send_progress d bytes k := Kernel.send_progress d bytes k.kernel
  send_bounded d bytes k := Kernel.send_bounded d bytes k.kernel
  accept_retried d k := Kernel.accept_retried d k.kernel

theorem sends_of_send [Kernel κ] {d : Descriptor} {bytes : List UInt8} {k k' : Logged κ}
    {outcome : Except Errno Nat} (h : Kernel.send d bytes k = (outcome, k')) :
    k'.sends = k.sends ++ [⟨d, bytes, outcome⟩] := by
  cases h
  rfl

theorem sends_of_poll [Kernel κ] {d : Descriptor} {t : Int32} {k k' : Logged κ}
    {outcome : Except Errno Bool} (h : Kernel.poll d t (Kernel.now k).2 = some (outcome, k')) :
    k'.sends = k.sends := by
  obtain ⟨r, -, h⟩ := Option.map_eq_some_iff.mp h
  cases h
  rfl

theorem sends_of_recv [Kernel κ] {d : Descriptor} {n : Nat} {k k' : Logged κ}
    {outcome : Except Errno (List UInt8)} (h : Kernel.recv d n k = (outcome, k')) :
    k'.sends = k.sends := by
  cases h
  rfl

end Logged

namespace Socket

variable {κ : Type} [Kernel κ]

/-! ## The loop -/

/-- How some sends brought bytes to the kernel, after `sent` bytes before them. -/
structure Drains (d : Descriptor) (sent : Nat) (bytes rest : List UInt8) (result : IoResult)
    (calls : List SendCall) : Prop where
  own : ∀ c ∈ calls, c.descriptor = d
  split : bytes = SendCall.takenOn d calls ++ rest
  counted : result.bytes = sent + (SendCall.takenOn d calls).length
  complete : result.isOk = true → rest = []
  succeeds : (∀ c ∈ calls, c.Succeeds) → result.isOk = true

/-- **The loop sends a prefix of its bytes and gives back the rest.** -/
theorem sendAll_sends (d : Descriptor) (sent : Nat) (bytes : List UInt8) (k : Logged κ) :
    ∃ calls, (sendAll d sent bytes k).2.2.sends = k.sends ++ calls
      ∧ Drains d sent bytes (sendAll d sent bytes k).2.1 (sendAll d sent bytes k).1 calls := by
  fun_induction sendAll d sent bytes k with
  | case1 sent k =>
    refine ⟨[], by simp, ?_⟩
    constructor <;> simp [IoResult.transferred, IoResult.isOk]
  | case2 sent bytes k hb k' hs _ ih =>
    -- The call was cut short and is made again.
    obtain ⟨calls, hsends, hrest⟩ := ih
    refine ⟨⟨d, bytes, .error .interrupted⟩ :: calls, ?_, ?_⟩
    · rw [hsends, Logged.sends_of_send hs, List.append_assoc, List.singleton_append]
    · constructor
      · exact List.forall_mem_cons.mpr ⟨rfl, hrest.own⟩
      · rw [SendCall.takenOn_cons_error]
        exact hrest.split
      · rw [SendCall.takenOn_cons_error]
        exact hrest.counted
      · exact hrest.complete
      · intro hcalls
        exact hrest.succeeds fun c hc => hcalls c (List.mem_cons_of_mem _ hc)
  | case3 sent bytes k hb e k' hs he =>
    -- The kernel refuses, so this call took nothing and all bytes are left.
    refine ⟨[⟨d, bytes, .error e⟩], Logged.sends_of_send hs, ?_⟩
    constructor
    · simp
    · simp
    · simp
    · intro hok
      split at hok <;> exact nomatch hok
    · intro hcalls
      exact absurd (hcalls _ (List.mem_singleton_self _) e rfl) he
  | case4 sent bytes k hb n k' hs _ ih =>
    -- The first `n` bytes are gone, and the loop goes on with those behind them.
    obtain ⟨calls, hsends, hrest⟩ := ih
    have hn : n ≤ bytes.length := Kernel.send_bounded d bytes k n (by rw [hs])
    refine ⟨⟨d, bytes, .ok n⟩ :: calls, ?_, ?_⟩
    · rw [hsends, Logged.sends_of_send hs, List.append_assoc, List.singleton_append]
    · constructor
      · exact List.forall_mem_cons.mpr ⟨rfl, hrest.own⟩
      · rw [SendCall.takenOn_cons_ok, List.append_assoc, ← hrest.split, List.take_append_drop]
      · rw [SendCall.takenOn_cons_ok, hrest.counted, List.length_append, List.length_take,
          Nat.min_eq_left hn, Nat.add_assoc]
      · exact hrest.complete
      · intro hcalls
        exact hrest.succeeds fun c hc => hcalls c (List.mem_cons_of_mem _ hc)

/-! ## Receiving and shutting down -/

theorem receive_sends {d : Descriptor} {room : Nat} {deadline : Deadline} {k k' : Logged κ}
    {reply : Delivery} (h : receive d room deadline k = some (reply, k')) :
    k'.sends = k.sends := by
  -- Every way out of the loop has polled last or received last, and neither sends.
  fun_induction receive d room deadline k
  case case1 => exact nomatch h
  case case2 hpoll _ ih => exact (ih h).trans (Logged.sends_of_poll hpoll)
  case case3 hpoll _ | case4 hpoll =>
    cases h
    exact Logged.sends_of_poll hpoll
  case case5 hpoll _ hrecv | case6 hpoll _ _ _ hrecv | case8 hpoll _ _ hrecv _ _ |
      case9 hpoll _ _ hrecv _ _ =>
    cases h
    exact (Logged.sends_of_recv hrecv).trans (Logged.sends_of_poll hpoll)
  case case7 hpoll _ _ hrecv _ _ ih =>
    exact (ih h).trans ((Logged.sends_of_recv hrecv).trans (Logged.sends_of_poll hpoll))

theorem readSome_sends {room : Nat} {deadline : Deadline} {s : Socket} {k k' : Logged κ}
    {reply : Delivery} (h : readSome room deadline s k = some (reply, k')) :
    k'.sends = k.sends := by
  unfold readSome at h
  split at h
  · cases h
    rfl
  · split at h
    · cases h
      rfl
    · exact receive_sends h

theorem shutDown_keeps (direction : Shutdown) (result : IoResult) (s : Socket) (k : Logged κ) :
    (shutDown direction result s k).2.1 = s
      ∧ (shutDown direction result s k).2.2.sends = k.sends := by
  have hsends : (Kernel.shutdown s.descriptor direction k).2.sends = k.sends := rfl
  unfold shutDown
  split <;> rename_i h <;> rw [h] at hsends <;> exact ⟨rfl, hsends⟩

/-! ## The operations -/

/-- Whether a connection sends nothing any more. -/
def mute (s : Socket) : Bool := s.gone || s.outputClosed

@[simp] theorem mute_queue (s : Socket) (queue : List UInt8) :
    ({ s with queue } : Socket).mute = s.mute := rfl

theorem write_of_mute {s : Socket} (h : s.mute = true) (data : List UInt8) :
    s.write data = (.failed .notConnected, s) := if_pos h

theorem write_of_not_mute {s : Socket} (h : s.mute = false) (data : List UInt8) :
    s.write data = (.transferred data.length, { s with queue := s.queue ++ data }) :=
  if_neg (Bool.eq_false_iff.mp h)

theorem flush_of_mute {s : Socket} (h : s.mute = true) (k : κ) :
    s.flush k = (.failed .notConnected, s, k) := if_pos h

theorem flush_of_not_mute {s : Socket} (h : s.mute = false) (k : κ) :
    s.flush k = s.drain k := if_neg (Bool.eq_false_iff.mp h)

theorem closeInput_keeps (s : Socket) (k : Logged κ) :
    (s.closeInput k).2.1.queue = s.queue ∧ (s.closeInput k).2.1.mute = s.mute
      ∧ (s.closeInput k).2.1.descriptor = s.descriptor ∧ (s.closeInput k).2.2.sends = k.sends := by
  unfold closeInput
  split
  · exact ⟨rfl, rfl, rfl, rfl⟩
  · obtain ⟨hsocket, hsends⟩ := shutDown_keeps .receiving {} { s with inputClosed := true } k
    rw [hsocket, hsends]
    exact ⟨rfl, rfl, rfl, rfl⟩

theorem closeOutput_of_mute {s : Socket} (h : s.mute = true) (k : κ) :
    s.closeOutput k = ({}, s, k) := if_pos h

theorem closeOutput_of_not_mute {s : Socket} (h : s.mute = false) (k : Logged κ) :
    (s.closeOutput k).2.1 = { s with outputClosed := true, queue := [] }
      ∧ (s.closeOutput k).2.2.sends = (sendAll s.descriptor 0 s.queue k).2.2.sends := by
  unfold mute at h
  unfold closeOutput
  rw [if_neg (Bool.eq_false_iff.mp h)]
  exact shutDown_keeps .sending _ _ _

theorem close_keeps (s : Socket) (k : Logged κ) :
    (s.close k).2.1.queue = s.queue ∧ (s.close k).2.1.mute = true
      ∧ (s.close k).2.1.descriptor = s.descriptor ∧ (s.close k).2.2.sends = k.sends := by
  unfold close
  split
  · rename_i h
    exact ⟨rfl, by rw [mute, h, Bool.true_or], rfl, rfl⟩
  · obtain ⟨hsocket, hsends⟩ := shutDown_keeps .both {}
      { s with closed := true, inputClosed := true, outputClosed := true } k
    dsimp only
    split
    · rename_i h
      rw [h] at hsocket hsends
      rw [hsocket, hsends]
      exact ⟨rfl, Bool.or_true _, rfl, rfl⟩
    · rw [hsocket, hsends]
      exact ⟨rfl, Bool.or_true _, rfl, rfl⟩

/-! ## One step -/

/-- An entry of the history of a socket. Between the calls on it the kernel may do anything. -/
abbrev Entry (κ : Type) := History.Entry Unit (κ → κ) (Socket × Logged κ)

/-- What happens to the kernel leaves the socket alone and sends nothing through it. -/
def affect (change : κ → κ) (s : Socket × Logged κ) : Socket × Logged κ :=
  (s.1, { s.2 with kernel := change s.2.kernel })

/-- The bytes that a step brought into the queue: those of a write that succeeds. -/
def accepted (e : Entry κ) : List UInt8 :=
  match e.step with
  | .call (.write _ data) => if e.reply.result.isOk then data else []
  | _ => []

/-- Whether a step calls for the end of the output. -/
def Shuts (e : Entry κ) : Prop := e.step = .call (.closeOutput ()) ∨ e.step = .call (.close ())

/-- **What a step does.** The bytes in the queue and those that are new to it are sent in order, and
what is not sent is still queued, unless the output is closed: then it is dropped. -/
structure Changes (e : Entry κ) (calls : List SendCall) (dropped : List UInt8) : Prop where
  logged : e.after.2.sends = e.before.2.sends ++ calls
  own : ∀ c ∈ calls, c.descriptor = e.before.1.descriptor
  split : e.before.1.queue ++ accepted e
    = SendCall.takenOn e.before.1.descriptor calls ++ (e.after.1.queue ++ dropped)
  descriptor : e.after.1.descriptor = e.before.1.descriptor
  mute : e.after.1.mute = true ↔ e.before.1.mute = true ∨ Shuts e
  silent : e.before.1.mute = true → calls = [] ∧ dropped = [] ∧ accepted e = []
  kept : dropped ≠ [] → e.step = .call (.closeOutput ())
  written : ∀ data, e.step = .call (.write () data) → e.before.1.mute = false →
    e.reply.result = .transferred data.length
  flushed : e.step = .call (.flush ()) →
    e.reply.result.bytes = (SendCall.takenOn e.before.1.descriptor calls).length
      ∧ (e.reply.result.isOk = true → e.before.1.mute = false ∧ e.after.1.queue = [])
      ∧ (e.before.1.mute = false → (∀ c ∈ calls, c.Succeeds) → e.reply.result.isOk = true)
  closed : e.step = .call (.closeOutput ()) → e.before.1.mute = false →
    e.after.1.queue = [] ∧ ((∀ c ∈ calls, c.Succeeds) → dropped = [])

theorem changes_of_happens {e : Entry κ} (h : e.Happens affect) :
    ∃ calls dropped, Changes e calls dropped := by
  obtain ⟨step, ⟨s, k⟩, reply, s', k'⟩ := e
  simp only [History.Entry.Happens, History.Step.perform] at h
  cases step with
  | outside change =>
    cases h
    refine ⟨[], [], ?_⟩
    constructor <;> simp [accepted, Shuts]
  | call c =>
    cases c with
    | readSome r room deadline =>
      obtain ⟨⟨d, k₁⟩, hread, h⟩ := Option.map_eq_some_iff.mp h
      have hsends : k₁.sends = k.sends := readSome_sends hread
      cases h
      refine ⟨[], [], ?_⟩
      constructor <;> simp [accepted, Shuts, hsends]
    | write r data =>
      simp only [Call.perform, Transport.write] at h
      refine ⟨[], [], ?_⟩
      rcases hmute : s.mute with _ | _
      · rw [write_of_not_mute hmute] at h
        cases h
        constructor <;>
          simp [accepted, Shuts, hmute, Delivery.ofResult, IoResult.isOk, IoResult.transferred]
      · rw [write_of_mute hmute] at h
        cases h
        constructor <;>
          simp [accepted, Shuts, hmute, Delivery.ofResult, IoResult.isOk, IoResult.failed]
    | flush r =>
      simp only [Call.perform, Transport.flush] at h
      rcases hmute : s.mute with _ | _
      · rw [flush_of_not_mute hmute, drain] at h
        cases h
        obtain ⟨calls, hsends, hdrains⟩ := sendAll_sends s.descriptor 0 s.queue k
        have hcounted := hdrains.counted
        rw [Nat.zero_add] at hcounted
        refine ⟨calls, [], ?_⟩
        constructor <;>
          simp [accepted, Shuts, hmute, hsends, hcounted, ← hdrains.split, Delivery.ofResult]
        · exact hdrains.own
        · exact ⟨hdrains.complete, hdrains.succeeds⟩
      · rw [flush_of_mute hmute] at h
        cases h
        refine ⟨[], [], ?_⟩
        constructor <;>
          simp [accepted, Shuts, hmute, Delivery.ofResult, IoResult.isOk, IoResult.failed]
    | closeInput r =>
      obtain ⟨hqueue, hmute, hdescriptor, hsends⟩ := s.closeInput_keeps k
      obtain ⟨-, hstate⟩ := Prod.mk.inj (Option.some.inj h)
      simp only [Transport.closeInput] at hstate
      rw [hstate] at hqueue hmute hdescriptor hsends
      refine ⟨[], [], ?_⟩
      constructor <;> simp_all [accepted, Shuts]
    | closeOutput r =>
      rcases hmute : s.mute with _ | _
      · obtain ⟨calls, hsends, hdrains⟩ := sendAll_sends s.descriptor 0 s.queue k
        obtain ⟨hsocket, hlogged⟩ := closeOutput_of_not_mute hmute k
        obtain ⟨-, hstate⟩ := Prod.mk.inj (Option.some.inj h)
        simp only [Transport.closeOutput] at hstate
        rw [hstate] at hsocket hlogged
        obtain rfl : s' = _ := hsocket
        have hlogged : k'.sends = k.sends ++ calls := hlogged.trans hsends
        have hshut : ({ s with outputClosed := true, queue := [] } : Socket).mute = true :=
          Bool.or_true _
        -- What was not sent is dropped.
        refine ⟨calls, (sendAll s.descriptor 0 s.queue k).2.1, ?_⟩
        constructor <;> simp [accepted, Shuts, hmute, hshut, hlogged, ← hdrains.split]
        · exact hdrains.own
        · exact fun hcalls => hdrains.complete (hdrains.succeeds hcalls)
      · simp only [Call.perform, Transport.closeOutput] at h
        rw [closeOutput_of_mute hmute] at h
        cases h
        refine ⟨[], [], ?_⟩
        constructor <;> simp [accepted, Shuts, hmute]
    | close r =>
      obtain ⟨hqueue, hmute, hdescriptor, hsends⟩ := s.close_keeps k
      obtain ⟨-, hstate⟩ := Prod.mk.inj (Option.some.inj h)
      simp only [Transport.close] at hstate
      rw [hstate] at hqueue hmute hdescriptor hsends
      refine ⟨[], [], ?_⟩
      constructor <;> simp_all [accepted, Shuts]

/-! ## Runs -/

section Runs

omit [Kernel κ]

/-- All bytes that were written. -/
def written (past : List (Entry κ)) : List UInt8 := past.flatMap accepted

/-- Whether the output or the connection was closed, whatever came of it. -/
def Muted (past : List (Entry κ)) : Prop := ∃ e ∈ past, Shuts e

/-- Whether the output was closed. -/
def OutputClosed (past : List (Entry κ)) : Prop := ∃ e ∈ past, e.step = .call (.closeOutput ())

variable {d : Descriptor} {past : List (Entry κ)} {e : Entry κ} {calls : List SendCall}
  {dropped : List UInt8}

@[simp] theorem written_append (past : List (Entry κ)) (e : Entry κ) :
    written (past ++ [e]) = written past ++ accepted e := by
  rw [written, List.flatMap_append, List.flatMap_singleton, ← written]

/-- Closing the output is one of the ways to mute a connection. -/
theorem OutputClosed.muted (h : OutputClosed past) : Muted past := by
  obtain ⟨e, he, hstep⟩ := h
  exact ⟨e, he, .inl hstep⟩

/-- A flush brings nothing into the queue and drops nothing. -/
theorem Changes.of_flush (he : Changes e calls dropped) (hflush : e.step = .call (.flush ())) :
    accepted e = [] ∧ dropped = [] := by
  constructor
  · rw [accepted, hflush]
  · refine Decidable.byContradiction fun hne => ?_
    have hclose := he.kept hne
    rw [hflush] at hclose
    exact nomatch hclose

/-- How a connection comes from its past. -/
structure Tracks (d : Descriptor) (past : List (Entry κ)) (s : Socket × Logged κ) : Prop where
  descriptor : s.1.descriptor = d
  mute : s.1.mute = true ↔ Muted past
  split : ∃ dropped, written past = SendCall.takenOn d s.2.sends ++ (s.1.queue ++ dropped)
    ∧ (dropped ≠ [] → OutputClosed past)

theorem tracks_fresh (hd : 0 ≤ d) (k : κ) :
    Tracks d [] ({ descriptor := d }, { kernel := k }) := by
  constructor
  · rfl
  · have hvalid : ¬ d < 0 := Int32.not_lt.mpr hd
    simp [Socket.mute, gone, Muted, hvalid]
  · exact ⟨[], rfl, fun h => absurd rfl h⟩

/-- As long as a connection sends, nothing was dropped: all that was written was taken or waits. -/
theorem Tracks.split_of_not_mute {s : Socket × Logged κ} (h : Tracks d past s)
    (hmute : s.1.mute = false) :
    written past = SendCall.takenOn d s.2.sends ++ s.1.queue := by
  obtain ⟨dropped, hsplit, hdropped⟩ := h.split
  have hnone : dropped = [] := by
    refine Decidable.byContradiction fun hne => ?_
    exact Bool.eq_false_iff.mp hmute (h.mute.mpr (hdropped hne).muted)
  rw [hsplit, hnone, List.append_nil]

/-- What was written up to a step that may send. -/
theorem Tracks.split_after (h : Tracks d past e.before) (he : Changes e calls dropped)
    (hmute : e.before.1.mute = false) :
    written (past ++ [e])
      = SendCall.takenOn d e.after.2.sends ++ (e.after.1.queue ++ dropped) := by
  have hqueue := he.split
  rw [h.descriptor] at hqueue
  calc written (past ++ [e])
      = SendCall.takenOn d e.before.2.sends ++ (e.before.1.queue ++ accepted e) := by
        rw [written_append, h.split_of_not_mute hmute, List.append_assoc]
    _ = SendCall.takenOn d e.after.2.sends ++ (e.after.1.queue ++ dropped) := by
        rw [hqueue, he.logged, SendCall.takenOn_append, List.append_assoc]

/-- The connection behind a step comes from the past and that step. -/
theorem Tracks.step (h : Tracks d past e.before) (he : Changes e calls dropped) :
    Tracks d (past ++ [e]) e.after := by
  constructor
  · rw [he.descriptor, h.descriptor]
  · rw [he.mute, h.mute]
    simp only [Muted, List.mem_append, List.mem_singleton, or_and_right, exists_or, exists_eq_left]
  · rcases hmute : e.before.1.mute with _ | _
    · exact ⟨dropped, h.split_after he hmute, fun hne => ⟨e, by simp, he.kept hne⟩⟩
    · -- A connection that is mute stays as it is.
      obtain ⟨hcalls, hdropped, haccepted⟩ := he.silent hmute
      obtain ⟨lost, hsplit, hlost⟩ := h.split
      have hqueue := he.split
      rw [hcalls, hdropped, haccepted, List.append_nil, SendCall.takenOn_nil, List.nil_append,
        List.append_nil] at hqueue
      refine ⟨lost, ?_, ?_⟩
      · rw [written_append, haccepted, List.append_nil, hsplit, hqueue, he.logged, hcalls,
          List.append_nil]
      · intro hne
        obtain ⟨e', he', hstep⟩ := hlost hne
        exact ⟨e', List.mem_append_left _ he', hstep⟩

/-- **What holds of a step behind its past,** and of the sends that it makes. -/
structure Sending (d : Descriptor) (past : List (Entry κ)) (e : Entry κ) (calls : List SendCall) :
    Prop where
  logged : e.after.2.sends = e.before.2.sends ++ calls
  own : ∀ c ∈ calls, c.descriptor = d
  /-- What the kernel took is the beginning of what was written. -/
  ordered : SendCall.takenOn d e.after.2.sends <+: written (past ++ [e])
  /-- The rest waits in the queue until the output is closed. -/
  queued : ¬ OutputClosed (past ++ [e]) →
    SendCall.takenOn d e.after.2.sends ++ e.after.1.queue = written (past ++ [e])
  accepting : ∀ data, e.step = .call (.write () data) → ¬ Muted past →
    e.reply.result = .transferred data.length
  /-- A flush that succeeds leaves nothing unsent. -/
  flushed : e.step = .call (.flush ()) → e.reply.result.isOk = true →
    SendCall.takenOn d e.after.2.sends = written (past ++ [e])
  flushing : e.step = .call (.flush ()) → ¬ Muted past → (∀ c ∈ calls, c.Succeeds) →
    e.reply.result.isOk = true
  /-- A flush, also one that fails, counts what it took from the queue. -/
  counted : e.step = .call (.flush ()) →
    e.reply.result.bytes = (SendCall.takenOn d calls).length
      ∧ e.before.1.queue = SendCall.takenOn d calls ++ e.after.1.queue
  /-- The first closing of the output sends what was queued, if the kernel does not refuse. -/
  closed : e.step = .call (.closeOutput ()) → ¬ Muted past → (∀ c ∈ calls, c.Succeeds) →
    SendCall.takenOn d e.after.2.sends = written (past ++ [e])
  silent : Muted past → calls = []

theorem Tracks.sending (h : Tracks d past e.before) (he : Changes e calls dropped) :
    Sending d past e calls := by
  -- Prefix and queue are read off the connection behind the step, the rest off the step itself.
  have hafter := h.step he
  have hmute : ¬ Muted past → e.before.1.mute = false := fun hmuted =>
    Bool.eq_false_iff.mpr (mt h.mute.mp hmuted)
  constructor
  · exact he.logged
  · rw [← h.descriptor]
    exact he.own
  · obtain ⟨lost, hsplit, -⟩ := hafter.split
    exact ⟨_, hsplit.symm⟩
  · intro hopen
    obtain ⟨lost, hsplit, hlost⟩ := hafter.split
    have hnone : lost = [] := Decidable.byContradiction fun hne => hopen (hlost hne)
    rw [hsplit, hnone, List.append_nil]
  · exact fun data hwrite hmuted => he.written data hwrite (hmute hmuted)
  · intro hflush hok
    obtain ⟨hbefore, hqueue⟩ := (he.flushed hflush).2.1 hok
    rw [h.split_after he hbefore, hqueue, (he.of_flush hflush).2, List.append_nil, List.append_nil]
  · exact fun hflush hmuted => (he.flushed hflush).2.2 (hmute hmuted)
  · intro hflush
    have hqueue := he.split
    rw [(he.of_flush hflush).1, (he.of_flush hflush).2, List.append_nil, List.append_nil,
      h.descriptor] at hqueue
    refine ⟨?_, hqueue⟩
    rw [(he.flushed hflush).1, h.descriptor]
  · intro hclose hmuted hcalls
    obtain ⟨hqueue, hdropped⟩ := he.closed hclose (hmute hmuted)
    rw [h.split_after he (hmute hmuted), hqueue, hdropped hcalls, List.append_nil, List.append_nil]
  · exact fun hmuted => (he.silent (h.mute.mpr hmuted)).1

end Runs

/-- The history of a fresh connection over a descriptor. -/
def history (d : Descriptor) (k : κ) (steps : List (History.Step Unit (κ → κ))) :
    List (Entry κ) :=
  History.entries affect steps ({ descriptor := d }, { kernel := k })

/-- **A socket sends every byte that was written at most once and in order.** Of every step of every
history of a connection over a descriptor `Sending` holds, whatever the kernel does; and a history
without reads is complete. -/
theorem sending_of_history {d : Descriptor} (hd : 0 ≤ d) (k : κ)
    (steps : List (History.Step Unit (κ → κ))) :
    (∀ past e back, history d k steps = past ++ e :: back → ∃ calls, Sending d past e calls)
      ∧ ((∀ r room deadline, .call (.readSome r room deadline) ∉ steps) →
        (history d k steps).map (·.step) = steps) := by
  -- The induction is on the history, with `Tracks` as what every step keeps.
  have hstep : ∀ (past : List (Entry κ)) (e : Entry κ), Tracks d past e.before →
      e.Happens affect → Tracks d (past ++ [e]) e.after := by
    intro past e h he
    obtain ⟨calls, dropped, hchanges⟩ := changes_of_happens he
    exact h.step hchanges
  refine ⟨?_, fun hreads => History.complete_of_no_read hreads _⟩
  intro past e back hpast
  obtain ⟨he, hbefore, -⟩ := History.keeps_at hstep (tracks_fresh hd k) hpast
  obtain ⟨calls, dropped, hchanges⟩ := changes_of_happens he
  exact ⟨calls, hbefore.sending hchanges⟩

end Socket

/-! ## A kernel that plays back outcomes of sends -/

/-- The outcomes of the next sends; behind them all that is offered is taken. -/
structure PlayedSends where
  outcomes : List (Except Errno Nat)

namespace PlayedSends

/-- Plays back the next outcome. A number of bytes is cut to what was offered, and is not zero if
anything was. -/
def send (bytes : List UInt8) (k : PlayedSends) : Except Errno Nat × PlayedSends :=
  match k.outcomes with
  | [] => (.ok bytes.length, k)
  | .error e :: outcomes => (.error e, ⟨outcomes⟩)
  | .ok n :: outcomes => (.ok (min (max 1 n) bytes.length), ⟨outcomes⟩)

instance : Kernel PlayedSends where
  now k := (⟨0⟩, k)
  poll _ _ k := some (.ok false, k)
  recv _ _ k := (.ok [], k)
  send _ := send
  queued _ _ := 0
  shutdown _ _ k := (none, k)
  release _ k := k
  socket _ k := (.error .accessDenied, k)
  reuseAddress _ k := (some .badDescriptor, k)
  bind _ _ _ k := (some .badDescriptor, k)
  listen _ k := (some .badDescriptor, k)
  accept _ k := (.error .badDescriptor, k)
  localPort _ _ := none
  resolve _ _ k := (.ok [], k)
  connect _ _ k := (some .badDescriptor, k)
  streamPair k := (.error .accessDenied, k)
  interruptions k := k.outcomes.length
  now_interruptions _ := Nat.le_refl _
  poll_interruptions _ _ _ _ h := by
    cases h
    exact Nat.le_refl _
  poll_interrupted _ _ _ _ h hr := by
    cases h
    exact nomatch hr
  recv_retried _ _ _ _ h := nomatch h
  send_interrupted _ bytes k h := by
    unfold send at h ⊢
    rcases houtcomes : k.outcomes with _ | ⟨_ | n, outcomes⟩
    · rw [houtcomes] at h
      exact nomatch h
    · exact Nat.lt_succ_self _
    · rw [houtcomes] at h
      exact nomatch h
  recv_bounded _ _ _ _ h := by
    cases h
    exact Nat.zero_le _
  send_progress _ bytes _ _ h hbytes := by
    have hoffered : 0 < bytes.length := List.length_pos_iff.mpr hbytes
    unfold send at h
    split at h <;> cases h <;> omega
  send_bounded _ _ _ _ h := by
    unfold send at h
    split at h <;> cases h <;> omega
  accept_retried _ _ _ h := by
    cases h
    simp

end PlayedSends

/-- Two of four bytes are taken, then the peer is gone for a moment; the next flush sends the other
two and the fifth byte, in two parts. The closing of the output sends the sixth. -/
theorem Socket.sending_of_history_resumed :
    (0 : Descriptor) ≤ 3 ∧ ∃ past : List (Socket.Entry PlayedSends),
      past = Socket.history 3 ⟨[.ok 2, .error .interrupted, .error .connectionReset, .ok 1]⟩
        [.call (.write () [1, 2, 3, 4]), .call (.flush ()), .call (.write () [5]),
          .call (.flush ()), .call (.write () [6]), .call (.closeOutput ()), .call (.flush ())]
      ∧ past.map (fun e => (e.reply.result, SendCall.takenOn 3 e.after.2.sends))
        = [(.transferred 4, []),
          ({ status := .connectionReset, bytes := 2, error := .connectionReset }, [1, 2]),
          (.transferred 1, [1, 2]), (.transferred 3, [1, 2, 3, 4, 5]),
          (.transferred 1, [1, 2, 3, 4, 5]), (.transferred 1, [1, 2, 3, 4, 5, 6]),
          (.failed .notConnected, [1, 2, 3, 4, 5, 6])]
      ∧ ∀ front e back, past = front ++ e :: back → ∃ calls, Socket.Sending 3 front e calls := by
  refine ⟨by decide, _, rfl, ?_, (Socket.sending_of_history (by decide) _ _).1⟩
  simp [Socket.history, History.entries, History.Step.perform, Call.perform, Transport.write,
    Transport.flush, Transport.closeOutput, Socket.write, Socket.flush, Socket.closeOutput,
    Socket.gone, Socket.drain, Socket.sendAll, Socket.shutDown, Kernel.send, Kernel.shutdown,
    PlayedSends.send, Logged.on, Delivery.ofResult, IoResult.transferred, IoResult.failed,
    Errno.isReset]

end ModbusTcp
