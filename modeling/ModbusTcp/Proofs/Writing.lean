import ModbusTcp.Channel
import ModbusTcp.Proofs.MemoryQueues
import ModbusTcp.Proofs.RoundTrip

/-!
Writing a message is all or nothing, as far as the channel can see to it.

A frame is handed over in a single call (`EncodeTo`), and a flush only follows when the connection
took all of it over (`Transport.TakesOver`). `Channel.writeCalls` says which calls that comes to.
Over a connection in memory it means that a frame is sent whole or leaves no trace: bytes are only
taken over while the output is open, so the flush behind them cannot fail
(`Memory.flush_of_takesOver`). The main statement is `write_all_or_nothing`.
-/

set_option autoImplicit false

namespace ModbusTcp

/-! ## Taking bytes over -/

namespace Transport

variable {ρ σ : Type} [Transport ρ σ]

/-- Whether a connection takes over all of some bytes: the write succeeds, and it reports as
many. -/
def TakesOver (r : ρ) (data : List UInt8) (s : σ) : Prop :=
  (write r data s).1.status = .ok ∧ (write r data s).1.bytes = data.length

instance (r : ρ) (data : List UInt8) (s : σ) : Decidable (TakesOver r data s) :=
  inferInstanceAs (Decidable (_ ∧ _))

end Transport

namespace Memory

open Transport

variable {m : Memory} {data : List UInt8}

/-- **What was taken over can be flushed.** A write succeeds only while the output is open, and does
not close it. -/
theorem flush_of_takesOver (h : TakesOver () data m) :
    Transport.flush () (Transport.write () data m).2
      = (.transferred (m.pending ++ data).length,
        { m with written := m.written ++ m.pending ++ data, pending := []
                 flushes := m.flushes + 1 }) := by
  have hopen : m.outputClosed = false := by
    rcases hclosed : m.outputClosed with _ | _
    · rfl
    · have hrefused : m.write data = (.failed .brokenPipe, m) := by rw [write, if_pos hclosed]
      have hok : (m.write data).1.status = .ok := h.1
      rw [hrefused] at hok
      exact nomatch hok
  have hwrite : m.write data
      = (.transferred data.length, { m with pending := m.pending ++ data }) := by
    rcases m.write_cases data with hwrite | ⟨error, hrefused⟩
    · exact hwrite
    · have hok : (m.write data).1.status = .ok := h.1
      rw [hrefused] at hok
      exact nomatch hok
  show (m.write data).2.flush = _
  rw [hwrite, flush, if_neg (by rw [hopen]; exact Bool.false_ne_true), drain, List.append_assoc]

/-- What was not taken over left nothing behind. -/
theorem write_of_not_takesOver (h : ¬ TakesOver () data m) :
    (Transport.write () data m).2 = m := by
  show (m.write data).2 = m
  rcases m.write_cases data with hwrite | ⟨error, hrefused⟩
  · refine absurd ?_ h
    show (m.write data).1.status = .ok ∧ (m.write data).1.bytes = data.length
    rw [hwrite]
    exact ⟨rfl, rfl⟩
  · rw [hrefused]

end Memory

/-! ## The ways that a write goes -/

namespace Channel

open Transport

variable {ρ σ : Type} [Transport ρ σ] {role : Role} {c : Channel ρ} {r : ρ} {m : Message role}

/-- The calls that writing a message makes. -/
def writeCalls (c : Channel ρ) (m : Message role) (s : σ) : List (Call ρ) :=
  match c.connection with
  | none => []
  | some r =>
    if Frame.maximumLength < m.frame.length then []
    else if TakesOver r m.frame s then [.write r m.frame, .flush r]
    else [.write r m.frame]

/-- Whether writing a message succeeds. -/
def Completes (c : Channel ρ) (m : Message role) (s : σ) : Prop :=
  ∃ r, c.connection = some r ∧ m.frame.length ≤ Frame.maximumLength ∧ TakesOver r m.frame s
    ∧ (flush r (Transport.write r m.frame s).2).1.status = .ok

section Ways

theorem write_of_unbound (hr : c.connection = none) (m : Message role) (s : σ) :
    c.write m s = (.error .unbound, s) := by
  rw [Channel.write, hr]

/-- A message that is too long is refused, and the connection is left as it was. -/
theorem write_of_tooLong (hr : c.connection = some r) (hsize : 260 < 8 + m.payloadSize) (s : σ) :
    c.write m s = (.error (.notSent (.tooLong (8 + m.payloadSize))), s) := by
  rw [Channel.write, hr]
  simp only
  rw [Message.send_of_tooLong hsize]

/-- A frame that is not taken over is not flushed. -/
theorem write_of_not_written (hr : c.connection = some r) (hsize : 8 + m.payloadSize ≤ 260)
    {s s' : σ} {result : IoResult} (hwrite : Transport.write r m.frame s = (result, s'))
    (hfailed : ¬ (result.status = .ok ∧ result.bytes = m.frame.length)) :
    ∃ cause, c.write m s = (.error (.notSent cause), s') := by
  obtain ⟨cause, hcause⟩ := Message.send_of_not_written hsize hwrite hfailed
  refine ⟨cause, ?_⟩
  rw [Channel.write, hr]
  simp only
  rw [hcause]

/-- The flush decides about a frame that was taken over. -/
theorem write_of_written (hr : c.connection = some r) (hsize : 8 + m.payloadSize ≤ 260)
    {s s' s'' : σ} {result flushed : IoResult}
    (hwrite : Transport.write r m.frame s = (result, s')) (hok : result.status = .ok)
    (hbytes : result.bytes = m.frame.length) (hflush : flush r s' = (flushed, s'')) :
    c.write m s
      = (if flushed.status ≠ .ok then .error (.notFlushed flushed) else .ok (), s'') := by
  have hsent := Message.send_of_written hsize hwrite hok hbytes
  rw [Channel.write, hr]
  simp only
  rw [hsent]
  simp only
  rw [hflush]
  simp only
  split <;> rfl

theorem write_of_not_takesOver (hr : c.connection = some r) (hsize : 8 + m.payloadSize ≤ 260)
    {s : σ} (htaken : ¬ TakesOver r m.frame s) :
    ∃ cause, c.write m s = (.error (.notSent cause), (Transport.write r m.frame s).2) :=
  write_of_not_written hr hsize (Prod.eta (Transport.write r m.frame s)).symm htaken

theorem write_of_takesOver (hr : c.connection = some r) (hsize : 8 + m.payloadSize ≤ 260) {s : σ}
    (htaken : TakesOver r m.frame s) :
    c.write m s
      = (if (flush r (Transport.write r m.frame s).2).1.status ≠ .ok then
          .error (.notFlushed (flush r (Transport.write r m.frame s).2).1)
        else .ok (), (flush r (Transport.write r m.frame s).2).2) :=
  write_of_written hr hsize (Prod.eta (Transport.write r m.frame s)).symm htaken.1 htaken.2
    (Prod.eta (flush r (Transport.write r m.frame s).2)).symm

end Ways

/-! ## Results -/

/-- The calls that are written down are those that `writeCalls` names. -/
theorem calls_write_eq (c : Channel ρ) (m : Message role) (s : Recorded ρ σ) :
    (c.write m s).2.calls = s.calls ++ c.writeCalls m s.state := by
  unfold writeCalls
  rcases hr : c.connection with _ | r
  · rw [write_of_unbound hr]
    exact (List.append_nil _).symm
  · simp only [Message.maximumLength_lt]
    by_cases hsize : 260 < 8 + m.payloadSize
    · rw [if_pos hsize, write_of_tooLong hr hsize]
      exact (List.append_nil _).symm
    · rw [if_neg hsize]
      -- Writing calls down does not change what is taken over.
      by_cases htaken : TakesOver r m.frame s
      · rw [write_of_takesOver hr (Nat.not_lt.mp hsize) htaken, Recorded.calls_flush,
          Recorded.calls_write, List.append_assoc,
          if_pos (show TakesOver r m.frame s.state from htaken)]
        rfl
      · obtain ⟨cause, hcause⟩ := write_of_not_takesOver hr (Nat.not_lt.mp hsize) htaken
        rw [hcause, Recorded.calls_write, if_neg (show ¬ TakesOver r m.frame s.state from htaken)]

theorem write_eq_ok_iff (c : Channel ρ) (m : Message role) (s : σ) :
    (c.write m s).1 = .ok () ↔ c.Completes m s := by
  have hlength : m.frame.length ≤ Frame.maximumLength ↔ 8 + m.payloadSize ≤ 260 := by
    rw [← Nat.not_lt, Message.maximumLength_lt, Nat.not_lt]
  constructor
  · intro hok
    rcases hr : c.connection with _ | r
    · rw [write_of_unbound hr] at hok
      cases hok
    · by_cases hsize : 8 + m.payloadSize ≤ 260
      · by_cases htaken : TakesOver r m.frame s
        · refine ⟨r, hr, hlength.mpr hsize, htaken, ?_⟩
          refine Decidable.byContradiction fun hflush => ?_
          rw [write_of_takesOver hr hsize htaken, if_pos hflush] at hok
          cases hok
        · obtain ⟨cause, hcause⟩ := write_of_not_takesOver hr hsize htaken
          rw [hcause] at hok
          cases hok
      · rw [write_of_tooLong hr (Nat.lt_of_not_le hsize)] at hok
        cases hok
  · rintro ⟨r, hr, hsize, htaken, hflush⟩
    rw [write_of_takesOver hr (hlength.mp hsize) htaken, if_neg (not_not.mpr hflush)]

/-- A connection in memory has sent the frame whole, behind what was pending, or is as before. -/
theorem write_memory (c : Channel Unit) (m : Message role) (s : Memory) :
    (∃ f, c.write m s = (.error f, s))
      ∨ c.write m s = (.ok (),
        { s with written := s.written ++ s.pending ++ m.frame, pending := []
                 flushes := s.flushes + 1 }) := by
  rcases hr : c.connection with _ | r
  · exact .inl ⟨_, write_of_unbound hr m s⟩
  · by_cases hsize : 8 + m.payloadSize ≤ 260
    · by_cases htaken : TakesOver () m.frame s
      · right
        rw [write_of_takesOver hr hsize htaken, Memory.flush_of_takesOver htaken]
        rfl
      · obtain ⟨cause, hcause⟩ := write_of_not_takesOver hr hsize htaken
        rw [Memory.write_of_not_takesOver htaken] at hcause
        exact .inl ⟨_, hcause⟩
    · exact .inl ⟨_, write_of_tooLong hr (Nat.lt_of_not_le hsize) s⟩

/-- **Writing a message is all or nothing.** Over any connection, the calls are those of
`writeCalls`, and success is what `Completes` says; every failure is an I/O failure, and none is put
down to a timeout. Over a connection in memory, in whatever state, a failure leaves it as it was,
and a success has sent what was pending and the whole frame behind it. -/
theorem write_all_or_nothing (c : Channel ρ) (m : Message role) (s : Recorded ρ σ) :
    (c.write m s).2.calls = s.calls ++ c.writeCalls m s.state
    ∧ ((c.write m s).1 = .ok () ↔ c.Completes m s.state)
    ∧ (∀ f, (c.write m s).1 = .error f →
      f.status.outcome = .ioFailure ∧ f.status.timedOut = false)
    ∧ ∀ (c : Channel Unit) (s : Memory),
      (∀ f, (c.write m s).1 = .error f → (c.write m s).2 = s)
      ∧ ((c.write m s).1 = .ok () → (c.write m s).2
        = { s with written := s.written ++ s.pending ++ m.frame, pending := []
                   flushes := s.flushes + 1 }) := by
  refine ⟨calls_write_eq c m s, write_eq_ok_iff c m s, fun _ _ => ⟨rfl, rfl⟩, ?_⟩
  intro c s
  rcases write_memory c m s with ⟨f, hfailed⟩ | hsent
  · rw [hfailed]
    exact ⟨fun _ _ => rfl, nofun⟩
  · rw [hsent]
    exact ⟨nofun, fun _ => rfl⟩

/-- With a byte pending, a request is sent behind it; through a closed output neither is. -/
theorem write_all_or_nothing_coil :
    let c : Channel Unit := ({} : Channel Unit).attach ()
    let m : Message .request := .writeCoilRequest 0x13 true
    let s : Memory := { pending := [0xEE] }
    let broken : Memory := { pending := [0xEE], outputClosed := true }
    (c.write m (⟨s, []⟩ : Recorded Unit Memory)).2.calls = [.write () m.frame, .flush ()]
    ∧ (c.write m s).1 = .ok ()
    ∧ (c.write m s).2 = { written := 0xEE :: m.frame, flushes := 1 }
    ∧ (c.write m (⟨broken, []⟩ : Recorded Unit Memory)).2.calls = [.write () m.frame]
    ∧ (c.write m broken).1 = .error (.notSent (.notWritten .brokenPipe))
    ∧ (c.write m broken).2 = broken := by
  intro c m s broken
  have hsent : (c.write m s).1 = .ok () := by rfl
  have hfailed : (c.write m broken).1 = .error (.notSent (.notWritten .brokenPipe)) := by rfl
  have htaken : c.writeCalls m s = [.write () m.frame, .flush ()] := by rfl
  have hrefused : c.writeCalls m broken = [.write () m.frame] := by rfl
  obtain ⟨hcalls, -, -, hmemory⟩ := write_all_or_nothing c m (⟨s, []⟩ : Recorded Unit Memory)
  have hbroken := (write_all_or_nothing c m (⟨broken, []⟩ : Recorded Unit Memory)).1
  refine ⟨hcalls.trans htaken, hsent, (hmemory c s).2 hsent, hbroken.trans hrefused, hfailed,
    (hmemory c broken).1 _ hfailed⟩

end Channel

end ModbusTcp
