import ModbusTcp.Proofs.Answer
import ModbusTcp.Proofs.Calls
import ModbusTcp.Proofs.Playback
import ModbusTcp.Proofs.Requests

/-!
Serving answers the requests at the front of the input, in order, and nothing behind them.

Which requests serving (`Serve`) answers is in the input (`Framing.requests`). How far serving gets
with their answers depends on what the connection makes of the writes and flushes, and
`Server.course` says what comes of that. A turn either takes one request from the input or one
timeout, so the turns follow the requests (`Server.turns_course`), and the main statement,
`Server.serve_answers_requests`, tells the two courses apart: all answers are taken, or one is the
first that is not.
-/

set_option autoImplicit false

namespace ModbusTcp

open InputSymbol Transport
open VariantTable (standard)

/-! ## The course of serving -/

namespace Server

/-- What serving some requests comes to. -/
structure Course where
  /-- The number of answers that were taken. -/
  served : Nat
  /-- The calls that wrote and flushed them. -/
  done : List (Call Unit)
  /-- The calls that were to write an answer that was not taken. -/
  last : List (Call Unit)
  /-- What of the answers was reported as written. -/
  sent : List UInt8
  /-- The input that was not read. -/
  left : List InputSymbol

/-- The calls that write an answer. -/
def exchange (a : Message .response) : List (Call Unit) := [.write () a.frame, .flush ()]

/-- The calls that fail to write an answer: there is no flush if the write takes less than all. -/
def attempt (t : Script) (number : Nat) (a : Message .response) : List (Call Unit) :=
  if t.TakesWrite number a.frame.length then exchange a else [.write () a.frame]

/-- What is reported as written of an answer that was not taken: all of it or nothing. -/
def claimed (t : Script) (number : Nat) (a : Message .response) : List UInt8 :=
  if (t.writeResult number a.frame.length).isOk then a.frame else []

/-- Answers the requests one after the other, as long as the script takes the answers. The first of
them has the given number. -/
def course (t : Script) : Nat → List (Message .request × List InputSymbol) → List InputSymbol →
    Course
  | _, [], left => { served := 0, done := [], last := [], sent := [], left }
  | number, (request, behind) :: requests, left =>
    let a := answer request
    if t.Takes number a.frame.length then
      let next := course t (number + 1) requests left
      { next with
        served := next.served + 1
        done := exchange a ++ next.done
        sent := a.frame ++ next.sent }
    else
      { served := 0, done := [], last := attempt t number a, sent := claimed t number a
        left := behind }

variable {t : Script} {number : Nat} {request : Message .request} {behind left : List InputSymbol}
  {requests : List (Message .request × List InputSymbol)}

theorem course_of_takes (h : t.Takes number (answer request).frame.length) :
    let next := course t (number + 1) requests left
    course t number ((request, behind) :: requests) left
      = { next with
          served := next.served + 1
          done := exchange (answer request) ++ next.done
          sent := (answer request).frame ++ next.sent } := if_pos h

theorem course_of_not_takes (h : ¬ t.Takes number (answer request).frame.length) :
    course t number ((request, behind) :: requests) left
      = { served := 0
          done := []
          last := attempt t number (answer request)
          sent := claimed t number (answer request)
          left := behind } := if_neg h

/-- If the script takes all answers, then all of them are given. -/
theorem course_of_all
    (h : ∀ i request, requests[i]? = some request →
      t.Takes (number + i) (answer request.1).frame.length) :
    course t number requests left
      = { served := requests.length
          done := requests.flatMap fun request => exchange (answer request.1)
          last := []
          sent := requests.flatMap fun request => (answer request.1).frame
          left } := by
  induction requests generalizing number with
  | nil => rfl
  | cons first requests ih =>
    have hlater : ∀ i request, requests[i]? = some request →
        t.Takes (number + 1 + i) (answer request.1).frame.length := by
      intro i request hi
      rw [Nat.add_assoc, Nat.add_comm 1]
      exact h (i + 1) request hi
    obtain ⟨request, behind⟩ := first
    have hfirst := h 0 (request, behind) rfl
    rw [Nat.add_zero] at hfirst
    rw [course_of_takes hfirst, ih hlater]
    rfl

/-- If there is a first answer that the script does not take, then those before it are given, and
nothing is done after it. -/
theorem course_of_first {j : Nat} (hj : requests[j]? = some (request, behind))
    (htaken : ∀ i < j, ∀ request, requests[i]? = some request →
      t.Takes (number + i) (answer request.1).frame.length)
    (hrefused : ¬ t.Takes (number + j) (answer request).frame.length) :
    course t number requests left
      = { served := j
          done := (requests.take j).flatMap fun request => exchange (answer request.1)
          last := attempt t (number + j) (answer request)
          sent := ((requests.take j).flatMap fun request => (answer request.1).frame)
            ++ claimed t (number + j) (answer request)
          left := behind } := by
  induction requests generalizing number j with
  | nil => exact nomatch hj
  | cons first requests ih =>
    cases j with
    | zero =>
      cases hj
      exact course_of_not_takes hrefused
    | succ j =>
      have hnumber : ∀ i, number + (i + 1) = number + 1 + i := by omega
      have hlater : ∀ i < j, ∀ request, requests[i]? = some request →
          t.Takes (number + 1 + i) (answer request.1).frame.length := by
        intro i hi request hrequest
        rw [← hnumber]
        exact htaken (i + 1) (Nat.succ_lt_succ hi) request hrequest
      obtain ⟨request', behind'⟩ := first
      have hfirst := htaken 0 (Nat.succ_pos j) (request', behind') rfl
      rw [Nat.add_zero] at hfirst
      rw [hnumber] at hrefused ⊢
      rw [course_of_takes hfirst, ih hj hlater hrefused]
      simp only [List.take_succ_cons, List.flatMap_cons, List.append_assoc]

/-! ## Turns -/

/-- What holds between two turns, when so many answers of a script were taken and the given symbols
are left. -/
structure Serving (t : Script) (number : Nat) (c : Channel Unit) (s : Recorded Unit Script)
    (symbols : List InputSymbol) : Prop where
  bound : c.BoundTo ()
  table : c.table = standard
  isOpen : s.state.isOpen = true
  writes : s.state.writes = t.writes.drop number
  flushes : s.state.flushes = t.flushes.drop number
  delivers : Delivers () s symbols

/-- What was done between two states of a channel: the calls besides reads, and the bytes that were
reported as written. Of the channel only the contents of the buffer changed. -/
structure Passed (c : Channel Unit) (s : Recorded Unit Script) (done : List (Call Unit))
    (sent : List UInt8) (c' : Channel Unit) (s' : Recorded Unit Script) : Prop where
  channel : c' = { c with buffer := c'.buffer }
  calls : ∃ calls, s'.calls = s.calls ++ calls ∧ calls.filter (!·.isRead) = done
  written : s'.state.written = s.state.written ++ sent

variable {c c' c'' : Channel Unit} {s s' s'' : Recorded Unit Script}
  {symbols rest : List InputSymbol}

theorem Passed.trans {done done' : List (Call Unit)} {sent sent' : List UInt8}
    (h : Passed c s done sent c' s') (h' : Passed c' s' done' sent' c'' s'') :
    Passed c s (done ++ done') (sent ++ sent') c'' s'' := by
  obtain ⟨hc, ⟨calls, hcalls, hdone⟩, hsent⟩ := h
  obtain ⟨hc', ⟨calls', hcalls', hdone'⟩, hsent'⟩ := h'
  refine ⟨by rw [hc', hc], ⟨calls ++ calls', ?_, ?_⟩, ?_⟩
  · rw [hcalls', hcalls, List.append_assoc]
  · rw [List.filter_append, hdone, hdone']
  · rw [hsent', hsent, List.append_assoc]

theorem unreadable_of_reads (h : Reads () s s') : s'.state.unreadable = s.state.unreadable := by
  refine (Recorded.reads_state h).keeps (fun t => t.unreadable = s.state.unreadable) ?_ rfl
  intro room deadline t d t' hread ht
  have hfound : t.readSome room = (d, t') := Option.some.inj hread
  have hkept := Script.unreadable_readSome room t
  rw [hfound] at hkept
  exact hkept.trans ht

/-- A turn reads a request or fails to read one as the reference does. -/
theorem Serving.read (h : Serving t number c s symbols) (start : Instant) :
    ∃ outcome c' s', c.read .request start s = some (outcome, c', s')
      ∧ outcome.mapError ReadFailure.status = (Framing.step standard .request symbols).1
      ∧ Serving t number c' s' (Framing.step standard .request symbols).2
      ∧ Passed c s [] [] c' s' := by
  obtain ⟨outcome, b', s', hread, houtcome, hbound, hrest⟩ :=
    Channel.read_of_delivers h.bound h.delivers .request start
  rw [h.table] at houtcome hrest
  -- Reading plays back no result of a write or a flush, so the script has them still.
  obtain ⟨hreads, -⟩ := Channel.read_leaves h.bound hread
  obtain ⟨calls, hcalls, hall⟩ := Recorded.calls_of_reads hreads
  have hkept := unreadable_of_reads hreads
  have hopen : s'.state.unreadable.isOpen = s.state.unreadable.isOpen := by rw [hkept]
  have hwrites : s'.state.unreadable.writes = s.state.unreadable.writes := by rw [hkept]
  have hflushes : s'.state.unreadable.flushes = s.state.unreadable.flushes := by rw [hkept]
  have hwritten : s'.state.unreadable.written = s.state.unreadable.written := by rw [hkept]
  refine ⟨outcome, _, s', hread, houtcome, ?_, rfl, ⟨calls, hcalls, ?_⟩, ?_⟩
  · exact ⟨hbound, h.table, hopen.trans h.isOpen, hwrites.trans h.writes,
      hflushes.trans h.flushes, hrest⟩
  · rw [List.filter_eq_nil_iff]
    intro call hcall
    rw [(hall call hcall).2]
    exact Bool.false_ne_true
  · rw [List.append_nil]
    exact hwritten

/-- An answer that fits a frame is written and flushed. What comes of it is in the script. -/
theorem Serving.write (h : Serving t number c s symbols) {a : Message .response}
    (hsize : 8 + a.payloadSize ≤ 260) :
    (t.Takes number a.frame.length → ∃ s', c.write a s = (.ok (), s')
      ∧ Serving t (number + 1) c s' symbols ∧ s'.calls = s.calls ++ exchange a
      ∧ s'.state.written = s.state.written ++ a.frame)
    ∧ (¬ t.Takes number a.frame.length → ∃ failure s', c.write a s = (.error failure, s')
      ∧ Delivers () s' symbols ∧ s'.calls = s.calls ++ attempt t number a
      ∧ s'.state.written = s.state.written ++ claimed t number a) := by
  obtain ⟨⟨hr, hbuffer⟩, htable, hopen, hwrites, hflushes, hdelivers⟩ := h
  obtain ⟨s₁, hwrite, hstate₁, hcalls₁⟩ := Script.exists_write hwrites a.frame
  have hflushes₁ : s₁.state.flushes = t.flushes.drop number := by rw [hstate₁, hflushes]
  obtain ⟨s₂, hflush, hstate₂, hcalls₂⟩ := Script.exists_flush hflushes₁
  have hdelivers₁ : Delivers () s₁ symbols := Script.delivers_of_reads hdelivers (by rw [hstate₁])
  have hdelivers₂ : Delivers () s₂ symbols := Script.delivers_of_reads hdelivers₁ (by rw [hstate₂])
  have hcalls : s₂.calls = s.calls ++ exchange a := by
    rw [hcalls₂, hcalls₁, List.append_assoc]
    rfl
  have hclaimed : s₁.state.written = s.state.written ++ claimed t number a := by
    rw [hstate₁, claimed]
    simp only
    split
    · rfl
    · exact (List.append_nil _).symm
  have hwritten : s₂.state.written = s.state.written ++ claimed t number a := by
    rw [← hclaimed, hstate₂]
  -- The flush is called if the write took all of the frame, and only then.
  by_cases hwhole : t.TakesWrite number a.frame.length
  · have houtcome := Channel.write_of_written hr hsize hwrite hwhole.1 hwhole.2 hflush
    have hok : claimed t number a = a.frame := if_pos (decide_eq_true hwhole.1)
    refine ⟨fun htakes => ⟨s₂, ?_, ?_, hcalls, by rw [hwritten, hok]⟩, fun hrefused => ?_⟩
    · rw [houtcome, if_neg (not_not.mpr htakes.2)]
    · exact ⟨⟨hr, hbuffer⟩, htable, by rw [hstate₂, hstate₁]; exact hopen,
        by rw [hstate₂, hstate₁], by rw [hstate₂], hdelivers₂⟩
    · have hfailed : (t.flushResult number).status ≠ .ok := fun h => hrefused ⟨hwhole, h⟩
      refine ⟨.notFlushed (t.flushResult number), s₂, ?_, hdelivers₂, ?_, hwritten⟩
      · rw [houtcome, if_pos hfailed]
      · rw [hcalls, attempt, if_pos hwhole]
  · refine ⟨fun htakes => absurd htakes.1 hwhole, fun _ => ?_⟩
    obtain ⟨cause, hfailed⟩ := Channel.write_of_not_written hr hsize hwrite hwhole
    refine ⟨.notSent cause, s₁, hfailed, hdelivers₁, ?_, hclaimed⟩
    rw [hcalls₁, attempt, if_neg hwhole]

theorem Serving.not_over (h : Serving t number c s symbols) : ¬ (!c.isOpen s) = true := by
  have hopen : c.isOpen s = true := by
    rw [Channel.isOpen, h.bound.1]
    exact h.isOpen
  rw [hopen]
  exact Bool.false_ne_true

theorem Serving.turn_of_failure {failure : ReadFailure} {now : Instant}
    (h : Serving t number c s symbols)
    (hread : c.read .request now s = some (.error failure, c', s')) :
    turn now c s
      = if Framing.Idle failure.status then some (.idle, c', s') else some (.over, c', s') := by
  rw [turn, if_neg h.not_over, hread]
  rfl

theorem Serving.turn_of_written {now : Instant} (h : Serving t number c s symbols)
    (hread : c.read .request now s = some (.ok request, c', s'))
    (hwrite : c'.write (answer request) s' = (.ok (), s'')) :
    turn now c s = some (.answered, c', s'') := by
  rw [turn, if_neg h.not_over, hread]
  simp only
  rw [hwrite]

theorem Serving.turn_of_unwritten {failure : WriteFailure} {now : Instant}
    (h : Serving t number c s symbols)
    (hread : c.read .request now s = some (.ok request, c', s'))
    (hwrite : c'.write (answer request) s' = (.error failure, s'')) :
    turn now c s = some (.over, c', s'') := by
  rw [turn, if_neg h.not_over, hread]
  simp only
  rw [hwrite]

/-- A timeout between two frames is passed over, and anything else that is not a request is the
end. -/
theorem Serving.turn_unread {status : Status} (h : Serving t number c s symbols)
    (hstep : Framing.step standard .request symbols = (.error status, rest)) (now : Instant) :
    ∃ c' s',
      turn now c s
        = (if Framing.Idle status then some (.idle, c', s') else some (.over, c', s'))
      ∧ Serving t number c' s' rest ∧ Passed c s [] [] c' s' := by
  obtain ⟨outcome, c', s', hread, houtcome, hserving, hpassed⟩ := h.read now
  rw [hstep] at houtcome hserving
  rcases outcome with failure | request
  · have hstatus : failure.status = status := Except.error.inj houtcome
    rw [← hstatus]
    exact ⟨c', s', h.turn_of_failure hread, hserving, hpassed⟩
  · exact nomatch houtcome

/-- A request is answered if the script takes the answer; else it is the last. -/
theorem Serving.turn_request (h : Serving t number c s symbols)
    (hstep : Framing.step standard .request symbols = (.ok request, rest)) (now : Instant) :
    (t.Takes number (answer request).frame.length → ∃ c' s',
      turn now c s = some (.answered, c', s') ∧ Serving t (number + 1) c' s' rest
      ∧ Passed c s (exchange (answer request)) (answer request).frame c' s')
    ∧ (¬ t.Takes number (answer request).frame.length → ∃ c' s₁ s',
      turn now c s = some (.over, c', s') ∧ Delivers () s' rest
      ∧ Passed c s [] [] c' s₁ ∧ s'.calls = s₁.calls ++ attempt t number (answer request)
      ∧ s'.state.written = s₁.state.written ++ claimed t number (answer request)) := by
  obtain ⟨outcome, c', s₁, hread, houtcome, hserving, hpassed⟩ := h.read now
  rw [hstep] at houtcome hserving
  rcases outcome with failure | value
  · exact nomatch houtcome
  · cases houtcome
    have hsize : 8 + (answer request).payloadSize ≤ 260 := by
      have hpayload := payloadSize_answer_le request
      omega
    obtain ⟨hanswered, hrefused⟩ := hserving.write hsize
    refine ⟨fun htakes => ?_, fun hnot => ?_⟩
    · obtain ⟨s', hwrite, hserving', hcalls, hwritten⟩ := hanswered htakes
      refine ⟨c', s', h.turn_of_written hread hwrite, hserving', ?_⟩
      exact hpassed.trans ⟨rfl, ⟨_, hcalls, rfl⟩, hwritten⟩
    · obtain ⟨failure, s', hwrite, hdelivers, hcalls, hwritten⟩ := hrefused hnot
      exact ⟨c', s₁, s', h.turn_of_unwritten hread hwrite, hdelivers, hpassed, hcalls, hwritten⟩

/-! ## Runs -/

/-- Turns that end as a course says. Nothing is called behind the last write. -/
def Follows (c : Channel Unit) (s : Recorded Unit Script) (k : Course)
    (outcome : Option (UInt32 × Channel Unit × Recorded Unit Script)) : Prop :=
  ∃ c' s' log, outcome = some (UInt32.ofNat k.served, c', s')
    ∧ c' = { c with buffer := c'.buffer }
    ∧ s'.calls = s.calls ++ log ++ k.last ∧ log.filter (!·.isRead) = k.done
    ∧ s'.state.written = s.state.written ++ k.sent
    ∧ Delivers () s' k.left

section Follows

variable {k : Course} {outcome : Option (UInt32 × Channel Unit × Recorded Unit Script)}

/-- What was done before comes first. -/
theorem Follows.prepend {done : List (Call Unit)} {sent : List UInt8} (h : Follows c' s' k outcome)
    (hpassed : Passed c s done sent c' s') :
    Follows c s { k with done := done ++ k.done, sent := sent ++ k.sent } outcome := by
  obtain ⟨c'', s'', log, rfl, hc', hlog, hdone, hwritten, hleft⟩ := h
  obtain ⟨hc, ⟨calls, hcalls, hfirst⟩, hsent⟩ := hpassed
  refine ⟨c'', s'', calls ++ log, rfl, ?_, ?_, ?_, ?_, hleft⟩
  · rw [hc', hc]
  · rw [hlog, hcalls, List.append_assoc s.calls]
  · rw [List.filter_append, hfirst, hdone]
  · rw [hwritten, hsent, List.append_assoc]

/-- One more request was answered. -/
theorem Follows.counted (h : Follows c s k outcome) :
    Follows c s { k with served := k.served + 1 }
      (outcome.map fun (served, c, s) => (served + 1, c, s)) := by
  obtain ⟨c', s', log, rfl, hrest⟩ := h
  refine ⟨c', s', log, ?_, hrest⟩
  rw [UInt32.ofNat_add]
  rfl

end Follows

/-- **The turns follow the requests in the input.** The induction is on the turns that are left;
each that goes on takes something from the input, so they suffice. -/
theorem turns_course (h : Serving t number c s symbols) (clock : Nat → Instant) {fuel : Nat}
    (hfuel : symbols.length < fuel) (first : Nat) :
    Follows c s (course t number (Framing.requests symbols).1 (Framing.requests symbols).2)
      (turns clock fuel first c s) := by
  induction fuel generalizing first number c s symbols with
  | zero => exact absurd hfuel (Nat.not_lt_zero _)
  | succ fuel ih =>
    rw [turns]
    rcases hstep : Framing.step standard .request symbols with ⟨status | request, rest⟩
    · obtain ⟨c', s', hturn, hserving, hpassed⟩ := h.turn_unread hstep (clock first)
      by_cases hidle : Framing.Idle status
      · -- The timeout is all that was taken from the input, and the requests do not have it.
        have hsymbols := Framing.eq_idle_of_step hstep hidle
        have hshorter : rest.length < fuel := by
          rw [hsymbols, List.length_cons] at hfuel
          exact Nat.lt_of_succ_lt_succ hfuel
        rw [hturn, if_pos hidle, hsymbols, Framing.requests_idle]
        exact (ih hserving hshorter (first + 1)).prepend hpassed
      · obtain ⟨hc, ⟨calls, hcalls, hreads⟩, hwritten⟩ := hpassed
        rw [hturn, if_neg hidle, Framing.requests_of_failed hstep hidle]
        exact ⟨c', s', calls, rfl, hc, by rw [hcalls, course, List.append_nil], hreads, hwritten,
          hserving.delivers⟩
    · -- A frame has six bytes at least, so the turns that are left suffice for what is behind it.
      obtain ⟨hanswered, hrefused⟩ := h.turn_request hstep (clock first)
      have hshorter : rest.length < fuel :=
        Nat.lt_of_lt_of_le (Framing.length_rest_lt hstep) (Nat.le_of_lt_succ hfuel)
      rw [Framing.requests_of_read hstep]
      by_cases htakes : t.Takes number (answer request).frame.length
      · obtain ⟨c', s', hturn, hserving, hpassed⟩ := hanswered htakes
        rw [course_of_takes htakes, hturn]
        exact ((ih hserving hshorter (first + 1)).prepend hpassed).counted
      · obtain ⟨c', s₁, s', hturn, hdelivers, hpassed, hlast, hsent⟩ := hrefused htakes
        obtain ⟨hc, ⟨calls, hcalls, hreads⟩, hwritten⟩ := hpassed
        rw [course_of_not_takes htakes, hturn]
        refine ⟨c', s', calls, rfl, hc, by rw [hlast, hcalls], hreads, ?_, hdelivers⟩
        rw [hsent, hwritten, List.append_nil]

/-! ## Serving -/

/-- Closing a script leaves what can be read from it and what was written to it. -/
theorem state_shutDown (s : Recorded Unit Script) :
    (Channel.shutDown () s).state.reads = s.state.reads
      ∧ (Channel.shutDown () s).state.written = s.state.written
      ∧ (Channel.shutDown () s).state.isOpen = false := ⟨rfl, rfl, rfl⟩

/-- Serving is taking turns and closing the channel. -/
theorem serve_course (hc : c.BoundTo ()) (htable : c.table = standard)
    (hopen : s.state.isOpen = true) (hreads : s.state.Honest) (clock : Nat → Instant) :
    let reference := Framing.requests s.state.symbols
    let k := course s.state 0 reference.1 reference.2
    ∃ s' log,
      serve clock c s
        = some (UInt32.ofNat k.served, { c with connection := none, buffer := none }, s')
      ∧ s'.calls = s.calls ++ log ++ k.last ++ Channel.closing ()
      ∧ log.filter (!·.isRead) = k.done
      ∧ s'.state.written = s.state.written ++ k.sent
      ∧ s'.state.isOpen = false
      ∧ Delivers () s' k.left := by
  intro reference k
  have hserving : Serving s.state 0 c s s.state.symbols :=
    ⟨hc, htable, hopen, rfl, rfl, Recorded.delivers_iff.mpr (Script.delivers hreads)⟩
  -- Every symbol is in the backlog, so there are turns enough.
  have hfuel : s.state.symbols.length < backlog c s + 1 := by
    rw [backlog, hc.1]
    exact Nat.lt_succ_of_le (Script.length_symbols_le s.state)
  obtain ⟨c', s', log, hturns, hc', hcalls, hdone, hwritten, hleft⟩ :=
    turns_course hserving clock hfuel 0
  have hbound : c'.connection = some () := by
    rw [hc']
    exact hc.1
  obtain ⟨hsame, hsent, hclosed⟩ := state_shutDown s'
  refine ⟨Channel.shutDown () s', log, ?_, ?_, hdone, hsent.trans hwritten, hclosed,
    Script.delivers_of_reads hleft hsame⟩
  · rw [serve, answerAll, hturns]
    simp only
    rw [Channel.close_of_bound hbound, hc']
  · rw [Channel.calls_shutDown, hcalls]

/-- **Serving answers the requests at the front of the input, in order, and nothing behind them.**
Let a channel of the protocol be bound to an open connection that plays back a script of data, in
chunks of any lengths, and of failures. If the script takes all answers, then these are the answers
to all requests of the input, each written whole and flushed; and reading went as far as the first
thing that is no request, passing over timeouts between two frames. If some answer is the first
that the script does not take, then the requests before it were answered, nothing was read behind
its request, and nothing was written behind it. The number of answers taken is returned, as a word,
and in any case the channel has let go of the connection after closing it in three steps. -/
theorem serve_answers_requests (hc : c.BoundTo ()) (htable : c.table = standard)
    (hopen : s.state.isOpen = true) (hreads : s.state.Honest) (clock : Nat → Instant) :
    let reference := Framing.requests s.state.symbols
    let closed : Channel Unit := { c with connection := none, buffer := none }
    ((∀ i request, reference.1[i]? = some request →
        s.state.Takes i (answer request.1).frame.length) →
      ∃ s' log, serve clock c s = some (UInt32.ofNat reference.1.length, closed, s')
        ∧ s'.calls = s.calls ++ log ++ Channel.closing ()
        ∧ log.filter (!·.isRead) = reference.1.flatMap (fun request => exchange (answer request.1))
        ∧ s'.state.written
          = s.state.written ++ reference.1.flatMap (fun request => (answer request.1).frame)
        ∧ s'.state.isOpen = false
        ∧ Delivers () s' reference.2)
    ∧ (∀ j request behind, reference.1[j]? = some (request, behind) →
      (∀ i < j, ∀ request, reference.1[i]? = some request →
        s.state.Takes i (answer request.1).frame.length) →
      ¬ s.state.Takes j (answer request).frame.length →
      ∃ s' log, serve clock c s = some (UInt32.ofNat j, closed, s')
        ∧ s'.calls = s.calls ++ log ++ attempt s.state j (answer request) ++ Channel.closing ()
        ∧ log.filter (!·.isRead)
          = (reference.1.take j).flatMap (fun request => exchange (answer request.1))
        ∧ s'.state.written
          = s.state.written
            ++ (reference.1.take j).flatMap (fun request => (answer request.1).frame)
            ++ claimed s.state j (answer request)
        ∧ s'.state.isOpen = false
        ∧ Delivers () s' behind) := by
  intro reference closed
  obtain ⟨s', log, hserve, hcalls, hdone, hwritten, hclosed, hleft⟩ :=
    serve_course hc htable hopen hreads clock
  refine ⟨fun htaken => ?_, fun j request behind hj htaken hrefused => ?_⟩
  · have hall : ∀ i request, reference.1[i]? = some request →
        s.state.Takes (0 + i) (answer request.1).frame.length := by
      intro i request hi
      rw [Nat.zero_add]
      exact htaken i request hi
    rw [course_of_all hall] at hserve hcalls hdone hwritten hleft
    refine ⟨s', log, hserve, ?_, hdone, hwritten, hclosed, hleft⟩
    rw [hcalls, List.append_nil]
  · have hbefore : ∀ i < j, ∀ request, reference.1[i]? = some request →
        s.state.Takes (0 + i) (answer request.1).frame.length := by
      intro i hi request hrequest
      rw [Nat.zero_add]
      exact htaken i hi request hrequest
    have hfirst : ¬ s.state.Takes (0 + j) (answer request).frame.length := by
      rwa [Nat.zero_add]
    rw [course_of_first hj hbefore hfirst, Nat.zero_add] at hserve hcalls hdone hwritten hleft
    refine ⟨s', log, hserve, hcalls, hdone, ?_, hclosed, hleft⟩
    rw [hwritten, List.append_assoc]

/-- Two requests with a timeout between them, and the beginning of a third. The first script takes
both answers; the second takes no more than four bytes of the other one. -/
theorem serve_answers_requests_two :
    let reads : List ReadItem :=
      [.data [0, 1, 0, 0, 0, 6, 0x11, 3, 0, 0x6B], .data [0, 1], .result .expired,
        .data [0, 2, 0, 0, 0, 3, 9, 0x41, 7], .data [0, 0, 0]]
    let s : Recorded Unit Script := ⟨{ reads }, []⟩
    let short : Recorded Unit Script := ⟨{ reads, writes := [{}, { bytes := some 4 }] }, []⟩
    let c : Channel Unit := ({} : Channel Unit).attach ()
    let value : Message .response := ⟨⟨1, 0, 0x11⟩, 3, .registers [0]⟩
    let refusal : Message .response := ⟨⟨2, 0, 9⟩, 0xC1, .exception 1⟩
    c.BoundTo () ∧ c.table = standard ∧ s.state.isOpen = true ∧ s.state.Honest
      ∧ short.state.isOpen = true ∧ short.state.Honest
      ∧ (∃ s' log, serve (fun _ => ⟨0⟩) c s = some (2, {}, s')
        ∧ s'.calls = log ++ Channel.closing ()
        ∧ log.filter (!·.isRead) = exchange value ++ exchange refusal
        ∧ s'.state.written = value.frame ++ refusal.frame ∧ Delivers () s' [])
      ∧ ∃ s' log, serve (fun _ => ⟨0⟩) c short = some (1, {}, s')
        ∧ s'.calls = log ++ [.write () refusal.frame] ++ Channel.closing ()
        ∧ log.filter (!·.isRead) = exchange value
        ∧ Delivers () s' [.byte 0, .byte 0, .byte 0] := by
  intro reads s short c value refusal
  have hc : c.BoundTo () := Channel.boundTo_attach _ ()
  have hreads : s.state.Honest := by decide
  have hshort : short.state.Honest := by decide
  -- What is read, message by message.
  have hspan : Framing.step standard .request (reads.flatMap ReadItem.symbols)
      = (.ok ⟨⟨1, 0, 0x11⟩, 3, .readRegisters 0x6B 1⟩, .event .timeout
          :: ([0, 2, 0, 0, 0, 3, 9, 0x41, 7, 0, 0, 0] : List UInt8).map .byte) := rfl
  have hodd : Framing.step standard .request
        (([0, 2, 0, 0, 0, 3, 9, 0x41, 7, 0, 0, 0] : List UInt8).map .byte)
      = (.ok ⟨⟨2, 0, 9⟩, 0x41, .illegalFunction [7]⟩, [.byte 0, .byte 0, .byte 0]) := rfl
  have hend : Framing.step standard .request [.byte 0, .byte 0, .byte 0]
      = (.error (Framing.truncated "header" 3 6 .endOfStream), []) := rfl
  have hbusy : ¬ Framing.Idle (Framing.truncated "header" 3 6 .endOfStream) := by decide
  have hrequests : ∀ t : Script, t.reads = reads → Framing.requests t.symbols
      = ([(⟨⟨1, 0, 0x11⟩, 3, .readRegisters 0x6B 1⟩, .event .timeout
            :: ([0, 2, 0, 0, 0, 3, 9, 0x41, 7, 0, 0, 0] : List UInt8).map .byte),
          (⟨⟨2, 0, 9⟩, 0x41, .illegalFunction [7]⟩, [.byte 0, .byte 0, .byte 0])], []) := by
    intro t ht
    rw [Script.symbols, ht, Framing.requests_of_read hspan, Framing.requests_idle,
      Framing.requests_of_read hodd, Framing.requests_of_failed hend hbusy]
  have hall := (serve_answers_requests hc rfl rfl hreads fun _ => ⟨0⟩).1
  have hfirst := (serve_answers_requests hc rfl rfl hshort fun _ => ⟨0⟩).2
  rw [hrequests s.state rfl] at hall
  rw [hrequests short.state rfl] at hfirst
  have htaken : ∀ i size, s.state.Takes i size := fun i size => ⟨⟨rfl, rfl⟩, rfl⟩
  have hone : ∀ i < 1, ∀ size, short.state.Takes i size := by
    intro i hi size
    rw [Nat.lt_one_iff] at hi
    subst hi
    exact ⟨⟨rfl, rfl⟩, rfl⟩
  have hother : ¬ short.state.Takes 1 refusal.frame.length := by decide
  obtain ⟨s', log, hserve, hcalls, hdone, hwritten, _, hleft⟩ := hall fun i _ _ => htaken i _
  obtain ⟨s'', log', hserve', hcalls', hdone', _, _, hleft'⟩ :=
    hfirst 1 _ _ rfl (fun i hi _ _ => hone i hi _) hother
  exact ⟨hc, rfl, rfl, hreads, rfl, hshort, ⟨s', log, hserve, hcalls, hdone, hwritten, hleft⟩,
    s'', log', hserve', hcalls', hdone', hleft'⟩

end Server

end ModbusTcp
