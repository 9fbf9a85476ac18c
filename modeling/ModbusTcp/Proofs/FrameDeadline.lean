import ModbusTcp.Proofs.DeadlineRange
import ModbusTcp.Proofs.Lifecycle
import ModbusTcp.Proofs.SharedReads
import ModbusTcp.ReceiveTimeout
import ModbusTcp.Transport.Memory

/-!
One deadline bounds a whole frame.

A read of a channel (`ReadMessage`) looks at the clock when it begins and at the timeout when it
gets the buffer, at each of them once. What it gets from the two is the deadline of all the reads
that it makes on the connection, however many there are: those for the header and those for the
body. `UnderOne` follows them up from the filling of a region to the read of a channel, also where
the read never comes to an end. So neither a clock that goes on meanwhile nor a timeout that is set
meanwhile plays a part, and a peer that sends its bytes one by one does not get any more time.

What a channel has for a timeout is the one that was set last, when it was made or later
(`Lifecycle.lastSet`, `Callers.setBy`). For a caller who is alone that is the one from before the
read. For others it is not: a read that waits while another one has the buffer takes the timeout
that is set meanwhile, though it began before (`Callers.set_while_waiting`). The main statement is
`Channel.read_under_one_deadline`.
-/

set_option autoImplicit false

namespace ModbusTcp

/-! ## The deadline of a read -/

namespace Deadline

/-- The deadline for a start and a number of milliseconds: none for zero, else the instant that lies
so far behind the start, as an exact number. -/
structure IsDue (deadline : Deadline) (start : Instant) (timeout : Nat) : Prop where
  unlimited : timeout = 0 → deadline = none
  limited : 0 < timeout → ∃ t, deadline = some t
    ∧ t.nanoseconds.toInt = start.nanoseconds.toInt + timeout * millisecond

/-- Every timeout that a text can give leads to the deadline that is due, within the first half of
the clock's range. -/
theorem isDue_starting {timeout : Nat} (h : timeout ≤ ReceiveTimeout.maximum) {start : Instant}
    (hstart : start.nanoseconds.toInt ≤ 4611686018427387904) :
    (starting (Int64.ofNat timeout) start).IsDue start timeout := by
  rw [ReceiveTimeout.maximum] at h
  have hcount : (Int64.ofNat timeout).toInt = timeout := Int64.toInt_ofNat_of_lt (by omega)
  constructor
  · rintro rfl
    exact if_pos (by decide)
  · intro hsome
    have hpositive : 0 < (Int64.ofNat timeout).toInt := by omega
    have hrange : start.due (Int64.ofNat timeout) ≤ Instant.latest :=
      Instant.due_le_latest hstart (by omega)
    refine ⟨_, starting_of_pos (Int64.lt_iff_toInt_lt.mpr hpositive) start, ?_⟩
    rw [Instant.toInt_after_of_le hpositive hrange, Instant.due, hcount]

end Deadline

/-! ## Reads under one deadline -/

namespace Transport

variable {ρ σ : Type} [Transport ρ σ] {r : ρ} {deadline : Deadline} {s s' : σ}

/-- A connection on which a filling with this deadline may not come to an end: a read waits for
ever, or reports more bytes than it was asked for, which can take the filling back. -/
inductive Stalls (r : ρ) (deadline : Deadline) (s : σ) : Prop where
  | waits {room : Nat} : readSome r room deadline s = none → Stalls r deadline s
  | exceeds {room : Nat} {d : Delivery} {s' : σ} : readSome r room deadline s = some (d, s') →
    room < d.result.bytes → Stalls r deadline s

/-- Any number of reads of a connection, all with one deadline, up to a state or up to one that does
not come to an end. -/
inductive UnderOne (r : ρ) (deadline : Deadline) : σ → Option σ → Prop where
  | done (s : σ) : UnderOne r deadline s (some s)
  | stalled {s : σ} : Stalls r deadline s → UnderOne r deadline s none
  | one {room : Nat} {d : Delivery} {s s' : σ} {behind : Option σ} :
    readSome r room deadline s = some (d, s') → UnderOne r deadline s' behind →
    UnderOne r deadline s behind

theorem UnderOne.trans {behind : Option σ} (h : UnderOne r deadline s (some s'))
    (h' : UnderOne r deadline s' behind) : UnderOne r deadline s behind := by
  generalize hmiddle : some s' = middle at h
  induction h with
  | done =>
    cases hmiddle
    exact h'
  | stalled => exact nomatch hmiddle
  | one hread _ ih => exact .one hread (ih hmiddle)

/-- Reads that do not come to an end lead to one that does not. -/
theorem UnderOne.exists_stalls (h : UnderOne r deadline s none) :
    ∃ s', UnderOne r deadline s (some s') ∧ Stalls r deadline s' := by
  generalize hbehind : none = behind at h
  induction h with
  | done => exact nomatch hbehind
  | stalled hstalls => exact ⟨_, .done _, hstalls⟩
  | one hread _ ih =>
    obtain ⟨s', hunder, hstalls⟩ := ih hbehind
    exact ⟨s', .one hread hunder, hstalls⟩

/-- What is left of an operation on a connection: the state behind it, if it came to an end. -/
def left {α β : Type} (outcome : Option (α × β × σ)) : Option σ := outcome.map fun (_, _, s) => s

/-- What is made of an outcome does not change the state that is left. -/
theorem left_map {α β α' β' : Type} {f : α × β × σ → α' × β' × σ}
    (hf : ∀ a b s, (f (a, b, s)).2.2 = s) (outcome : Option (α × β × σ)) :
    left (outcome.map f) = left outcome := by
  rcases outcome with _ | ⟨a, b, s⟩
  · rfl
  · exact congrArg some (hf a b s)

/-- **The loop reads under one deadline.** -/
theorem FillsTo.underOne {filled : Nat} {region : List UInt8} {out : IoResult × List UInt8 × σ}
    (h : FillsTo r deadline filled region s out) : UnderOne r deadline s (some out.2.2) := by
  induction h with
  | full => exact .done _
  | failed _ hread => exact .one hread (.done _)
  | idle _ hread => exact .one hread (.done _)
  | more _ hread _ _ _ ih => exact .one hread ih

/-- So it does where it never ends. The induction is on the bytes that are missing: as long as no
report goes beyond them, there are fewer behind each read. -/
theorem underOne_of_endless {filled : Nat} {region : List UInt8}
    (h : fillFrom r deadline filled region s = none) : UnderOne r deadline s none := by
  generalize hmissing : region.length - filled = missing
  induction missing using Nat.strongRecOn generalizing filled region s with
  | ind missing ih =>
    by_cases hless : filled < region.length
    · rcases hread : readSome r (region.length - filled) deadline s with _ | ⟨d, s'⟩
      · exact .stalled (.waits hread)
      · by_cases hok : d.result.status = .ok
        · by_cases hidle : d.result.bytes = 0
          · rw [fillFrom_of_idle hless hread hok hidle] at h
            cases h
          · -- A report beyond the room may take the filling back, so nothing is said of what follows.
            by_cases hwithin : d.result.bytes ≤ region.length - filled
            · rw [fillFrom_of_more hless hread hok hidle, filledAfter, if_pos hwithin] at h
              refine .one hread (ih _ ?_ h rfl)
              rw [List.length_append, length_overlay, ← List.length_append, List.take_append_drop]
              omega
            · exact .stalled (.exceeds hread (Nat.not_le.mp hwithin))
        · rw [fillFrom_of_failed hless hread hok] at h
          cases h
    · rw [fillFrom_of_full hless] at h
      cases h

theorem underOne_fill (r : ρ) (deadline : Deadline) (region : List UInt8) (s : σ) :
    UnderOne r deadline s (left (fill r deadline region s)) := by
  rcases hfill : fill r deadline region s with _ | out
  · exact underOne_of_endless hfill
  · exact (fillFrom_eq_some_iff.mp hfill).underOne

end Transport

namespace Channel

open Transport

variable {ρ σ : Type} [Transport ρ σ]

theorem underOne_readBody (r : ρ) (deadline : Deadline) (length : UInt16) (b : FrameBuffer)
    (s : σ) : UnderOne r deadline s (left (readBody r deadline length b s)) := by
  rw [readBody_eq, left_map fun _ _ _ => rfl]
  exact underOne_fill r deadline _ s

/-- The header and the body are read under the same deadline. -/
theorem underOne_readFrame (r : ρ) (deadline : Deadline) (b : FrameBuffer) (s : σ) :
    UnderOne r deadline s (left (readFrame r deadline b s)) := by
  have hhead := underOne_fill r deadline (b.region 0 Frame.prefixLength) s
  rw [readFrame_eq]
  rcases hfill : fill r deadline (b.region 0 Frame.prefixLength) s with _ | ⟨result, head, s'⟩
  · rw [hfill] at hhead
    exact hhead
  · rw [hfill] at hhead
    rw [Option.bind_some]
    simp only
    cases headRead (b.store 0 head) result head with
    | error e => exact hhead
    | ok length => exact hhead.trans (underOne_readBody r deadline length _ s')

/-- What is read is made a message without any further read. -/
theorem left_receive (table : VariantTable) (role : Role) (a : Admission ρ) (s : σ) :
    left (a.receive table role s) = left (readFrame a.connection a.deadline a.buffer s) := by
  unfold Admission.receive
  rcases readFrame a.connection a.deadline a.buffer s with _ | ⟨_ | _, b, s'⟩ <;> rfl

theorem left_read {c : Channel ρ} {start : Instant} {a : Admission ρ}
    (h : c.admission start = some a) (role : Role) (s : σ) :
    left (c.read role start s) = left (a.receive c.table role s) := by
  rw [read, h]
  simp only
  rcases a.receive c.table role s with _ | ⟨outcome, b, s'⟩ <;> rfl

/-- A read that has the buffer reads under the deadline that it has. -/
theorem underOne_receive (table : VariantTable) (role : Role) (a : Admission ρ) (s : σ) :
    UnderOne a.connection a.deadline s (left (a.receive table role s)) := by
  rw [left_receive]
  exact underOne_readFrame a.connection a.deadline a.buffer s

end Channel

/-! ## The calls of a read -/

/-- Whether calls are reads, all with one deadline. -/
def ReadUnder {ρ : Type} (deadline : Deadline) (calls : List (Call ρ)) : Prop :=
  ∀ call ∈ calls, ∃ r room, call = .readSome r room deadline

namespace Recorded

open Transport

variable {ρ σ : Type} [Transport ρ σ] {r : ρ} {deadline : Deadline} {s s' : Recorded ρ σ}

/-- Reads under one deadline are written down as such. -/
theorem calls_of_underOne (h : UnderOne r deadline s (some s')) :
    ∃ calls, s'.calls = s.calls ++ calls ∧ ReadUnder deadline calls := by
  generalize hbehind : some s' = behind at h
  induction h with
  | done s =>
    cases hbehind
    exact ⟨[], (List.append_nil _).symm, List.forall_mem_nil _⟩
  | stalled => exact nomatch hbehind
  | @one room _ _ _ _ hread _ ih =>
    obtain ⟨calls, hcalls, hunder⟩ := ih hbehind
    refine ⟨.readSome r room deadline :: calls, ?_, ?_⟩
    · rw [hcalls, (readSome_eq_some hread).2, List.append_assoc, List.singleton_append]
    · exact List.forall_mem_cons.mpr ⟨⟨r, room, rfl⟩, hunder⟩

end Recorded

namespace Transport

variable {ρ σ : Type} [Transport ρ σ]

/-- Whether all reads that an operation makes on a connection, if it has one, have one deadline. It
starts in one state and leaves another behind, if it comes to an end. -/
structure OneDeadline (deadline : Deadline) (r : Option ρ) (s : Recorded ρ σ)
    (behind : Option (Recorded ρ σ)) : Prop where
  /-- If it comes to an end, these are all calls that it made. -/
  ended : ∀ s', behind = some s' → ∃ calls, s'.calls = s.calls ++ calls ∧ ReadUnder deadline calls
  /-- If it does not, some calls lead to a read with the same deadline that does not. -/
  endless : behind = none → ∃ r' s' calls, r = some r' ∧ UnderOne r' deadline s (some s')
    ∧ s'.calls = s.calls ++ calls ∧ ReadUnder deadline calls ∧ Stalls r' deadline s'

variable {deadline : Deadline} {r : ρ} {s : Recorded ρ σ} {behind : Option (Recorded ρ σ)}

/-- What reads nothing has any deadline. -/
theorem OneDeadline.of_idle (deadline : Deadline) (r : Option ρ) (s : Recorded ρ σ) :
    OneDeadline deadline r s (some s) where
  ended s' h := by
    cases h
    exact ⟨[], (List.append_nil _).symm, List.forall_mem_nil _⟩
  endless h := by cases h

/-- What the deadline is can be seen from any of the calls. -/
theorem OneDeadline.eq_of_mem {s s' : Recorded ρ σ} {r : Option ρ}
    (h : OneDeadline deadline r s (some s')) (hs : s.calls = []) {r' : ρ} {room : Nat}
    {deadline' : Deadline} (hmem : .readSome r' room deadline' ∈ s'.calls) :
    deadline' = deadline := by
  obtain ⟨calls, hcalls, hunder⟩ := h.ended s' rfl
  rw [hcalls, hs, List.nil_append] at hmem
  obtain ⟨r'', room', hcall⟩ := hunder _ hmem
  cases hcall
  rfl

theorem UnderOne.oneDeadline (h : UnderOne r deadline s behind) :
    OneDeadline deadline (some r) s behind where
  ended s' hbehind := by
    rw [hbehind] at h
    exact Recorded.calls_of_underOne h
  endless hnone := by
    rw [hnone] at h
    obtain ⟨s', hunder, hstalls⟩ := h.exists_stalls
    obtain ⟨calls, hcalls, hall⟩ := Recorded.calls_of_underOne hunder
    exact ⟨r, s', calls, rfl, hunder, hcalls, hall, hstalls⟩

end Transport

namespace Channel

open Transport

variable {ρ σ : Type} [Transport ρ σ]

/-- **A channel reads under one deadline,** the one from its timeout and the start of the read. -/
theorem oneDeadline_read (c : Channel ρ) (role : Role) (start : Instant) (s : Recorded ρ σ) :
    OneDeadline (.starting c.receiveTimeout start) c.connection s
      (left (c.read role start s)) := by
  rcases hr : c.connection with _ | r
  · rw [read, admission_of_unbound hr]
    exact .of_idle ..
  · rcases hb : c.buffer with _ | b
    · rw [read, admission, hr, hb]
      exact .of_idle ..
    · rw [left_read (admission_of_bound hr hb start)]
      exact (underOne_receive c.table role ⟨r, b, _⟩ s).oneDeadline

end Channel

namespace Callers

open Transport Channel

variable {ρ σ : Type} [Transport ρ σ]

theorem state_finish {clock : σ → Instant} {S : Shared ρ σ} {begun : Begun} {a : Admission ρ}
    (h : S.holder = some ⟨begun, some a⟩) :
    (perform clock .finish S).map (·.state)
      = left (a.receive S.channel.table begun.role S.state) := by
  rw [perform, h]
  simp only
  rcases a.receive S.channel.table begun.role S.state with _ | ⟨outcome, b, s'⟩ <;> rfl

/-- **So does a read that has the buffer of a channel that others use too.** -/
theorem oneDeadline_finish {clock : Recorded ρ σ → Instant} {S : Shared ρ (Recorded ρ σ)}
    {holder : Holder ρ} (hholder : S.holder = some holder) {deadline : Deadline}
    (hdeadline : ∀ a, holder.admission = some a → a.deadline = deadline) :
    OneDeadline deadline (holder.admission.map (·.connection)) S.state
      ((perform clock .finish S).map (·.state)) := by
  obtain ⟨begun, _ | a⟩ := holder
  · rw [perform, hholder]
    exact .of_idle ..
  · rw [state_finish hholder, ← hdeadline a rfl]
    exact (underOne_receive S.channel.table begun.role a S.state).oneDeadline

end Callers

/-! ## Which timeout a channel has -/

namespace Lifecycle

open Transport Channel

variable {ρ σ : Type} [Transport ρ σ]

/-- The timeout that an operation set: that of a channel that it made, or the one that it gave to
the channel that was there. -/
def Entry.sets (e : Entry ρ) : Option Int64 :=
  match e.operation, e.reply with
  | .create _ timeout, _ | .establish _ timeout _, .status (.ok ())
  | .act (.setReceiveTimeout timeout), .done => some timeout
  | _, _ => none

/-- The timeout that was set last. -/
def lastSet (past : List (Entry ρ)) : Option Int64 := (past.filterMap Entry.sets).getLast?

theorem lastSet_append_singleton (past : List (Entry ρ)) (e : Entry ρ) :
    lastSet (past ++ [e]) = e.sets.or (lastSet past) := by
  rw [lastSet, List.filterMap_append, List.filterMap_cons, List.filterMap_nil]
  cases e.sets with
  | none => rw [List.append_nil]; rfl
  | some timeout => exact List.getLast?_concat

/-- A channel has the timeout that was set last. -/
def Current (past : List (Entry ρ)) (c : Option (Channel ρ)) : Prop :=
  ∀ made, c = some made → lastSet past = some made.receiveTimeout

theorem receiveTimeout_close (c : Channel ρ) (s : σ) :
    (c.close s).1.receiveTimeout = c.receiveTimeout := by
  rcases hr : c.connection with _ | r
  · rw [close_of_unbound hr]
  · rw [close_of_bound hr]

theorem receiveTimeout_bind (c : Channel ρ) (r : Option ρ) (s : σ) :
    (c.bind r s).2.1.receiveTimeout = c.receiveTimeout := by
  rcases husable : usable r s with e | r'
  · rw [bind_of_refused husable]
  · rw [bind_of_usable husable]
    exact receiveTimeout_close c s

theorem receiveTimeout_read {c c' : Channel ρ} {role : Role} {start : Instant} {s s' : σ}
    {outcome : Except ReadFailure (Message role)}
    (h : c.read role start s = some (outcome, c', s')) :
    c'.receiveTimeout = c.receiveTimeout := by
  rw [read_eq] at h
  split at h
  · split at h
    · exact nomatch h
    · cases h
      rfl
    · cases h
      rfl
  · cases h
    rfl

/-- What an action does to the timeout of its channel. -/
theorem receiveTimeout_action {c c' : Channel ρ} {action : Action ρ} {s s' : σ} {reply : Reply}
    (h : action.perform c s = some (reply, c', s')) (calls : List (Call ρ)) :
    (⟨.act action, reply, calls, some c'⟩ : Entry ρ).sets.or (some c.receiveTimeout)
      = some c'.receiveTimeout := by
  cases action with
  | bind r =>
    cases h
    exact congrArg some (receiveTimeout_bind c r s).symm
  | close =>
    cases h
    exact congrArg some (receiveTimeout_close c s).symm
  | read role start =>
    simp only [Action.perform] at h
    split at h
    · cases h
    · rename_i hread
      cases h
      exact congrArg some (receiveTimeout_read hread).symm
  | write m =>
    cases h
    rfl
  | setReceiveTimeout milliseconds =>
    cases h
    rfl
  | isOpen =>
    cases h
    rfl

/-- **An operation sets the timeout or leaves it.** -/
theorem Current.step {past : List (Entry ρ)} {c c' : Option (Channel ρ)} (hc : Current past c)
    {operation : Operation ρ} {s s' : σ} {reply : Reply}
    (h : operation.perform c s = some (reply, c', s')) (calls : List (Call ρ)) :
    Current (past ++ [⟨operation, reply, calls, c'⟩]) c' := by
  rintro made rfl
  rw [lastSet_append_singleton]
  cases operation with
  | create table receiveTimeout =>
    cases h
    rfl
  | establish table receiveTimeout r =>
    rcases husable : usable r s with e | r'
    · simp only [Operation.perform, establish_of_refused husable] at h
      cases h
      exact hc made rfl
    · simp only [Operation.perform, establish_of_usable husable] at h
      cases h
      rfl
  | act action =>
    cases c with
    | none => cases h
    | some old =>
      obtain ⟨⟨reply', c₁, s₁⟩, haction, heq⟩ := Option.map_eq_some_iff.mp h
      cases heq
      rw [hc old rfl]
      exact receiveTimeout_action haction calls
  | destroy => cases h

/-- What was called for an entry, if it is of a read: nothing, or reads under the deadline from the
timeout that was set last. -/
def Entry.Timed (past : List (Entry ρ)) (e : Entry ρ) : Prop :=
  ∀ role start, e.operation = .act (.read role start) →
    e.calls = [] ∨ ∃ timeout, lastSet past = some timeout
      ∧ ReadUnder (.starting timeout start) e.calls

theorem timed_perform {past : List (Entry ρ)} {c c' : Option (Channel ρ)} (hc : Current past c)
    {operation : Operation ρ} {s : σ} {s' : Recorded ρ σ} {reply : Reply}
    (h : operation.perform c (⟨s, []⟩ : Recorded ρ σ) = some (reply, c', s')) :
    Entry.Timed past ⟨operation, reply, s'.calls, c'⟩ := by
  rintro role start rfl
  cases c with
  | none =>
    cases h
    exact .inl rfl
  | some old =>
    obtain ⟨⟨reply', c₁, s₁⟩, haction, heq⟩ := Option.map_eq_some_iff.mp h
    cases heq
    simp only [Action.perform] at haction
    split at haction
    · cases haction
    · rename_i hread
      cases haction
      obtain ⟨calls, hcalls, hunder⟩ :=
        (oneDeadline_read old role start _).ended _ (congrArg left hread)
      rw [List.nil_append] at hcalls
      refine .inr ⟨old.receiveTimeout, hc old rfl, ?_⟩
      rw [← hcalls] at hunder
      exact hunder

/-- **All reads of a run are under the deadlines that they are to have.** The induction is on the
operations; the timeout that the channel has behind them is the one that was set last. -/
theorem timed_run (operations : List (Operation ρ)) {past : List (Entry ρ)}
    {c : Option (Channel ρ)} (hc : Current past c) (s : σ) :
    ∀ before e after, (run operations c s).1 = before ++ e :: after →
      Entry.Timed (past ++ before) e := by
  induction operations generalizing past c s with
  | nil =>
    intro before e after hentries
    simp [run] at hentries
  | cons operation operations ih =>
    intro before e after hentries
    rw [run] at hentries
    rcases hperform : operation.perform c (⟨s, []⟩ : Recorded ρ σ) with _ | ⟨reply, c₁, s₁⟩
    · rw [hperform] at hentries
      simp at hentries
    · rw [hperform] at hentries
      simp only at hentries
      cases before with
      | nil =>
        obtain ⟨rfl, -⟩ := List.cons.inj hentries
        rw [List.append_nil]
        exact timed_perform hc hperform
      | cons first before =>
        obtain ⟨rfl, hrest⟩ := List.cons.inj hentries
        have hlater := ih (hc.step hperform s₁.calls) s₁.state before e after hrest
        rw [List.append_assoc, List.singleton_append] at hlater
        exact hlater

end Lifecycle

/-! ## The main statement -/

namespace Channel

open Transport Lifecycle Callers

variable {ρ σ : Type} [Transport ρ σ]

/-- **One deadline bounds a whole frame.** Take any timeout that a text can give.

A read of a channel looks at the clock when it begins, and later at the timeout that is set. Let
every read of a connection change the state as it likes: it may give any bytes and any result, the
clock may go on, and another timeout may be set. Then the read of the channel makes all its reads of
the connection, for the header and for the body and as many as there are, with one and the same
deadline. There is none if the timeout was zero, and else it is exactly what the clock showed at the
beginning and the timeout behind that. If the read does not come to an end, that is because some
read with this deadline does not.

Where others use the channel too, this is so with the timeout that was set last before the read got
the buffer. What is set behind that, up to the end of the read, plays no part.

In a run of operations on channels, one after the other, such is the deadline of every read that has
been made, from its own start and the timeout that was set last before it. -/
theorem read_under_one_deadline {timeout : Nat} (htimeout : timeout ≤ ReceiveTimeout.maximum) :
    (∀ (clock : σ → Instant) (setting : σ → Int64) (before s : σ), setting s = .ofNat timeout →
      (clock before).nanoseconds.toInt ≤ 4611686018427387904 →
      ∀ (c : Channel ρ) role, ∃ deadline : Deadline, deadline.IsDue (clock before) timeout
        ∧ OneDeadline deadline c.connection (⟨s, []⟩ : Recorded ρ σ)
          (left ((c.setReceiveTimeout (setting s)).read role (clock before) ⟨s, []⟩)))
    ∧ (∀ (clock : Recorded ρ σ → Instant) (S S' : Shared ρ (Recorded ρ σ)) caller role between
        behind,
      Held clock caller role between behind S S' →
      (setBy between).getD S.channel.receiveTimeout = .ofNat timeout →
      (clock S.state).nanoseconds.toInt ≤ 4611686018427387904 →
      ∃ (deadline : Deadline) (admission : Option (Admission ρ)),
        deadline.IsDue (clock S.state) timeout
        ∧ S'.holder = some ⟨⟨caller, role, clock S.state⟩, admission⟩
        ∧ (∀ a, admission = some a → a.deadline = deadline)
        ∧ OneDeadline deadline (admission.map (·.connection)) S'.state
          ((perform clock .finish S').map (·.state)))
    ∧ ∀ (operations : List (Operation ρ)) (s : σ) before e after,
      (Lifecycle.run operations none s).1 = before ++ e :: after →
      ∀ role start, e.operation = .act (.read role start) →
      start.nanoseconds.toInt ≤ 4611686018427387904 → e.calls ≠ [] →
      ∃ set, lastSet before = some set ∧ (set = .ofNat timeout →
        ∃ deadline : Deadline, deadline.IsDue start timeout ∧ ReadUnder deadline e.calls) := by
  refine ⟨?_, ?_, ?_⟩
  · intro clock setting before s hset hclock c role
    refine ⟨_, Deadline.isDue_starting htimeout hclock, ?_⟩
    have hread := oneDeadline_read (c.setReceiveTimeout (setting s)) role (clock before)
      (⟨s, []⟩ : Recorded ρ σ)
    rw [← hset]
    exact hread
  · intro clock S S' caller role between behind hheld hset hclock
    obtain ⟨admission, hholder, hdeadline⟩ := hheld.holder
    rw [hset] at hdeadline
    exact ⟨_, admission, Deadline.isDue_starting htimeout hclock, hholder, hdeadline,
      oneDeadline_finish hholder hdeadline⟩
  · -- No channel is there at first, so the timeout that one has was set by the run.
    intro operations s before e after hentries role start he hstart hcalls
    have hnone : Current [] (none : Option (Channel ρ)) := nofun
    rcases timed_run operations hnone s before e after hentries role start he with
      hidle | ⟨set, hset, hunder⟩
    · exact absurd hidle hcalls
    · refine ⟨set, hset, ?_⟩
      rintro rfl
      exact ⟨_, Deadline.isDue_starting htimeout hstart, hunder⟩

/-- The head of a frame comes in two chunks and its body in two more. -/
def trickle : Script := { reads := [.data [0, 1], .data [0, 0, 0, 2], .data [0x11], .data [99]] }

/-- The calls that read it, each for what is missing. -/
def trickleCalls (deadline : Deadline) : List (Call Unit) :=
  [6, 4, 2, 1].map fun room => .readSome () room deadline

set_option maxRecDepth 2000 in
theorem left_receive_trickle (table : VariantTable) (role : Role) (deadline : Deadline) :
    left ((⟨(), .ofCapacity Frame.maximumLength, deadline⟩ : Admission Unit).receive table role
      (⟨trickle, []⟩ : Recorded Unit Script)) = some ⟨{}, trickleCalls deadline⟩ := by
  have hhead : fill () deadline ((FrameBuffer.ofCapacity 260).region 0 6)
      (⟨trickle, []⟩ : Recorded Unit Script)
      = some (.transferred 6, [0, 1, 0, 0, 0, 2], ⟨{ reads := [.data [0x11], .data [99]] },
        [.readSome () 6 deadline, .readSome () 4 deadline]⟩) :=
    fillFrom_eq_some_iff.mpr (.more (show 0 < 6 by decide) rfl rfl (Nat.succ_ne_zero 1)
      (.more (show 2 < 6 by decide) rfl rfl (Nat.succ_ne_zero 3) (.full (Nat.lt_irrefl 6))))
  have hbody : fill () deadline
      (((FrameBuffer.ofCapacity 260).store 0 [0, 1, 0, 0, 0, 2]).region 6 2)
      (⟨{ reads := [.data [0x11], .data [99]] },
        [.readSome () 6 deadline, .readSome () 4 deadline]⟩ : Recorded Unit Script)
      = some (.transferred 2, [0x11, 99], ⟨{}, trickleCalls deadline⟩) :=
    fillFrom_eq_some_iff.mpr (.more (show 0 < 2 by decide) rfl rfl (Nat.succ_ne_zero 0)
      (.more (show 1 < 2 by decide) rfl rfl (Nat.succ_ne_zero 0) (.full (Nat.lt_irrefl 2))))
  have hlength : headRead ((FrameBuffer.ofCapacity 260).store 0 [0, 1, 0, 0, 0, 2])
      (.transferred 6) [0, 1, 0, 0, 0, 2] = .ok 2 := rfl
  rw [left_receive, readFrame_eq, Frame.prefixLength, Frame.maximumLength, hhead, Option.bind_some]
  simp only [hlength]
  rw [readBody_eq, left_map fun _ _ _ => rfl, Frame.prefixLength]
  exact congrArg left hbody

/-- The clock goes on by 30 milliseconds with each chunk, and the timeout of 100 milliseconds is set
to none as soon as the read has begun: all reads go up to the hundredth millisecond. So they do for
a read of a channel that others use, for which 100 milliseconds are set while it waits and none
behind that. Those of a channel for which it was set to none before have no deadline. -/
theorem read_under_one_deadline_trickle :
    let clock (s : Script) : Instant := ⟨30000000 * (4 - Int64.ofNat s.reads.length)⟩
    let setting (s : Script) : Int64 := if s.reads.length = 4 then .ofNat 100 else 0
    let c : Channel Unit := ({} : Channel Unit).attach ()
    let S : Shared Unit (Recorded Unit Script) := { channel := c, state := ⟨trickle, []⟩ }
    let S' : Shared Unit (Recorded Unit Script) :=
      { S with
        holder := some ⟨⟨1, .request, clock trickle⟩,
          some ⟨(), .ofCapacity Frame.maximumLength, .starting 100 (clock trickle)⟩⟩ }
    let between : List (Step Unit (Recorded Unit Script)) := [.setReceiveTimeout 100]
    let behind : List (Step Unit (Recorded Unit Script)) := [.setReceiveTimeout 0]
    let operations : List (Operation Unit) :=
      [.establish .standard 100 (some ()), .act (.setReceiveTimeout 0),
        .act (.read .request ⟨0⟩)]
    (100 ≤ ReceiveTimeout.maximum ∧ setting trickle = .ofNat 100
      ∧ (clock trickle).nanoseconds.toInt ≤ 4611686018427387904)
    ∧ (∃ deadline : Deadline, deadline.IsDue (clock trickle) 100
      ∧ left ((c.setReceiveTimeout (setting trickle)).read .request (clock trickle)
        (⟨trickle, []⟩ : Recorded Unit Script)) = some ⟨{}, trickleCalls deadline⟩)
    ∧ (Held (fun s => clock s.state) 1 .request between behind S S'
      ∧ ∃ deadline : Deadline, deadline.IsDue (clock trickle) 100
        ∧ (perform (fun s => clock s.state) .finish S').map (·.state)
          = some ⟨{}, trickleCalls deadline⟩)
    ∧ ∃ before e, (Lifecycle.run operations none trickle).1 = before ++ [e]
      ∧ e.calls = trickleCalls none
      ∧ ∃ deadline : Deadline, deadline.IsDue ⟨0⟩ 0 ∧ ReadUnder deadline e.calls := by
  intro clock setting c S S' between behind operations
  have htimeout : 100 ≤ ReceiveTimeout.maximum := by decide
  have hset : setting trickle = .ofNat 100 := by decide
  have hclock : (clock trickle).nanoseconds.toInt ≤ 4611686018427387904 := by decide
  have hfirst (deadline : Deadline) : .readSome () 6 deadline ∈ trickleCalls deadline :=
    List.mem_cons_self
  refine ⟨⟨htimeout, hset, hclock⟩, ?_, ?_, ?_⟩
  · obtain ⟨deadline, hdue, hone⟩ :=
      (read_under_one_deadline htimeout).1 clock setting trickle trickle hset hclock c .request
    rw [left_read rfl, left_receive_trickle] at hone
    refine ⟨deadline, hdue, ?_⟩
    rw [left_read rfl, left_receive_trickle, hone.eq_of_mem rfl (hfirst _)]
  · have hheld : Held (fun s => clock s.state) 1 .request between behind S S' :=
      ⟨rfl, by simp [between], by simp [behind]⟩
    obtain ⟨deadline, admission, hdue, -, -, hone⟩ :=
      (read_under_one_deadline htimeout).2.1 _ S S' 1 .request between behind hheld rfl hclock
    rw [state_finish rfl, left_receive_trickle] at hone
    refine ⟨hheld, deadline, hdue, ?_⟩
    rw [state_finish rfl, left_receive_trickle, hone.eq_of_mem rfl (hfirst _)]
  · have hread : left ((c.setReceiveTimeout 0).read .request ⟨0⟩
        (⟨trickle, []⟩ : Recorded Unit Script)) = some ⟨{}, trickleCalls none⟩ := by
      rw [left_read rfl, left_receive_trickle]
      rfl
    obtain ⟨⟨outcome, c', s'⟩, hread, rfl⟩ := Option.map_eq_some_iff.mp hread
    let e₁ : Entry Unit := ⟨.establish .standard 100 (some ()), .status (.ok ()), [],
      some (c.setReceiveTimeout 100)⟩
    let e₂ : Entry Unit := ⟨.act (.setReceiveTimeout 0), .done, [], some (c.setReceiveTimeout 0)⟩
    let e : Entry Unit := ⟨.act (.read .request ⟨0⟩),
      .message .request (outcome.mapError ReadFailure.status), trickleCalls none, some c'⟩
    have hentries : (Lifecycle.run operations none trickle).1 = [e₁, e₂] ++ [e] := by
      have hlast : (Operation.act (.read .request ⟨0⟩)).perform (some (c.setReceiveTimeout 0))
          (⟨trickle, []⟩ : Recorded Unit Script)
          = some (e.reply, some c', ⟨{}, trickleCalls none⟩) := by
        simp only [Operation.perform, Action.perform, hread]
        rfl
      have hrun : Lifecycle.run operations none trickle
          = (e₁ :: e₂ :: (Lifecycle.run [.act (.read .request ⟨0⟩)]
            (some (c.setReceiveTimeout 0)) trickle).1, _) := rfl
      rw [hrun, Lifecycle.run, hlast]
      rfl
    obtain ⟨set, hset, hdue⟩ := (read_under_one_deadline (Nat.zero_le _)).2.2 operations trickle
      [e₁, e₂] e [] hentries .request ⟨0⟩ rfl (by decide) (List.cons_ne_nil _ _)
    cases hset
    exact ⟨[e₁, e₂], e, hentries, rfl, hdue rfl⟩

end Channel

set_option maxRecDepth 2000 in
/-- **A timeout that is set while a read waits for the buffer is the one of that read,** though the
read began before. No timeout is set when the second read begins, while the first has the buffer;
then a millisecond is set, and the first read comes to its end with the only frame that there is.
The second gives up a millisecond after its start, where it should have gone on for ever. -/
theorem Callers.set_while_waiting :
    let clock (_ : Memory) : Instant := ⟨0⟩
    let before : Shared Unit Memory :=
      { channel := ({} : Channel Unit).attach ()
        state := { unread := [0, 1, 0, 0, 0, 2, 0x11, 0x41] } }
    ∃ S S', run clock [.begin 1 .request, .enter 1] before = some S
      ∧ Held clock 2 .request [.setReceiveTimeout 1, .finish] [] S S'
      ∧ S.channel.receiveTimeout = 0
      ∧ (∃ a, S'.holder = some ⟨⟨2, .request, clock S.state⟩, some a⟩
        ∧ a.deadline = some ⟨1000000⟩ ∧ ¬ a.deadline.IsDue (clock S.state) 0)
      ∧ (perform clock .finish S').map (fun S => S.ended.map fun e => (e.read.caller, e.failure?))
        = some [(1, none), (2, some (.headerBroken .expired))] := by
  intro clock before
  let S : Shared Unit Memory :=
    { before with holder := some ⟨⟨1, .request, ⟨0⟩⟩, before.channel.admission ⟨0⟩⟩ }
  have hseen : (run clock (.begin 2 .request :: ([.setReceiveTimeout 1, .finish] ++ [.enter 2]))
        S).map (fun S' => (S'.holder.bind fun holder => holder.admission.map (·.deadline),
          (perform clock .finish S').map fun S => S.ended.map fun e => (e.read.caller, e.failure?)))
      = some (some (some ⟨1000000⟩),
          some [(1, none), (2, some (.headerBroken .expired))]) := by cbv
  obtain ⟨S', hrun, hpair⟩ := Option.map_eq_some_iff.mp hseen
  obtain ⟨hdeadline, hended⟩ := Prod.mk.inj hpair
  have hheld : Held clock 2 .request [.setReceiveTimeout 1, .finish] [] S S' :=
    ⟨hrun, by simp, by simp⟩
  obtain ⟨admission, hholder, -⟩ := hheld.holder
  rw [hholder] at hdeadline
  obtain ⟨a, rfl, ha⟩ := Option.map_eq_some_iff.mp hdeadline
  refine ⟨S, S', rfl, hheld, rfl, ⟨a, hholder, ha, ?_⟩, hended⟩
  intro hdue
  have hnone := hdue.unlimited rfl
  rw [ha] at hnone
  cases hnone

end ModbusTcp
