import ModbusTcp.Proofs.Asking
import ModbusTcp.Session.Store

/-!
The life of a channel, and of the connections that it is bound to.

An operation makes a channel (`Open`), does something with it (`SetConnection`, `Close`, `Write` and
the others) or destroys it, and `Lifecycle.run` carries out one after the other and writes down of
each the reply, the calls that it made on connections, and what became of the channel. Two things
are all that an operation can do to the binding (`Entry.Follows`): it leaves it as it is, and moves
bytes over the bound connection at most; or it ends it, closes the bound connection in three steps,
and binds the connection that it accepted, if any. What a whole run does follows from that by
induction on the entries. Which connections are asked whether they are open is no part of the
entries, and follows by induction on the operations (`run_answering`). The main statement is
`run_lifecycle`.
-/

set_option autoImplicit false

namespace ModbusTcp.Lifecycle

open Transport Channel

/-! ## Operations -/

/-- What is done with a channel that is there. -/
inductive Action (ρ : Type) where
  | bind (r : Option ρ)
  | close
  | read (role : Role) (start : Instant)
  | write {role : Role} (m : Message role)
  | setReceiveTimeout (milliseconds : Int64)
  | isOpen

/-- What is done with a channel, or with the place for one. -/
inductive Operation (ρ : Type) where
  /-- A channel without a connection. -/
  | create (table : VariantTable) (receiveTimeout : Int64)
  /-- A channel that is bound to a connection, or none if it cannot be. -/
  | establish (table : VariantTable) (receiveTimeout : Int64) (r : Option ρ)
  | act (action : Action ρ)
  | destroy

/-- What an operation gives. -/
inductive Reply where
  | done
  /-- There is no channel to do something with. -/
  | absent
  | status (result : Result Unit)
  | message (role : Role) (result : Result (Message role))
  | isOpen (value : Bool)

section Operations

variable {ρ σ : Type} [Transport ρ σ]

/-- Does something with a channel. No result if a read waits for ever. -/
def Action.perform (action : Action ρ) (c : Channel ρ) (s : σ) : Option (Reply × Channel ρ × σ) :=
  match action with
  | .bind r =>
    let (outcome, c, s) := c.bind r s
    some (.status (outcome.mapError BindFailure.status), c, s)
  | .close =>
    let (c, s) := c.close s
    some (.done, c, s)
  | .read role start =>
    match c.read role start s with
    | none => none
    | some (outcome, c, s) => some (.message role (outcome.mapError ReadFailure.status), c, s)
  | .write m =>
    let (outcome, s) := c.write m s
    some (.status (outcome.mapError WriteFailure.status), c, s)
  | .setReceiveTimeout milliseconds => some (.done, c.setReceiveTimeout milliseconds, s)
  | .isOpen => some (.isOpen (c.isOpen s), c, s)

/-- A channel that is destroyed closes its connection. -/
def dispose (c : Option (Channel ρ)) (s : σ) : σ :=
  match c with
  | none => s
  | some c => (c.close s).2

/-- Carries out an operation where there is a channel, or none. A channel that another one takes the
place of is destroyed. -/
def Operation.perform (operation : Operation ρ) (c : Option (Channel ρ)) (s : σ) :
    Option (Reply × Option (Channel ρ) × σ) :=
  match operation with
  | .create table receiveTimeout => some (.done, some { table, receiveTimeout }, dispose c s)
  | .establish table receiveTimeout r =>
    match Channel.establish table receiveTimeout r s with
    | (.error e, s) => some (.status (.error e.status), c, s)
    | (.ok made, s) => some (.status (.ok ()), some made, dispose c s)
  | .act action =>
    match c with
    | none => some (.absent, none, s)
    | some c => (action.perform c s).map fun (reply, c, s) => (reply, some c, s)
  | .destroy => some (.done, none, dispose c s)

/-- What is written down of an operation. -/
structure Entry (ρ : Type) where
  operation : Operation ρ
  reply : Reply
  /-- The calls made on connections, in order. -/
  calls : List (Call ρ)
  /-- The channel behind the operation. -/
  channel : Option (Channel ρ)

/-- Carries out one operation after the other, as far as they come to an end. Gives what was written
down, and the channel and the state behind the last operation; these are missing if a read waits
for ever. -/
def run : List (Operation ρ) → Option (Channel ρ) → σ →
    List (Entry ρ) × Option (Option (Channel ρ) × σ)
  | [], c, s => ([], some (c, s))
  | operation :: operations, c, s =>
    match operation.perform c (⟨s, []⟩ : Recorded ρ σ) with
    | none => ([], none)
    | some (reply, c, s) =>
      let (entries, final) := run operations c s.state
      (⟨operation, reply, s.calls, c⟩ :: entries, final)

theorem run_cons (operation : Operation ρ) (operations : List (Operation ρ))
    (c : Option (Channel ρ)) (s : σ) :
    run (operation :: operations) c s =
      match operation.perform c (⟨s, []⟩ : Recorded ρ σ) with
      | none => ([], none)
      | some (reply, c, s) =>
        (⟨operation, reply, s.calls, c⟩ :: (run operations c s.state).1,
          (run operations c s.state).2) := by
  rw [run]

theorem run_append {before : List (Operation ρ)} {c c' : Option (Channel ρ)} {s s' : σ}
    {entries : List (Entry ρ)} (h : run before c s = (entries, some (c', s')))
    (after : List (Operation ρ)) :
    run (before ++ after) c s = (entries ++ (run after c' s').1, (run after c' s').2) := by
  induction before generalizing c s entries with
  | nil =>
    cases h
    rfl
  | cons operation before ih =>
    rw [run] at h
    rw [List.cons_append, run]
    rcases hperform : operation.perform c (⟨s, []⟩ : Recorded ρ σ) with _ | ⟨reply, c₁, s₁⟩
    · rw [hperform] at h
      exact nomatch h
    · rw [hperform] at h
      simp only at h ⊢
      rcases hrest : run before c₁ s₁.state with ⟨later, final⟩
      rw [hrest] at h
      cases h
      rw [ih hrest]
      rfl

end Operations

/-! ## Bindings -/

variable {ρ : Type}

/-- The connection that a channel is bound to, if there is one. -/
def bound (c : Option (Channel ρ)) : Option ρ := c.bind (·.connection)

/-- The calls that let go of a connection. -/
def letGo (r : Option ρ) : List (Call ρ) := r.elim [] closing

/-- The connection that an operation offers to a channel, if it offers one. -/
def Operation.offered : Operation ρ → Option ρ
  | .act (.bind r) | .establish _ _ r => r
  | _ => none

namespace Entry

/-- The connection that an operation was offered and bound to a channel. -/
def accepted (e : Entry ρ) : Option ρ :=
  match e.operation, e.reply with
  | .act (.bind r), .status (.ok ()) | .establish _ _ r, .status (.ok ()) => r
  | _, _ => none

/-- Whether an operation ends the binding that there was: by closing the channel, by destroying it
or putting another in its place, or by binding another connection to it. -/
def Ends (e : Entry ρ) : Prop :=
  match e.operation with
  | .create _ _ | .destroy | .act .close => True
  | .act (.bind _) | .establish _ _ _ => e.accepted.isSome
  | _ => False

/-- **What an operation does to the binding,** said of its entry and of the binding before it. -/
def Follows (before : Option ρ) (e : Entry ρ) : Prop :=
  (¬ e.Ends ∧ e.accepted = none ∧ bound e.channel = before
    ∧ ∀ call ∈ e.calls, before = some call.connection ∧ call.isTransfer)
  ∨ (e.Ends ∧ bound e.channel = e.accepted ∧ e.calls = letGo before)

end Entry

section Steps

variable {σ : Type} [Transport ρ σ]

theorem calls_close (c : Channel ρ) (s : Recorded ρ σ) :
    (c.close s).2.calls = s.calls ++ letGo c.connection := by
  rcases hr : c.connection with _ | r
  · rw [close_of_unbound hr]
    exact (List.append_nil _).symm
  · rw [close_of_bound hr]
    exact calls_shutDown r s

theorem calls_dispose (c : Option (Channel ρ)) (s : Recorded ρ σ) :
    (dispose c s).calls = s.calls ++ letGo (bound c) := by
  cases c with
  | none => exact (List.append_nil _).symm
  | some c => exact calls_close c s

theorem connection_close (c : Channel ρ) (s : σ) : (c.close s).1.connection = none := by
  rcases hr : c.connection with _ | r
  · rw [close_of_unbound hr, hr]
  · rw [close_of_bound hr]

/-- A connection that may be bound was offered. -/
theorem eq_some_of_usable {r : Option ρ} {r' : ρ} {s : σ} (h : usable r s = .ok r') :
    r = some r' := by
  unfold usable at h
  split at h
  · exact nomatch h
  · split at h
    · cases h
      rfl
    · exact nomatch h

theorem bind_of_refused {r : Option ρ} {s : σ} {e : BindFailure} (h : usable r s = .error e)
    (c : Channel ρ) : c.bind r s = (.error e, c, s) := by
  rw [Channel.bind, h]

theorem bind_of_usable {r : Option ρ} {r' : ρ} {s : σ} (h : usable r s = .ok r')
    (c : Channel ρ) : c.bind r s = (.ok (), (c.close s).1.attach r', (c.close s).2) := by
  rw [Channel.bind, h]

theorem read_of_unbound {c : Channel ρ} (hr : c.connection = none) (role : Role) (start : Instant)
    (s : σ) : c.read role start s = some (.error .unbound, c, s) := by
  rw [Channel.read, admission_of_unbound hr]

/-- A channel is bound to a connection and has the buffer that goes with it, or has neither. -/
def Paired (c : Channel ρ) : Prop :=
  (∃ r, c.BoundTo r) ∨ (c.connection = none ∧ c.buffer = none)

theorem Paired.close {c : Channel ρ} (h : Paired c) (s : σ) : Paired (c.close s).1 := by
  rcases hr : c.connection with _ | r
  · rw [close_of_unbound hr]
    exact h
  · rw [close_of_bound hr]
    exact .inr ⟨rfl, rfl⟩

theorem establish_of_refused {r : Option ρ} {s : σ} {e : BindFailure} (h : usable r s = .error e)
    (table : VariantTable) (receiveTimeout : Int64) :
    Channel.establish table receiveTimeout r s = (.error e, s) := by
  rw [Channel.establish, bind_of_refused h]
  rfl

theorem establish_of_usable {r : Option ρ} {r' : ρ} {s : σ} (h : usable r s = .ok r')
    (table : VariantTable) (receiveTimeout : Int64) :
    Channel.establish table receiveTimeout r s
      = (.ok (({ table, receiveTimeout } : Channel ρ).attach r'), s) := by
  rw [Channel.establish, bind_of_usable h]
  rfl

/-- What an action does to the binding of its channel. The buffer goes with it. -/
theorem follows_action {c c' : Channel ρ} (hc : Paired c) {action : Action ρ} {s : σ}
    {s' : Recorded ρ σ} {reply : Reply}
    (h : action.perform c (⟨s, []⟩ : Recorded ρ σ) = some (reply, c', s')) :
    Entry.Follows c.connection ⟨.act action, reply, s'.calls, some c'⟩ ∧ Paired c' := by
  cases action with
  | bind r =>
    rcases husable : usable r (⟨s, []⟩ : Recorded ρ σ) with e | r'
    · simp only [Action.perform, bind_of_refused husable] at h
      cases h
      exact ⟨.inl ⟨Bool.false_ne_true, rfl, rfl, nofun⟩, hc⟩
    · simp only [Action.perform, bind_of_usable husable] at h
      cases h
      refine ⟨.inr ⟨?_, (eq_some_of_usable husable).symm, calls_close c _⟩,
        .inl ⟨r', boundTo_attach _ r'⟩⟩
      rw [eq_some_of_usable husable]
      exact rfl
  | close =>
    cases h
    exact ⟨.inr ⟨trivial, connection_close c _, calls_close c _⟩, hc.close _⟩
  | read role start =>
    simp only [Action.perform] at h
    rcases hread : c.read role start (⟨s, []⟩ : Recorded ρ σ) with _ | ⟨outcome, c₁, s₁⟩
    · rw [hread] at h
      exact nomatch h
    · -- Whatever a read comes to, nothing but reads of the bound connection was called.
      rw [hread] at h
      cases h
      rcases hc with ⟨r, hbound⟩ | hunbound
      · obtain ⟨hreads, hbound', -⟩ := read_leaves hbound hread
        obtain ⟨calls, hcalls, hall⟩ := Recorded.calls_of_reads hreads
        refine ⟨.inl ⟨not_false, rfl, hbound'.1.trans hbound.1.symm, ?_⟩, .inl ⟨r, hbound'⟩⟩
        intro call hcall
        rw [hcalls, List.nil_append] at hcall
        obtain ⟨hr, hread⟩ := hall call hcall
        rw [hr]
        exact ⟨hbound.1, Call.isTransfer_of_isRead hread⟩
      · rw [read_of_unbound hunbound.1] at hread
        cases hread
        exact ⟨.inl ⟨not_false, rfl, rfl, nofun⟩, .inr hunbound⟩
  | write m =>
    simp only [Action.perform] at h
    cases h
    refine ⟨.inl ⟨not_false, rfl, rfl, ?_⟩, hc⟩
    intro call hcall
    simp only at hcall
    rcases hr : c.connection with _ | r
    · rw [write_of_unbound hr] at hcall
      exact nomatch hcall
    · obtain ⟨calls, hcalls, hall⟩ := calls_write hr m (⟨s, []⟩ : Recorded ρ σ)
      rw [hcalls, List.nil_append] at hcall
      obtain ⟨hconnection, htransfer⟩ := hall call hcall
      rw [hconnection]
      exact ⟨rfl, htransfer⟩
  | setReceiveTimeout milliseconds =>
    cases h
    exact ⟨.inl ⟨not_false, rfl, rfl, nofun⟩, hc⟩
  | isOpen =>
    cases h
    exact ⟨.inl ⟨not_false, rfl, rfl, nofun⟩, hc⟩

/-- **What an operation does to the binding.** The channel that it leaves, if it leaves one, is
bound and has its buffer, or is not bound and has none. -/
theorem follows_perform {c c' : Option (Channel ρ)} (hc : ∀ made, c = some made → Paired made)
    {operation : Operation ρ} {s : σ} {s' : Recorded ρ σ} {reply : Reply}
    (h : operation.perform c (⟨s, []⟩ : Recorded ρ σ) = some (reply, c', s')) :
    Entry.Follows (bound c) ⟨operation, reply, s'.calls, c'⟩
      ∧ ∀ made, c' = some made → Paired made := by
  cases operation with
  | create table receiveTimeout =>
    cases h
    refine ⟨.inr ⟨trivial, rfl, calls_dispose c _⟩, ?_⟩
    rintro made ⟨rfl⟩
    exact .inr ⟨rfl, rfl⟩
  | establish table receiveTimeout r =>
    rcases husable : usable r (⟨s, []⟩ : Recorded ρ σ) with e | r'
    · -- The channel that could not be made leaves the one that was there as it is.
      simp only [Operation.perform, establish_of_refused husable] at h
      cases h
      exact ⟨.inl ⟨Bool.false_ne_true, rfl, rfl, nofun⟩, hc⟩
    · simp only [Operation.perform, establish_of_usable husable] at h
      cases h
      rw [eq_some_of_usable husable]
      refine ⟨.inr ⟨rfl, rfl, calls_dispose c _⟩, ?_⟩
      rintro made ⟨rfl⟩
      exact .inl ⟨r', boundTo_attach _ r'⟩
  | act action =>
    cases c with
    | none =>
      cases h
      cases action with
      | bind r => exact ⟨.inl ⟨Bool.false_ne_true, rfl, rfl, nofun⟩, nofun⟩
      | close => exact ⟨.inr ⟨trivial, rfl, rfl⟩, nofun⟩
      | _ => exact ⟨.inl ⟨not_false, rfl, rfl, nofun⟩, nofun⟩
    | some old =>
      obtain ⟨⟨reply', c₁, s₁⟩, haction, heq⟩ := Option.map_eq_some_iff.mp h
      cases heq
      obtain ⟨hfollows, hpaired⟩ := follows_action (hc old rfl) haction
      refine ⟨hfollows, ?_⟩
      rintro made ⟨rfl⟩
      exact hpaired
  | destroy =>
    cases h
    exact ⟨.inr ⟨trivial, rfl, calls_dispose c _⟩, nofun⟩

end Steps

/-! ## Runs -/

/-- Entries each of which does to the binding what an operation does. -/
def Chained : Option ρ → List (Entry ρ) → Prop
  | _, [] => True
  | before, e :: entries => e.Follows before ∧ Chained (bound e.channel) entries

/-- The binding behind some entries. -/
def boundAfter : Option ρ → List (Entry ρ) → Option ρ
  | before, [] => before
  | _, e :: entries => boundAfter (bound e.channel) entries

theorem chained_append {before : Option ρ} {front back : List (Entry ρ)}
    (h : Chained before (front ++ back)) :
    Chained before front ∧ Chained (boundAfter before front) back := by
  induction front generalizing before with
  | nil => exact ⟨trivial, h⟩
  | cons e front ih =>
    obtain ⟨hfirst, hrest⟩ := h
    obtain ⟨hfront, hback⟩ := ih hrest
    exact ⟨⟨hfirst, hfront⟩, hback⟩

theorem connection_letGo {r : Option ρ} {call : Call ρ} (h : call ∈ letGo r) :
    r = some call.connection := by
  cases r with
  | none => exact nomatch h
  | some r =>
    simp only [letGo, Option.elim_some, closing, List.mem_cons, List.not_mem_nil, or_false] at h
    rcases h with rfl | rfl | rfl <;> rfl

/-- The entries of a run are chained, and every channel in them and behind them is paired. -/
theorem chained_run {σ : Type} [Transport ρ σ] (operations : List (Operation ρ))
    {c : Option (Channel ρ)} (hc : ∀ made, c = some made → Paired made) (s : σ) :
    Chained (bound c) (run operations c s).1
      ∧ (∀ e ∈ (run operations c s).1, ∀ made, e.channel = some made → Paired made)
      ∧ ∀ made s', (run operations c s).2 = some (some made, s') → Paired made := by
  induction operations generalizing c s with
  | nil =>
    refine ⟨trivial, List.forall_mem_nil _, ?_⟩
    intro made s' hfinal
    cases hfinal
    exact hc made rfl
  | cons operation operations ih =>
    rw [run]
    rcases hperform : operation.perform c (⟨s, []⟩ : Recorded ρ σ) with _ | ⟨reply, c₁, s₁⟩
    · exact ⟨trivial, List.forall_mem_nil _, nofun⟩
    · obtain ⟨hfollows, hpaired⟩ := follows_perform hc hperform
      obtain ⟨hchained, hall, hfinal⟩ := ih hpaired s₁.state
      refine ⟨⟨hfollows, hchained⟩, ?_, hfinal⟩
      intro e he
      rcases List.mem_cons.mp he with rfl | he
      · exact hpaired
      · exact hall e he

variable {r : ρ}

/-- A connection that is neither bound nor accepted is not bound behind an operation. -/
theorem not_bound {before : Option ρ} {e : Entry ρ} (h : e.Follows before)
    (hbefore : before ≠ some r) (hother : e.accepted ≠ some r) : bound e.channel ≠ some r := by
  rcases h with ⟨_, _, hsame, _⟩ | ⟨_, hbound, _⟩
  · rw [hsame]
    exact hbefore
  · rw [hbound]
    exact hother

/-- All calls of an operation are made on the connection that is bound before it. -/
theorem Entry.Follows.connection {before : Option ρ} {e : Entry ρ} (h : e.Follows before)
    {call : Call ρ} (hcall : call ∈ e.calls) : before = some call.connection := by
  rcases h with ⟨_, _, _, hcalls⟩ | ⟨_, _, hcalls⟩
  · exact (hcalls call hcall).1
  · rw [hcalls] at hcall
    exact connection_letGo hcall

/-- A connection that is neither bound nor accepted is not called, and not bound. -/
theorem not_called {before : Option ρ} {entries : List (Entry ρ)} (h : Chained before entries)
    (hbefore : before ≠ some r) (hother : ∀ e ∈ entries, e.accepted ≠ some r) :
    (∀ e ∈ entries, ∀ call ∈ e.calls, call.connection ≠ r)
      ∧ boundAfter before entries ≠ some r := by
  induction entries generalizing before with
  | nil => exact ⟨List.forall_mem_nil _, hbefore⟩
  | cons e entries ih =>
    obtain ⟨hfollows, hrest⟩ := h
    obtain ⟨hfirst, hlater⟩ := List.forall_mem_cons.mp hother
    obtain ⟨hcalls, hbound⟩ := ih hrest (not_bound hfollows hbefore hfirst) hlater
    refine ⟨List.forall_mem_cons.mpr ⟨?_, hcalls⟩, hbound⟩
    rintro call hcall rfl
    exact hbefore (hfollows.connection hcall)

/-- What a channel does with a connection from then on: it is used by the operations that come
first, and the first that ends the binding closes it in three steps. After that it is not called. -/
def UsedThenClosed (r : ρ) (entries : List (Entry ρ)) : Prop :=
  ∃ held rest, entries = held ++ rest
    ∧ (∀ e ∈ held, ¬ e.Ends ∧ ∀ call ∈ e.calls, call.connection = r ∧ call.isTransfer)
    ∧ (rest = [] ∨ ∃ last later, rest = last :: later ∧ last.Ends ∧ last.calls = closing r
      ∧ ∀ e ∈ later, ∀ call ∈ e.calls, call.connection ≠ r)

/-- A connection that is bound is used and then closed, if it is not accepted again. -/
theorem usedThenClosed {entries : List (Entry ρ)} (h : Chained (some r) entries)
    (hother : ∀ e ∈ entries, e.accepted ≠ some r) : UsedThenClosed r entries := by
  induction entries with
  | nil => exact ⟨[], [], rfl, List.forall_mem_nil _, .inl rfl⟩
  | cons e entries ih =>
    have hlater : ∀ e ∈ entries, e.accepted ≠ some r :=
      fun e he => hother e (List.mem_cons_of_mem _ he)
    obtain ⟨⟨hstays, _, hsame, hcalls⟩ | ⟨hends, hbound, hcalls⟩, hrest⟩ := h
    · -- The connection is still bound behind the first entry, so the others go on with it.
      rw [hsame] at hrest
      obtain ⟨held, rest, rfl, hheld, hend⟩ := ih hrest hlater
      refine ⟨e :: held, rest, rfl, ?_, hend⟩
      intro e' he'
      rcases List.mem_cons.mp he' with rfl | he'
      · refine ⟨hstays, fun call hcall => ?_⟩
        obtain ⟨hconnection, htransfer⟩ := hcalls call hcall
        exact ⟨(Option.some.inj hconnection).symm, htransfer⟩
      · exact hheld e' he'
    · -- What is bound behind the entry was accepted by it, and is another connection.
      rw [hbound] at hrest
      have hover := (not_called hrest (hother e List.mem_cons_self) hlater).1
      exact ⟨[], e :: entries, rfl, List.forall_mem_nil _,
        .inr ⟨e, entries, rfl, hends, hcalls, hover⟩⟩

/-- An accepted connection was not called before, and is used and closed after. -/
theorem usedThenClosed_of_accepted {before after : List (Entry ρ)} {e : Entry ρ}
    (h : Chained none (before ++ e :: after)) (haccepted : e.accepted = some r)
    (hother : ∀ other ∈ before ++ after, other.accepted ≠ some r) :
    (∀ e' ∈ before ++ [e], ∀ call ∈ e'.calls, call.connection ≠ r) ∧ UsedThenClosed r after := by
  obtain ⟨hbefore, hfollows, hafter⟩ := chained_append h
  obtain ⟨hcalls, hfree⟩ := not_called hbefore (Option.some_ne_none r).symm
    fun other hmem => hother other (List.mem_append_left _ hmem)
  constructor
  · intro e' he'
    rcases List.mem_append.mp he' with he' | he'
    · exact hcalls e' he'
    · -- The calls of the operation itself are made on the connection that was bound before.
      rw [List.mem_singleton.mp he']
      rintro call hcall rfl
      exact hfree (hfollows.connection hcall)
  · rcases hfollows with ⟨_, hnone, _, _⟩ | ⟨_, hbound, _⟩
    · rw [hnone] at haccepted
      cases haccepted
    · rw [hbound, haccepted] at hafter
      exact usedThenClosed hafter fun other hmem => hother other (List.mem_append_right _ hmem)

/-! ## Operations that do nothing -/

section Replies

variable {σ : Type} [Transport ρ σ]

/-- A connection that cannot be used: none at all, or one that is not open. -/
def Unusable (r : Option ρ) (s : σ) : Prop := ∀ r', r = some r' → Transport.isOpen r' s = false

/-- An operation that offers a connection to a channel, to one that is there or to a new one. -/
def Offers (operation : Operation ρ) (r : Option ρ) (c : Option (Channel ρ)) : Prop :=
  (operation = .act (.bind r) ∧ c.isSome)
    ∨ ∃ table receiveTimeout, operation = .establish table receiveTimeout r

theorem usable_of_unusable {r : Option ρ} {s : σ} (h : Unusable r s) :
    ∃ e, usable r s = .error e := by
  cases r with
  | none => exact ⟨_, rfl⟩
  | some r =>
    rw [usable, h r rfl]
    exact ⟨_, rfl⟩

theorem outcome_bindFailure (e : BindFailure) : e.status.outcome = .configurationError := by
  cases e <;> rfl

/-- A connection that cannot be used is refused without a call, and nothing changes. -/
theorem perform_of_unusable {operation : Operation ρ} {r : Option ρ} {c : Option (Channel ρ)}
    {s : σ} (hoffers : Offers operation r c) (hr : Unusable r s) :
    ∃ status, status.outcome = .configurationError
      ∧ operation.perform c (⟨s, []⟩ : Recorded ρ σ)
        = some (.status (.error status), c, ⟨s, []⟩) := by
  obtain ⟨e, he⟩ := usable_of_unusable hr
  have husable : usable r (⟨s, []⟩ : Recorded ρ σ) = .error e := he
  refine ⟨e.status, outcome_bindFailure e, ?_⟩
  rcases hoffers with ⟨rfl, hc⟩ | ⟨table, receiveTimeout, rfl⟩
  · obtain ⟨c, rfl⟩ := Option.isSome_iff_exists.mp hc
    simp only [Operation.perform, Action.perform, bind_of_refused husable]
    rfl
  · simp only [Operation.perform, establish_of_refused husable]

/-- What a channel without a connection replies, if the action neither binds one nor sets the
timeout. -/
def unboundReply? : Action ρ → Option Reply
  | .read role _ =>
    some (.message role
      (.error { outcome := .connectionClosed, message := "channel is closed" }))
  | .write _ =>
    some (.status (.error
      { outcome := .ioFailure
        message := "I/O exception - failed to write: channel is closed" }))
  | .isOpen => some (.isOpen false)
  | .close => some .done
  | .bind _ | .setReceiveTimeout _ => none

/-- A channel without a connection calls nothing, and nothing changes. -/
theorem perform_of_unbound {action : Action ρ} {reply : Reply} {c : Channel ρ} {s : σ}
    (hreply : unboundReply? action = some reply) (hc : c.connection = none) :
    (Operation.act action).perform (some c) (⟨s, []⟩ : Recorded ρ σ)
      = some (reply, some c, ⟨s, []⟩) := by
  cases action with
  | bind r => exact nomatch hreply
  | close =>
    cases hreply
    simp only [Operation.perform, Action.perform, close_of_unbound hc]
    rfl
  | read role start =>
    cases hreply
    simp only [Operation.perform, Action.perform, read_of_unbound hc]
    rfl
  | write m =>
    cases hreply
    simp only [Operation.perform, Action.perform, write_of_unbound hc]
    rfl
  | setReceiveTimeout milliseconds => exact nomatch hreply
  | isOpen =>
    cases hreply
    have hclosed : c.isOpen (⟨s, []⟩ : Recorded ρ σ) = false := by rw [Channel.isOpen, hc]
    simp only [Operation.perform, Action.perform, hclosed]
    rfl

/-- An operation that changes nothing may be left out of a run: the others go on as they would. -/
theorem run_of_unchanged {operations : List (Operation ρ)} {c : Option (Channel ρ)} {s s' : σ}
    {entries : List (Entry ρ)} (h : run operations none s = (entries, some (c, s')))
    {operation : Operation ρ} {reply : Reply}
    (hperform : operation.perform c (⟨s', []⟩ : Recorded ρ σ) = some (reply, c, ⟨s', []⟩))
    (later : List (Operation ρ)) :
    ∃ rest final, run (operations ++ later) none s = (entries ++ rest, final)
      ∧ run (operations ++ operation :: later) none s
        = (entries ++ ⟨operation, reply, [], c⟩ :: rest, final) := by
  refine ⟨(run later c s').1, (run later c s').2, run_append h later, ?_⟩
  rw [run_append h, run, hperform]

end Replies

/-! ## Operations that bind -/

section Binding

variable {σ : Type} [Transport ρ σ]

/-- **A connection that is open is accepted,** and the one that was bound is closed. -/
theorem perform_of_open {operation : Operation ρ} {c : Option (Channel ρ)} {s : σ}
    (hoffers : Offers operation (some r) c) (hr : Transport.isOpen r s = true) :
    ∃ made s', operation.perform c (⟨s, []⟩ : Recorded ρ σ)
        = some (.status (.ok ()), some made, s')
      ∧ (∀ calls, Entry.accepted ⟨operation, .status (.ok ()), calls, some made⟩ = some r)
      ∧ made.BoundTo r ∧ s'.calls = letGo (bound c) := by
  have husable : usable (some r) (⟨s, []⟩ : Recorded ρ σ) = .ok r := if_pos hr
  rcases hoffers with ⟨rfl, hc⟩ | ⟨table, receiveTimeout, rfl⟩
  · obtain ⟨c, rfl⟩ := Option.isSome_iff_exists.mp hc
    refine ⟨(c.close (⟨s, []⟩ : Recorded ρ σ)).1.attach r, _, ?_, fun _ => rfl,
      boundTo_attach _ r, calls_close c ⟨s, []⟩⟩
    simp only [Operation.perform, Action.perform, bind_of_usable husable]
    rfl
  · refine ⟨({ table, receiveTimeout } : Channel ρ).attach r, _, ?_, fun _ => rfl,
      boundTo_attach _ r, calls_dispose c ⟨s, []⟩⟩
    simp only [Operation.perform, establish_of_usable husable]

/-- An open connection that is offered behind a run is accepted. -/
theorem run_of_open {operations : List (Operation ρ)} {c : Option (Channel ρ)} {s s' : σ}
    {entries : List (Entry ρ)} (h : run operations none s = (entries, some (c, s')))
    {operation : Operation ρ} (hr : Transport.isOpen r s' = true)
    (hoffers : Offers operation (some r) c) (later : List (Operation ρ)) :
    ∃ e rest final, run (operations ++ operation :: later) none s = (entries ++ e :: rest, final)
      ∧ e.operation = operation ∧ e.accepted = some r ∧ e.calls = letGo (bound c)
      ∧ ∃ made, e.channel = some made ∧ made.BoundTo r := by
  obtain ⟨made, s₁, hperform, haccepted, hbound, hcalls⟩ := perform_of_open hoffers hr
  refine ⟨⟨operation, .status (.ok ()), s₁.calls, some made⟩, (run later (some made) s₁.state).1,
    (run later (some made) s₁.state).2, ?_, rfl, haccepted _, hcalls, made, rfl, hbound⟩
  rw [run_append h, run, hperform]

end Binding

/-! ## Connections that are not asked -/

section Asking

variable {σ : Type} [Transport ρ σ]

theorem offered_of_accepted {e : Entry ρ} (h : e.accepted = some r) :
    e.operation.offered = some r := by
  unfold Entry.accepted at h
  split at h
  · rename_i hoperation _
    rw [hoperation]
    exact h
  · rename_i hoperation _
    rw [hoperation]
    exact h
  · exact nomatch h

variable {answer : ρ → σ → Bool}

theorem answer_of_ne (hsame : ∀ r', r' ≠ r → ∀ s, answer r' s = Transport.isOpen r' s)
    (other : Option ρ) (h : other ≠ some r) (s : σ) :
    ∀ r', other = some r' → answer r' s = Transport.isOpen r' s := by
  rintro r' rfl
  exact hsame r' (fun hr' => h (congrArg some hr')) s

/-- An action asks the connection that it offers or the one that is bound, and no other. -/
theorem action_answering (hsame : ∀ r', r' ≠ r → ∀ s, answer r' s = Transport.isOpen r' s)
    {action : Action ρ} (hoffered : (Operation.act action).offered ≠ some r) {c : Channel ρ}
    (hbound : c.connection ≠ some r) (s : σ) :
    @Action.perform ρ σ (answering answer) action c s = action.perform c s := by
  cases action with
  | bind r' => simp only [Action.perform, bind_answering (answer_of_ne hsame r' hoffered s)]
  | close => simp only [Action.perform, close_answering]
  | read role start => simp only [Action.perform, read_answering]
  | write m => simp only [Action.perform, write_answering]
  | setReceiveTimeout milliseconds => rfl
  | isOpen =>
    have hbound' := answer_of_ne hsame c.connection hbound s
    simp only [Action.perform, isOpen_answering hbound']

theorem perform_answering (hsame : ∀ r', r' ≠ r → ∀ s, answer r' s = Transport.isOpen r' s)
    {operation : Operation ρ} (hoffered : operation.offered ≠ some r) {c : Option (Channel ρ)}
    (hbound : bound c ≠ some r) (s : σ) :
    @Operation.perform ρ σ (answering answer) operation c s = operation.perform c s := by
  cases operation with
  | create table receiveTimeout => rfl
  | establish table receiveTimeout r' =>
    simp only [Operation.perform, establish_answering (answer_of_ne hsame r' hoffered s)]
    rfl
  | act action =>
    cases c with
    | none => rfl
    | some c => simp only [Operation.perform, action_answering hsame hoffered hbound]
  | destroy => rfl

/-- **A connection that is not bound and not offered is not asked whether it is open.** By induction
on the operations; none of them binds it, so none of those behind it asks it either. -/
theorem run_answering (hsame : ∀ r', r' ≠ r → ∀ s, answer r' s = Transport.isOpen r' s)
    {later : List (Operation ρ)} (hlater : ∀ operation ∈ later, operation.offered ≠ some r)
    {c : Option (Channel ρ)} (hc : ∀ made, c = some made → Paired made)
    (hbound : bound c ≠ some r) (s : σ) :
    @run ρ σ (answering answer) later c s = run later c s := by
  induction later generalizing c s with
  | nil => rfl
  | cons operation later ih =>
    obtain ⟨hfirst, hrest⟩ := List.forall_mem_cons.mp hlater
    have hsame' : ∀ r', r' ≠ r → ∀ s : Recorded ρ σ,
        answer r' s.state = Transport.isOpen r' s := fun r' hr' s => hsame r' hr' s.state
    have hperform := perform_answering hsame' hfirst hbound (⟨s, []⟩ : Recorded ρ σ)
    rw [@run_cons ρ σ (answering answer), run_cons, recorded_answering, hperform]
    rcases hnext : operation.perform c (⟨s, []⟩ : Recorded ρ σ) with _ | ⟨reply, c₁, s₁⟩
    · rfl
    · obtain ⟨hfollows, hpaired⟩ := follows_perform hc hnext
      have hfree : bound c₁ ≠ some r :=
        not_bound hfollows hbound fun haccepted => hfirst (offered_of_accepted haccepted)
      simp only
      rw [ih hrest hpaired hfree]

end Asking

/-! ## The whole life -/

/-- **The life of a channel.** Take any run of operations, over connections that make of reads,
writes, flushes and closings what they like, and one that bound no channel before.

Behind every operation a channel is bound exactly if it has a receive buffer, which then is one for
the longest frame. A connection is handed over when it is accepted, so one operation alone accepts
it. It was not called before; then the operations that come next use it, and the first that ends the
binding closes its input, its output and itself, each once and in this order, and after that it is
never called. An open connection that is offered is accepted, and the operation that accepts it
closes the one before. A connection that cannot be used is refused as an error of configuration,
without a call, and what comes after goes on as if it had not been offered. One that is not bound is
not even asked whether it is open, unless it is offered again. A channel without a connection
neither reads nor writes and is not open, closing it again does nothing, and none of this is noticed
by what comes after. -/
theorem run_lifecycle {σ : Type} [Transport ρ σ] (operations : List (Operation ρ)) (s : σ) :
    (∀ e ∈ (run operations none s).1, ∀ c, e.channel = some c →
      (c.connection.isSome ↔ ∃ b, c.buffer = some b ∧ b.capacity = 260)
      ∧ (c.connection = none → c.buffer = none))
    ∧ (∀ before e after r, (run operations none s).1 = before ++ e :: after →
      e.accepted = some r → (∀ other ∈ before ++ after, other.accepted ≠ some r) →
      (∀ e' ∈ before ++ [e], ∀ call ∈ e'.calls, call.connection ≠ r) ∧ UsedThenClosed r after)
    ∧ (∀ entries c s', run operations none s = (entries, some (c, s')) →
      ∀ r operation, Transport.isOpen r s' = true → Offers operation (some r) c →
      ∀ later, ∃ e rest final,
        run (operations ++ operation :: later) none s = (entries ++ e :: rest, final)
        ∧ e.operation = operation ∧ e.accepted = some r ∧ e.calls = letGo (bound c)
        ∧ ∃ made, e.channel = some made ∧ made.BoundTo r)
    ∧ (∀ entries c s', run operations none s = (entries, some (c, s')) →
      ∀ r operation, Unusable r s' → Offers operation r c →
      ∃ status, status.outcome = .configurationError ∧ ∀ later, ∃ rest final,
        run (operations ++ later) none s = (entries ++ rest, final)
        ∧ run (operations ++ operation :: later) none s
          = (entries ++ ⟨operation, .status (.error status), [], c⟩ :: rest, final))
    ∧ (∀ entries c s', run operations none s = (entries, some (c, s')) →
      ∀ r, bound c ≠ some r → ∀ later : List (Operation ρ),
      (∀ operation ∈ later, operation.offered ≠ some r) →
      ∀ answer, (∀ r', r' ≠ r → ∀ s : σ, answer r' s = Transport.isOpen r' s) →
      @run ρ σ (answering answer) later c s' = run later c s')
    ∧ (∀ entries c s', run operations none s = (entries, some (some c, s')) →
      c.connection = none → ∀ action reply, unboundReply? action = some reply →
      ∀ later, ∃ rest final,
        run (operations ++ later) none s = (entries ++ rest, final)
        ∧ run (operations ++ .act action :: later) none s
          = (entries ++ ⟨.act action, reply, [], some c⟩ :: rest, final)) := by
  have hnone : ∀ made : Channel ρ, none = some made → Paired made := nofun
  obtain ⟨hchained, hpaired, hfinal⟩ := chained_run operations hnone s
  refine ⟨?_, ?_, ?_, ?_, ?_, ?_⟩
  · intro e he c hc
    rcases hpaired e he c hc with ⟨r, hr, b, hb, hcapacity⟩ | ⟨hr, hb⟩
    · rw [hr, hb]
      exact ⟨⟨fun _ => ⟨b, rfl, hcapacity⟩, fun _ => rfl⟩, nofun⟩
    · rw [hr, hb]
      exact ⟨⟨nofun, fun ⟨_, hsome, _⟩ => nomatch hsome⟩, fun _ => rfl⟩
  · intro before e after r hentries haccepted hother
    rw [hentries] at hchained
    exact usedThenClosed_of_accepted hchained haccepted hother
  · intro entries c s' hrun r operation hr hoffers
    exact run_of_open hrun hr hoffers
  · intro entries c s' hrun r operation hr hoffers
    obtain ⟨status, hstatus, hperform⟩ := perform_of_unusable hoffers hr
    exact ⟨status, hstatus, run_of_unchanged hrun hperform⟩
  · intro entries c s' hrun r hbound later hlater answer hsame
    apply run_answering hsame hlater _ hbound
    rintro made rfl
    exact hfinal made s' (congrArg Prod.snd hrun)
  · intro entries c s' hrun hc action reply hreply
    exact run_of_unchanged hrun (perform_of_unbound hreply hc)

/-- A channel is bound, refuses to be bound to nothing, writes a request, and is bound to another
connection, which closes the first although its input does not close well. The first is not asked
for any more, and the second is closed once by two closings. -/
theorem run_lifecycle_rebound :
    let script : Script := { closes := [{ status := .error, error := .ioError }] }
    let s : Session.Store := { entries := #[{ link := .script script }, { link := .script {} }] }
    let first : List (Operation Session.Id) :=
      [.act (.bind none), .act (.write (.readRegistersRequest 3 0x6B 3)), .act (.bind (some 1))]
    let second : List (Operation Session.Id) := [.act .close, .act .close, .destroy]
    let operations := .establish .standard 0 (some 0) :: (first ++ second)
    ∃ e after, (run operations none s).1 = e :: after ∧ e.accepted = some 0
      ∧ (∀ other ∈ after, other.accepted ≠ some 0) ∧ UsedThenClosed 0 after
      ∧ (after.flatMap (·.calls)).filter (!·.isTransfer) = closing 0 ++ closing 1
      ∧ ∃ entries c s', run (.establish .standard 0 (some 0) :: first) none s
          = (entries, some (some c, s')) ∧ c.BoundTo 1
        ∧ ∀ answer, (∀ r, r ≠ 0 → ∀ st : Session.Store, answer r st = Transport.isOpen r st) →
          @run _ _ (answering answer) second (some c) s' = run second (some c) s' := by
  intro script s first second operations
  obtain ⟨-, hused, -⟩ := run_lifecycle operations s
  obtain ⟨-, -, -, -, hunasked, -⟩ :=
    run_lifecycle (.establish .standard 0 (some 0) :: first) s
  have haccepted : (run operations none s).1.tail.map Entry.accepted
      = [none, none, some 1, none, none, none] := rfl
  have hother : ∀ other ∈ (run operations none s).1.tail, other.accepted ≠ some 0 := by
    intro other hmem hsome
    have hmem' : some 0 ∈ (run operations none s).1.tail.map Entry.accepted :=
      List.mem_map.mpr ⟨other, hmem, hsome⟩
    rw [haccepted] at hmem'
    exact absurd hmem' (by decide)
  refine ⟨_, (run operations none s).1.tail, rfl, rfl, hother,
    (hused [] _ _ 0 rfl rfl hother).2, rfl, _, _, _, rfl, boundTo_attach _ 1, ?_⟩
  exact hunasked _ _ _ rfl 0 (by decide) second (by simp [second, Operation.offered])

end ModbusTcp.Lifecycle
