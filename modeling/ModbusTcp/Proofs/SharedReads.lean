import ModbusTcp.Channel.Callers

/-!
Reads of a channel that several callers use.

Two samples decide about a read, and they are taken apart: the clock when it begins, the connection
and the timeout when it gets the buffer. Whatever the other callers do in between, a read that waits
keeps the first sample, and whatever they do behind, a read that has the buffer keeps both
(`leaves_of_perform`, for one step; then by induction for a run). So what a read has follows from
the moment at which it began and from what was set until it got the buffer (`Held.holder`).

Where nobody comes in between, the steps are the operations of `Channel` (`run_read`, `run_closing`,
`run_bind`).
-/

set_option autoImplicit false

namespace ModbusTcp.Callers

open Channel (Admission)

variable {ρ σ : Type}

/-- The timeout that a step sets. -/
def Step.sets (step : Step ρ σ) : Option Int64 :=
  match step with
  | .setReceiveTimeout milliseconds => some milliseconds
  | _ => none

/-- The timeout that steps set last. -/
def setBy (steps : List (Step ρ σ)) : Option Int64 := (steps.filterMap Step.sets).getLast?

theorem getD_setBy_cons (step : Step ρ σ) (steps : List (Step ρ σ)) (timeout : Int64) :
    (setBy (step :: steps)).getD timeout = (setBy steps).getD (step.sets.getD timeout) := by
  rw [setBy, setBy, List.filterMap_cons]
  cases step.sets with
  | none => rfl
  | some set =>
    simp only [List.getLast?_cons, Option.getD_some]

variable {S S' : Shared ρ σ} {step : Step ρ σ} {steps : List (Step ρ σ)}

/-! ## What one step leaves -/

/-- What a step leaves of the timeout and of the reads that are under way. -/
structure Leaves (step : Step ρ σ) (S S' : Shared ρ σ) : Prop where
  /-- The timeout is as the step sets it or as it was, also while a read has the buffer. -/
  timeout : S'.channel.receiveTimeout = step.sets.getD S.channel.receiveTimeout
  /-- A read that waits goes on waiting, with the start that it has, until it gets the buffer. -/
  waits : ∀ caller begun, step ≠ .enter caller → S.waits? caller = some begun →
    S'.waits? caller = some begun
  /-- A read that has the buffer keeps it, and what it found with it, until it is at its end. -/
  holder : ∀ holder, step ≠ .finish → S.holder = some holder → S'.holder = some holder

/-- A step that no read takes part in. -/
theorem Leaves.of_same {channel : Channel ρ} {state : σ}
    (htimeout : channel.receiveTimeout = step.sets.getD S.channel.receiveTimeout) :
    Leaves step S { S with channel, state } where
  timeout := htimeout
  waits _ _ _ hwaits := hwaits
  holder _ _ hholder := hholder

/-- The read for which a caller waits is the first that it began. -/
theorem waits?_append (S : Shared ρ σ) (begun : Begun) (caller : Nat) :
    ({ S with waiting := S.waiting ++ [begun] } : Shared ρ σ).waits? caller
      = (S.waits? caller).or (if begun.caller = caller then some begun else none) := by
  rw [Shared.waits?, List.find?_append, List.find?_singleton, Shared.waits?]
  simp only [decide_eq_true_eq]

theorem waits?_of_idle {caller : Nat} (h : S.isReading caller = false) :
    S.waits? caller = none := by
  rw [Shared.isReading, Bool.or_eq_false_iff] at h
  exact Option.isNone_iff_eq_none.mp (Option.isSome_eq_false_iff.mp h.1)

/-- A read that was the only one of its caller leaves the others behind it. -/
theorem filter_append_begun (S : Shared ρ σ) (begun : Begun)
    (h : S.waits? begun.caller = none) :
    (S.waiting ++ [begun]).filter (·.caller ≠ begun.caller) = S.waiting := by
  have hothers : S.waiting.filter (·.caller ≠ begun.caller) = S.waiting := by
    rw [List.filter_eq_self]
    intro other hother
    have hne := List.find?_eq_none.mp h other hother
    simpa using hne
  rw [List.filter_append, hothers]
  simp

/-- That another caller waits no more does not matter. -/
theorem waits?_filter {caller other : Nat} (h : other ≠ caller) (holder : Option (Holder ρ)) :
    ({ S with waiting := S.waiting.filter (·.caller ≠ other), holder } : Shared ρ σ).waits? caller
      = S.waits? caller := by
  rw [Shared.waits?, List.find?_filter, Shared.waits?]
  apply congrArg (List.find? · S.waiting)
  funext begun
  by_cases hcaller : begun.caller = caller
  · simp [hcaller, h.symm]
  · simp [hcaller]

variable [Transport ρ σ] {clock : σ → Instant}

/-- **What one step leaves,** whoever makes it. -/
theorem leaves_of_perform (h : perform clock step S = some S') : Leaves step S S' := by
  cases step with
  | begin caller role =>
    simp only [perform] at h
    split at h
    · cases h
    · cases h
      refine ⟨rfl, ?_, fun _ _ hholder => hholder⟩
      intro other begun _ hwaits
      rw [waits?_append, hwaits]
      rfl
  | enter caller =>
    simp only [perform] at h
    split at h
    · rename_i hfree _
      cases h
      refine ⟨rfl, ?_, ?_⟩
      · intro other begun hstep hwaits
        rw [waits?_filter fun heq => hstep (congrArg Step.enter heq)]
        exact hwaits
      · intro holder _ hholder
        rw [hfree] at hholder
        cases hholder
    · cases h
  | finish =>
    -- The buffer is given back; whoever waits for it is still waiting.
    have hleaves : S'.channel.receiveTimeout = S.channel.receiveTimeout
        ∧ S'.waiting = S.waiting := by
      simp only [perform] at h
      split at h
      · cases h
      · cases h
        exact ⟨rfl, rfl⟩
      · split at h
        · cases h
        · cases h
          exact ⟨rfl, rfl⟩
    refine ⟨hleaves.1, ?_, fun _ hstep => absurd rfl hstep⟩
    intro caller begun _ hwaits
    rw [Shared.waits?, hleaves.2]
    exact hwaits
  | setReceiveTimeout milliseconds =>
    cases h
    exact .of_same rfl
  | release =>
    cases h
    exact .of_same rfl
  | settle =>
    simp only [perform] at h
    split at h
    · cases h
    · cases h
      refine .of_same ?_
      unfold Channel.settle
      split <;> rfl
  | attach r =>
    simp only [perform] at h
    split at h
    · cases h
    · cases h
      exact .of_same rfl
  | others change =>
    cases h
    exact .of_same rfl

/-! ## What a run leaves -/

theorem run_cons : run clock (step :: steps) S = (perform clock step S).bind (run clock steps) :=
  rfl

theorem run_cons_eq_some_iff : run clock (step :: steps) S = some S'
    ↔ ∃ S₁, perform clock step S = some S₁ ∧ run clock steps S₁ = some S' :=
  Option.bind_eq_some_iff

theorem run_append (before after : List (Step ρ σ)) (S : Shared ρ σ) :
    run clock (before ++ after) S = (run clock before S).bind (run clock after) := by
  induction before generalizing S with
  | nil => rfl
  | cons step before ih =>
    rw [List.cons_append, run_cons, run_cons, Option.bind_assoc]
    exact congrArg _ (funext ih)

/-- The timeout behind a run is the one that was set last. -/
theorem receiveTimeout_of_run (h : run clock steps S = some S') :
    S'.channel.receiveTimeout = (setBy steps).getD S.channel.receiveTimeout := by
  induction steps generalizing S with
  | nil =>
    cases h
    rfl
  | cons step steps ih =>
    obtain ⟨S₁, hfirst, hrest⟩ := run_cons_eq_some_iff.mp h
    rw [ih hrest, (leaves_of_perform hfirst).timeout, getD_setBy_cons]

/-- A read waits as long as it does not get the buffer. -/
theorem waits_of_run {caller : Nat} {begun : Begun} (h : run clock steps S = some S')
    (hwaits : S.waits? caller = some begun) (hsteps : Step.enter caller ∉ steps) :
    S'.waits? caller = some begun := by
  induction steps generalizing S with
  | nil =>
    cases h
    exact hwaits
  | cons step steps ih =>
    obtain ⟨S₁, hfirst, hrest⟩ := run_cons_eq_some_iff.mp h
    have hother := (List.ne_of_not_mem_cons hsteps).symm
    exact ih hrest ((leaves_of_perform hfirst).waits _ _ hother hwaits)
      (List.not_mem_of_not_mem_cons hsteps)

/-- A read has the buffer as long as it does not finish. -/
theorem holder_of_run {holder : Holder ρ} (h : run clock steps S = some S')
    (hholder : S.holder = some holder) (hsteps : Step.finish ∉ steps) :
    S'.holder = some holder := by
  induction steps generalizing S with
  | nil =>
    cases h
    exact hholder
  | cons step steps ih =>
    obtain ⟨S₁, hfirst, hrest⟩ := run_cons_eq_some_iff.mp h
    have hother := (List.ne_of_not_mem_cons hsteps).symm
    exact ih hrest ((leaves_of_perform hfirst).holder _ hother hholder)
      (List.not_mem_of_not_mem_cons hsteps)

/-- The steps from the beginning of a read up to some point at which it has the buffer. It waits for
the buffer during `between`; others go on during `behind`. -/
structure Held (clock : σ → Instant) (caller : Nat) (role : Role)
    (between behind : List (Step ρ σ)) (S S' : Shared ρ σ) : Prop where
  run : run clock (.begin caller role :: (between ++ .enter caller :: behind)) S = some S'
  waits : Step.enter caller ∉ between
  unfinished : Step.finish ∉ behind

/-- **What a read has.** Its start is what the clock showed when it began; its deadline, if a
connection was bound when it got the buffer, counts from there, with the timeout that was set last
before it got the buffer. -/
theorem Held.holder {caller : Nat} {role : Role} {between behind : List (Step ρ σ)}
    (h : Held clock caller role between behind S S') :
    ∃ admission, S'.holder = some ⟨⟨caller, role, clock S.state⟩, admission⟩
      ∧ ∀ a, admission = some a → a.deadline
        = .starting ((setBy between).getD S.channel.receiveTimeout) (clock S.state) := by
  obtain ⟨S₁, hbegin, hrest⟩ := run_cons_eq_some_iff.mp h.run
  rw [run_append, Option.bind_eq_some_iff] at hrest
  obtain ⟨S₂, hbetween, hrest⟩ := hrest
  obtain ⟨S₃, henter, hbehind⟩ := run_cons_eq_some_iff.mp hrest
  have hfirst : S₁.waits? caller = some ⟨caller, role, clock S.state⟩
      ∧ S₁.channel = S.channel := by
    simp only [perform] at hbegin
    split at hbegin
    · cases hbegin
    · rename_i hidle
      cases hbegin
      rw [waits?_append, waits?_of_idle (Bool.not_eq_true _ ▸ hidle)]
      exact ⟨if_pos rfl, rfl⟩
  -- While it waits it keeps its start; the timeout is looked at when it has waited.
  have hwaits := waits_of_run hbetween hfirst.1 h.waits
  have htimeout := receiveTimeout_of_run hbetween
  rw [hfirst.2] at htimeout
  simp only [perform, hwaits] at henter
  split at henter
  · rename_i heq
    cases heq
    cases henter
    refine ⟨_, holder_of_run hbehind rfl h.unfinished, ?_⟩
    intro a ha
    unfold Channel.admission at ha
    split at ha
    · cases ha
      rw [htimeout]
    · cases ha
  · cases henter

/-! ## A caller that nobody disturbs -/

/-- Nobody comes in between, so a read is one of a caller who is alone. -/
theorem run_read {caller : Nat} (hidle : S.isReading caller = false) (hfree : S.holder = none)
    (role : Role) :
    run clock [.begin caller role, .enter caller, .finish] S
      = (S.channel.read role (clock S.state) S.state).map fun (outcome, channel, state) =>
        { S with
          channel, state, ended := S.ended ++ [⟨⟨caller, role, clock S.state⟩, outcome⟩] } := by
  obtain ⟨channel, state, waiting, holder, ended⟩ := S
  obtain rfl : holder = none := hfree
  have hwaits := waits?_of_idle hidle
  -- Its caller waits for this read alone, so it is the one that gets the buffer.
  have hbegin : perform clock (.begin caller role) ⟨channel, state, waiting, none, ended⟩
      = some ⟨channel, state, waiting ++ [⟨caller, role, clock state⟩], none, ended⟩ := by
    rw [perform, hidle]
    rfl
  have henter : perform clock (.enter caller)
      ⟨channel, state, waiting ++ [⟨caller, role, clock state⟩], none, ended⟩
      = some ⟨channel, state, waiting,
          some ⟨⟨caller, role, clock state⟩, channel.admission (clock state)⟩, ended⟩ := by
    have hfound := waits?_append ⟨channel, state, waiting, none, ended⟩
      ⟨caller, role, clock state⟩ caller
    rw [hwaits, if_pos rfl] at hfound
    have hleft := filter_append_begun ⟨channel, state, waiting, none, ended⟩
      ⟨caller, role, clock state⟩ hwaits
    rw [perform, hfound]
    simp only [Option.none_or, hleft]
  rw [run_cons, hbegin, Option.bind_some, run_cons, henter, Option.bind_some, run_cons, perform,
    Channel.read]
  cases channel.admission (clock state) with
  | none => rfl
  | some a =>
    simp only
    cases a.receive channel.table role state <;> rfl

/-- The steps that close a channel. -/
def closing (c : Channel ρ) : List (Step ρ σ) :=
  c.connection.elim [] fun r => [.release, .others (Channel.shutDown r), .settle]

theorem run_closing (hfree : S.holder = none) :
    run clock (closing S.channel) S
      = some { S with
          channel := (S.channel.close S.state).1, state := (S.channel.close S.state).2 } := by
  unfold closing Channel.close
  cases S.channel.connection with
  | none => rfl
  | some r => simp only [Option.elim_some, run_cons, perform, hfree, Option.bind_some]; rfl

/-- The steps that bind a connection come behind those that close the channel. -/
theorem run_bind {r : Option ρ} {r' : ρ} (husable : Channel.usable r S.state = .ok r')
    (hfree : S.holder = none) :
    run clock (closing S.channel ++ [.attach r']) S
      = some { S with
          channel := (S.channel.bind r S.state).2.1, state := (S.channel.bind r S.state).2.2 } := by
  rw [run_append, run_closing hfree, Channel.bind, husable]
  simp only [Option.bind_some, run_cons, perform, hfree]
  rfl

end ModbusTcp.Callers
