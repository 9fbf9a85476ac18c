import ModbusTcp.Proofs.Recording

/-!
Histories of a connection.

What a connection does is said over everything that has happened to it so far: the calls that were
made on it, and what came from outside, such as bytes from the peer. `History.entries` lets one step
happen after the other and writes down of each the state before it, the reply and the state behind
it. A property of the past and the present state that every step keeps holds at every entry
(`keeps_at`) and behind the last one (`keeps_behind`); and a history is complete unless a read waits
for ever (`complete_or_waits`).
-/

set_option autoImplicit false

namespace ModbusTcp

/-- Makes a call. A call that is no read gives its result without bytes. No reply if a read waits
for ever. -/
def Call.perform {ρ σ : Type} [Transport ρ σ] (call : Call ρ) (s : σ) : Option (Delivery × σ) :=
  let reported (outcome : IoResult × σ) := some (Delivery.ofResult outcome.1, outcome.2)
  match call with
  | .readSome r room deadline => Transport.readSome r room deadline s
  | .write r data => reported (Transport.write r data s)
  | .flush r => reported (Transport.flush r s)
  | .closeInput r => reported (Transport.closeInput r s)
  | .closeOutput r => reported (Transport.closeOutput r s)
  | .close r => reported (Transport.close r s)

namespace History

/-- Something that happens: a call, or an event from outside. -/
inductive Step (ρ ε : Type) where
  | call (c : Call ρ)
  | outside (event : ε)

/-- What is written down of a step. -/
structure Entry (ρ ε σ : Type) where
  step : Step ρ ε
  before : σ
  reply : Delivery
  after : σ

variable {ρ ε σ : Type} [Transport ρ σ]

/-- Lets a step happen. What comes from outside changes the state as `affect` says and gets an empty
reply. -/
def Step.perform (affect : ε → σ → σ) (step : Step ρ ε) (s : σ) : Option (Delivery × σ) :=
  match step with
  | .call c => c.perform s
  | .outside event => some (.ofResult {}, affect event s)

/-- Whether an entry tells what its step did. -/
def Entry.Happens (affect : ε → σ → σ) (e : Entry ρ ε σ) : Prop :=
  e.step.perform affect e.before = some (e.reply, e.after)

/-- What is written down of some steps, as far as they come to an end. -/
def entries (affect : ε → σ → σ) : List (Step ρ ε) → σ → List (Entry ρ ε σ)
  | [], _ => []
  | step :: steps, s =>
    match step.perform affect s with
    | none => []
    | some (reply, s') => ⟨step, s, reply, s'⟩ :: entries affect steps s'

/-- The state behind the last entry. -/
def behind : List (Entry ρ ε σ) → σ → σ
  | [], s => s
  | e :: rest, _ => behind rest e.after

variable {affect : ε → σ → σ}

/-- A step that does not happen is a read that waits for ever. -/
theorem Step.eq_read_of_none {step : Step ρ ε} {s : σ} (h : step.perform affect s = none) :
    ∃ r room deadline, step = .call (.readSome r room deadline)
      ∧ Transport.readSome r room deadline s = none := by
  cases step with
  | outside event => exact nomatch h
  | call c =>
    cases c with
    | readSome r room deadline => exact ⟨r, room, deadline, rfl, h⟩
    | _ => exact nomatch h

/-- **A history is complete, unless a read waits for ever.** Then it ends before that read. -/
theorem complete_or_waits (steps : List (Step ρ ε)) (s : σ) :
    (entries affect steps s).map Entry.step = steps
      ∨ ∃ front r room deadline back, steps = front ++ .call (.readSome r room deadline) :: back
        ∧ (entries affect steps s).map Entry.step = front
        ∧ Transport.readSome r room deadline (behind (entries affect steps s) s) = none := by
  induction steps generalizing s with
  | nil => exact .inl rfl
  | cons step steps ih =>
    rw [entries]
    rcases hstep : step.perform affect s with _ | ⟨reply, s'⟩
    · obtain ⟨r, room, deadline, rfl, hread⟩ := Step.eq_read_of_none hstep
      exact .inr ⟨[], r, room, deadline, steps, rfl, rfl, hread⟩
    · simp only [List.map_cons, behind]
      rcases ih s' with hall | ⟨front, r, room, deadline, back, hsteps, hfront, hread⟩
      · exact .inl (by rw [hall])
      · refine .inr ⟨step :: front, r, room, deadline, back, ?_, ?_, hread⟩
        · rw [hsteps, List.cons_append]
        · rw [hfront]

/-- Without reads nothing waits. -/
theorem complete_of_no_read {steps : List (Step ρ ε)}
    (h : ∀ r room deadline, .call (.readSome r room deadline) ∉ steps) (s : σ) :
    (entries affect steps s).map Entry.step = steps := by
  rcases @complete_or_waits ρ ε σ _ affect steps s with hall | hwaits
  · exact hall
  · obtain ⟨front, r, room, deadline, back, hsteps, -, -⟩ := hwaits
    refine absurd ?_ (h r room deadline)
    rw [hsteps]
    exact List.mem_append_right _ List.mem_cons_self

variable {I : List (Entry ρ ε σ) → σ → Prop}

/-- What every step keeps, said of the past and the present, holds before and behind every entry. -/
theorem keeps_at (hI : ∀ past e, I past e.before → e.Happens affect → I (past ++ [e]) e.after)
    {past front back : List (Entry ρ ε σ)} {e : Entry ρ ε σ} {steps : List (Step ρ ε)} {s : σ}
    (hs : I past s) (h : entries affect steps s = front ++ e :: back) :
    e.Happens affect ∧ I (past ++ front) e.before ∧ I (past ++ (front ++ [e])) e.after := by
  induction steps generalizing past front s with
  | nil => simp [entries] at h
  | cons step steps ih =>
    rw [entries] at h
    rcases hstep : step.perform affect s with _ | ⟨reply, s'⟩
    · simp [hstep] at h
    · simp only [hstep] at h
      have hfirst := hI past ⟨step, s, reply, s'⟩ hs hstep
      -- The entry asked for is the first one, or the first one joins the past.
      cases front with
      | nil =>
        obtain ⟨rfl, -⟩ := List.cons.inj h
        rw [List.append_nil, List.nil_append]
        exact ⟨hstep, hs, hfirst⟩
      | cons first front =>
        obtain ⟨rfl, hrest⟩ := List.cons.inj h
        have hlater := ih hfirst hrest
        simp only [List.append_assoc, List.singleton_append] at hlater
        exact hlater

/-- The same behind the last entry. -/
theorem keeps_behind (hI : ∀ past e, I past e.before → e.Happens affect → I (past ++ [e]) e.after)
    {past : List (Entry ρ ε σ)} {s : σ} (hs : I past s) (steps : List (Step ρ ε)) :
    I (past ++ entries affect steps s) (behind (entries affect steps s) s) := by
  induction steps generalizing past s with
  | nil =>
    rw [entries, List.append_nil]
    exact hs
  | cons step steps ih =>
    rw [entries]
    rcases hstep : step.perform affect s with _ | ⟨reply, s'⟩
    · simp only [behind, List.append_nil]
      exact hs
    · have hlater := ih (hI past ⟨step, s, reply, s'⟩ hs hstep)
      simp only [List.append_assoc, List.singleton_append] at hlater
      exact hlater

end History

end ModbusTcp
