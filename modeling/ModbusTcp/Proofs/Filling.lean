import ModbusTcp.Proofs.Calls

/-!
Filling a region takes what a connection gives, in order and to the byte.

`Transport.fill` reads in a loop until a region is full (`ReadFully`). What it comes to is said of
the reads that it makes, each with what it asked for and what came (`Exchange`). Every read asks for
exactly the bytes that are missing, all of them under one deadline; only the last one may bring
nothing, and none is made behind it or behind the last missing byte (`Filling`). The region then
begins with the bytes that came and is otherwise as it was. The main statement is
`fill_takes_missing`, for any connection that keeps its contract (`Transport.KeepsContract`): a
success reports the bytes that it stores, and stores no more than it was asked for. How many bytes a
failure reports does not matter.

The reads that are listed are all that were made: over a recorded connection they are the calls that
are written down.
-/

set_option autoImplicit false

namespace ModbusTcp

/-! ## Reads and what they bring -/

/-- A read: how much it asked for and until when, and what came of it. -/
structure Exchange where
  room : Nat
  deadline : Deadline
  reply : Delivery
  deriving DecidableEq, Repr

namespace Exchange

/-- The bytes that a read brought: those of a success. -/
def brought (x : Exchange) : List UInt8 :=
  if x.reply.result.status = .ok then x.reply.data else []

/-- Whether more may come behind a read: it succeeded, and not without bytes. -/
def GoesOn (x : Exchange) : Prop := x.reply.result.status = .ok ∧ x.reply.result.bytes ≠ 0

instance (x : Exchange) : Decidable x.GoesOn :=
  inferInstanceAs (Decidable (x.reply.result.status = .ok ∧ x.reply.result.bytes ≠ 0))

/-- What a filling reports that this read stopped behind `filled` bytes: the failure of the read, or
an error of input and output for a success without bytes. -/
def ending (x : Exchange) (filled : Nat) : IoResult :=
  if x.reply.result.status = .ok then { status := .error, bytes := filled, error := .ioError }
  else { x.reply.result with bytes := filled }

/-- The read as a call on a connection. -/
def call {ρ : Type} (r : ρ) (x : Exchange) : Call ρ := .readSome r x.room x.deadline

end Exchange

/-- The bytes that some reads brought, in order. -/
def broughtBy (reads : List Exchange) : List UInt8 := reads.flatMap Exchange.brought

@[simp] theorem broughtBy_nil : broughtBy [] = [] := rfl

@[simp] theorem broughtBy_cons (x : Exchange) (reads : List Exchange) :
    broughtBy (x :: reads) = x.brought ++ broughtBy reads := List.flatMap_cons

namespace Exchange

variable {x : Exchange}

theorem brought_of_goesOn (h : x.GoesOn) : x.brought = x.reply.data := if_pos h.1

/-- An ending is never a success. -/
theorem isOk_ending (x : Exchange) (filled : Nat) : (x.ending filled).isOk = false := by
  unfold ending
  by_cases hok : x.reply.result.status = .ok
  · rw [if_pos hok]
    rfl
  · rw [if_neg hok]
    exact decide_eq_false hok

end Exchange

namespace Transport

variable {ρ σ : Type} [Transport ρ σ] {r : ρ} {s s' s'' : σ}

/-- Some reads of a connection, one after the other, with what came of each. -/
inductive Exchanges (r : ρ) : σ → List Exchange → σ → Prop where
  | none (s : σ) : Exchanges r s [] s
  | one {x : Exchange} {reads : List Exchange} {s s' s'' : σ} :
    readSome r x.room x.deadline s = some (x.reply, s') → Exchanges r s' reads s'' →
    Exchanges r s (x :: reads) s''

/-- Whether a connection keeps the contract of a reader, now and after any number of reads: a
success reports as many bytes as it stores, and these have room. -/
def KeepsContract (r : ρ) (s : σ) : Prop :=
  ∀ s', Reads r s s' → ∀ room deadline d s'', readSome r room deadline s' = some (d, s'') →
    d.result.status = .ok → d.result.bytes = d.data.length ∧ d.data.length ≤ room

theorem KeepsContract.behind (h : KeepsContract r s) {room : Nat} {deadline : Deadline}
    {d : Delivery} (hread : readSome r room deadline s = some (d, s')) : KeepsContract r s' :=
  fun s'' hreads => h s'' (.one hread hreads)

theorem KeepsContract.brought_of_stop (h : KeepsContract r s) {x : Exchange}
    (hread : readSome r x.room x.deadline s = some (x.reply, s')) (hstop : ¬ x.GoesOn) :
    x.brought = [] := by
  unfold Exchange.brought
  by_cases hok : x.reply.result.status = .ok
  · have hnone : x.reply.result.bytes = 0 := not_not.mp fun hbytes => hstop ⟨hok, hbytes⟩
    obtain ⟨hbytes, -⟩ := h s (.none s) _ _ _ _ hread hok
    rw [if_pos hok]
    exact List.length_eq_zero_iff.mp (hbytes.symm.trans hnone)
  · exact if_neg hok

/-! ## What a filling reads -/

/-- Whether each of the reads asks for all bytes that are missing of `size`, of which `filled` were
there before the first read, and for some. -/
def AskForMissing (deadline : Deadline) (size filled : Nat) (reads : List Exchange) : Prop :=
  ∀ front x back, reads = front ++ x :: back →
    x.deadline = deadline ∧ filled + (broughtBy front).length + x.room = size ∧ 0 < x.room

/-- The reads of a filling that came to an end, and its result. -/
structure Filling (deadline : Deadline) (size filled : Nat) (reads : List Exchange)
    (result : IoResult) : Prop where
  asked : AskForMissing deadline size filled reads
  /-- Only the last read may bring nothing. -/
  goesOn : ∀ front x back, reads = front ++ x :: back → back ≠ [] → x.GoesOn
  within : filled + (broughtBy reads).length ≤ size
  full : filled + (broughtBy reads).length = size → result = .transferred size
  stopped : filled + (broughtBy reads).length < size →
    ∃ front x, reads = front ++ [x] ∧ ¬ x.GoesOn
      ∧ result = x.ending (filled + (broughtBy reads).length)

/-- The reads of a filling whose next read, in the state `s`, waits for ever. -/
structure Waiting (r : ρ) (deadline : Deadline) (size filled : Nat) (reads : List Exchange)
    (s : σ) : Prop where
  asked : AskForMissing deadline size filled reads
  goesOn : ∀ x ∈ reads, x.GoesOn
  missing : filled + (broughtBy reads).length < size
  waits : readSome r (size - (filled + (broughtBy reads).length)) deadline s = none

section Steps

variable {deadline : Deadline} {size filled : Nat} {x : Exchange} {reads : List Exchange}
  {result : IoResult}

/-- One more read before the others. -/
theorem AskForMissing.cons (hdeadline : x.deadline = deadline) (hroom : filled + x.room = size)
    (hsome : 0 < x.room)
    (h : AskForMissing deadline size (filled + x.brought.length) reads) :
    AskForMissing deadline size filled (x :: reads) := by
  intro front y back hsplit
  cases front with
  | nil =>
    obtain ⟨rfl, -⟩ := List.cons.inj hsplit
    exact ⟨hdeadline, hroom, hsome⟩
  | cons first front =>
    obtain ⟨rfl, hrest⟩ := List.cons.inj hsplit
    obtain ⟨hlater, hmissing, hpositive⟩ := h front y back hrest
    refine ⟨hlater, ?_, hpositive⟩
    rw [broughtBy_cons, List.length_append, ← Nat.add_assoc]
    exact hmissing

theorem Filling.cons (hdeadline : x.deadline = deadline) (hroom : filled + x.room = size)
    (hsome : 0 < x.room) (hx : x.GoesOn)
    (h : Filling deadline size (filled + x.brought.length) reads result) :
    Filling deadline size filled (x :: reads) result := by
  have hbrought : filled + (broughtBy (x :: reads)).length
      = filled + x.brought.length + (broughtBy reads).length := by
    rw [broughtBy_cons, List.length_append, Nat.add_assoc]
  constructor
  · exact h.asked.cons hdeadline hroom hsome
  · intro front y back hsplit hback
    cases front with
    | nil =>
      obtain ⟨rfl, -⟩ := List.cons.inj hsplit
      exact hx
    | cons first front => exact h.goesOn front y back (List.cons.inj hsplit).2 hback
  · rw [hbrought]
    exact h.within
  · rw [hbrought]
    exact h.full
  · rw [hbrought]
    intro hmissing
    obtain ⟨front, y, hreads, hstop, hresult⟩ := h.stopped hmissing
    exact ⟨x :: front, y, by rw [hreads, List.cons_append], hstop, hresult⟩

theorem Waiting.cons {s : σ} (hdeadline : x.deadline = deadline) (hroom : filled + x.room = size)
    (hsome : 0 < x.room) (hx : x.GoesOn)
    (h : Waiting r deadline size (filled + x.brought.length) reads s) :
    Waiting r deadline size filled (x :: reads) s := by
  have hbrought : filled + (broughtBy (x :: reads)).length
      = filled + x.brought.length + (broughtBy reads).length := by
    rw [broughtBy_cons, List.length_append, Nat.add_assoc]
  constructor
  · exact h.asked.cons hdeadline hroom hsome
  · exact List.forall_mem_cons.mpr ⟨hx, h.goesOn⟩
  · rw [hbrought]
    exact h.missing
  · rw [hbrought]
    exact h.waits

/-- Nothing is missing, and nothing is read. -/
theorem filling_full (deadline : Deadline) (size : Nat) :
    Filling deadline size size [] (.transferred size) := by
  constructor
  · intro front x back hsplit
    simp at hsplit
  · intro front x back hsplit
    simp at hsplit
  · exact Nat.le_refl size
  · exact fun _ => rfl
  · exact fun hmissing => absurd hmissing (Nat.lt_irrefl size)

/-- The first read stops the filling. -/
theorem filling_stopped (hdeadline : x.deadline = deadline) (hroom : filled + x.room = size)
    (hsome : 0 < x.room) (hbrought : x.brought = []) (hstop : ¬ x.GoesOn) :
    Filling deadline size filled [x] (x.ending filled) := by
  have hnone : filled + (broughtBy [x]).length = filled := by
    rw [broughtBy_cons, hbrought]
    rfl
  constructor
  · apply AskForMissing.cons hdeadline hroom hsome
    intro front y back hsplit
    simp at hsplit
  · intro front y back hsplit hback
    cases front with
    | nil => exact absurd (List.cons.inj hsplit).2.symm hback
    | cons first front =>
      have hrest := (List.cons.inj hsplit).2
      simp at hrest
  · rw [hnone]
    omega
  · rw [hnone]
    intro hfull
    omega
  · rw [hnone]
    exact fun _ => ⟨[], x, rfl, hstop, rfl⟩

end Steps

/-! ## The loop -/

/-- A read that brings nothing ends the filling. -/
theorem fillFrom_of_stop {deadline : Deadline} {filled : Nat} {region : List UInt8} {d : Delivery}
    (hfilled : filled < region.length)
    (hread : readSome r (region.length - filled) deadline s = some (d, s'))
    (hstop : ¬ (⟨region.length - filled, deadline, d⟩ : Exchange).GoesOn) :
    fillFrom r deadline filled region s
      = some ((⟨region.length - filled, deadline, d⟩ : Exchange).ending filled, region, s') := by
  unfold Exchange.ending
  by_cases hok : d.result.status = .ok
  · have hnone : d.result.bytes = 0 := not_not.mp fun hbytes => hstop ⟨hok, hbytes⟩
    rw [fillFrom_of_idle hfilled hread hok hnone, if_pos hok]
  · rw [fillFrom_of_failed hfilled hread hok, if_neg hok]

/-- **The loop, from any place on.** The induction is on the bytes that are missing. The invariant
is that the connection keeps its contract and that the first `filled` bytes of the region stay. -/
theorem fillFrom_takes_missing (hs : KeepsContract r s) {filled : Nat} {region : List UInt8}
    (hfilled : filled ≤ region.length) (deadline : Deadline) :
    (∃ reads result s', fillFrom r deadline filled region s
        = some (result, region.take filled ++ overlay (region.drop filled) (broughtBy reads), s')
      ∧ Exchanges r s reads s' ∧ Filling deadline region.length filled reads result)
    ∨ (fillFrom r deadline filled region s = none
      ∧ ∃ reads s', Exchanges r s reads s' ∧ Waiting r deadline region.length filled reads s') := by
  generalize hmissing : region.length - filled = missing
  induction missing using Nat.strongRecOn generalizing filled region s with
  | ind missing ih =>
    by_cases hfull : filled = region.length
    · subst hfull
      refine .inl ⟨[], .transferred region.length, s, ?_, .none s, filling_full ..⟩
      rw [fillFrom_of_full (Nat.lt_irrefl _), broughtBy_nil, overlay_nil, List.take_append_drop]
    · have hless : filled < region.length := Nat.lt_of_le_of_ne hfilled hfull
      have hroom : filled + (region.length - filled) = region.length := by omega
      have hsome : 0 < region.length - filled := by omega
      rcases hread : readSome r (region.length - filled) deadline s with _ | ⟨d, s₁⟩
      · refine .inr ⟨fillFrom_of_waiting hless hread, [], s, .none s, ?_⟩
        constructor
        · intro front x back hsplit
          simp at hsplit
        · exact List.forall_mem_nil _
        · exact hless
        · exact hread
      · let x : Exchange := ⟨region.length - filled, deadline, d⟩
        have hx : readSome r x.room x.deadline s = some (x.reply, s₁) := hread
        by_cases hgoes : x.GoesOn
        · obtain ⟨hbytes, hwithin⟩ := hs s (.none s) _ _ _ _ hread hgoes.1
          have hdata : d.data ≠ [] := fun h => hgoes.2 (by rw [hbytes, h]; rfl)
          have hpositive : 0 < d.data.length := List.length_pos_iff.mpr hdata
          have hbrought : x.brought = d.data := Exchange.brought_of_goesOn hgoes
          have hstep := fillFrom_of_bytes hless hread hdata hwithin hgoes.1 hbytes
          have hlater := fun later => overlay_overlay hfilled hwithin later
          have hlength : (region.take filled ++ overlay (region.drop filled) d.data).length
              = region.length := by
            rw [List.length_append, length_overlay, ← List.length_append, List.take_append_drop]
          -- The loop goes on with a region of the same size, of which more is filled.
          generalize region.take filled ++ overlay (region.drop filled) d.data = stored
            at hstep hlater hlength
          have hnext : stored.length - (filled + d.data.length) < missing := by omega
          rw [hstep]
          rcases ih _ hnext (hs.behind hread) (by omega) rfl with
            ⟨reads, result, s', hfill, hreads, hfilling⟩ | ⟨hfill, reads, s', hreads, hwaiting⟩
          · rw [hlength, ← hbrought] at hfilling
            refine .inl ⟨x :: reads, result, s', ?_, .one hx hreads,
              hfilling.cons rfl hroom hsome hgoes⟩
            rw [hfill, hlater, broughtBy_cons, hbrought]
          · rw [hlength, ← hbrought] at hwaiting
            exact .inr ⟨hfill, x :: reads, s', .one hx hreads,
              hwaiting.cons rfl hroom hsome hgoes⟩
        · have hbrought := hs.brought_of_stop hx hgoes
          refine .inl ⟨[x], x.ending filled, s₁, ?_, .one hx (.none s₁),
            filling_stopped rfl hroom hsome hbrought hgoes⟩
          rw [fillFrom_of_stop hless hread hgoes, broughtBy_cons, hbrought, broughtBy_nil,
            List.append_nil, overlay_nil, List.take_append_drop]

end Transport

/-! ## Recorded connections and scripts -/

open Transport

namespace Recorded

variable {ρ σ : Type} [Transport ρ σ] {r : ρ} {s s' : Recorded ρ σ}

theorem keepsContract (h : KeepsContract r s.state) : KeepsContract r s := by
  intro s' hreads room deadline d s'' hread
  exact h s'.state (reads_state hreads) room deadline d s''.state (readSome_eq_some hread).1

/-- The reads that were made are the calls that are written down. -/
theorem calls_of_exchanges {reads : List Exchange} (h : Exchanges r s reads s') :
    Exchanges r s.state reads s'.state ∧ s'.calls = s.calls ++ reads.map (Exchange.call r) := by
  induction h with
  | none s => exact ⟨.none s.state, (List.append_nil _).symm⟩
  | one hread _ ih =>
    obtain ⟨hstate, hcalls⟩ := readSome_eq_some hread
    obtain ⟨hreads, hlater⟩ := ih
    refine ⟨.one hstate hreads, ?_⟩
    rw [hlater, hcalls, List.append_assoc]
    rfl

theorem waiting_state {deadline : Deadline} {size filled : Nat} {reads : List Exchange}
    (h : Waiting r deadline size filled reads s) :
    Waiting r deadline size filled reads s.state :=
  ⟨h.asked, h.goesOn, h.missing, Option.map_eq_none_iff.mp h.waits⟩

end Recorded

namespace Script

/-- A read of an honest script is in order, and leaves an honest script. -/
theorem honest_readSome {s : Script} (hs : s.Honest) (room : Nat) :
    (s.readSome room).2.Honest
      ∧ ((s.readSome room).1.result.status = .ok →
        (s.readSome room).1.result.bytes = (s.readSome room).1.data.length
          ∧ (s.readSome room).1.data.length ≤ room) := by
  rcases h : s.reads with _ | ⟨bytes | played, reads⟩
  · have hend : s.readSome room = (.ofResult .ended, s) := by rw [readSome, h]
    rw [hend]
    refine ⟨hs, ?_⟩
    intro hok
    cases hok
  · have hrest := honest_of_reads hs h
    by_cases hall : bytes.length ≤ room
    · rw [readSome_data_of_le h hall]
      exact ⟨hrest, fun _ => ⟨rfl, hall⟩⟩
    · rw [readSome_data_of_lt h hall]
      refine ⟨List.forall_mem_cons.mpr ⟨trivial, hrest⟩, fun _ => ⟨rfl, ?_⟩⟩
      exact List.length_take_le ..
  · have hplayed : (ReadItem.result played).Honest := hs _ (h ▸ List.mem_cons_self)
    have hreport : s.readSome room = (.ofResult played, { s with reads }) := by rw [readSome, h]
    rw [hreport]
    exact ⟨honest_of_reads hs h, fun hok => ⟨hplayed hok, Nat.zero_le room⟩⟩

/-- So an honest script keeps the contract of a reader. -/
theorem keepsContract {s : Script} (hs : s.Honest) : KeepsContract () s := by
  intro s' hreads room deadline d s'' hread
  have hs' : s'.Honest := by
    apply hreads.keeps Script.Honest _ hs
    intro room deadline s d s' hread hs
    obtain ⟨-, rfl⟩ := Prod.mk.inj (Option.some.inj hread)
    exact (honest_readSome hs room).1
  obtain ⟨rfl, -⟩ := Prod.mk.inj (Option.some.inj hread)
  exact (honest_readSome hs' room).2

end Script

/-! ## The main statement -/

namespace Transport

variable {ρ σ : Type} [Transport ρ σ] {r : ρ}

/-- **Filling a region takes what a connection gives, in order and to the byte.** Whatever chunks
and results come, and however large the region is: the filling comes to an end unless one of its
reads waits for ever. The calls that it made are reads for exactly what was missing (`Filling`), the
region begins with the bytes that they brought and is otherwise as it was, and the filling succeeds
just when these are all that were asked for. -/
theorem fill_takes_missing {s : Recorded ρ σ} (hs : KeepsContract r s.state) (deadline : Deadline)
    (region : List UInt8) :
    (∃ reads result s', fill r deadline region s
        = some (result, broughtBy reads ++ region.drop (broughtBy reads).length, s')
      ∧ Exchanges r s.state reads s'.state ∧ s'.calls = s.calls ++ reads.map (Exchange.call r)
      ∧ Filling deadline region.length 0 reads result
      ∧ (result.isOk = true ↔ (broughtBy reads).length = region.length))
    ∨ (fill r deadline region s = none
      ∧ ∃ reads s', Exchanges r s.state reads s'
        ∧ Waiting r deadline region.length 0 reads s') := by
  rcases fillFrom_takes_missing (Recorded.keepsContract hs) (Nat.zero_le region.length)
      deadline with
    ⟨reads, result, s', hfill, hreads, hfilling⟩ | ⟨hfill, reads, s', hreads, hwaiting⟩
  · obtain ⟨hstate, hcalls⟩ := Recorded.calls_of_exchanges hreads
    have hwithin : (broughtBy reads).length ≤ region.length := by
      rw [← Nat.zero_add (broughtBy reads).length]
      exact hfilling.within
    refine .inl ⟨reads, result, s', ?_, hstate, hcalls, hfilling, ?_⟩
    · rw [fill, hfill, List.take_zero, List.nil_append, List.drop_zero, overlay_of_le hwithin]
    · constructor
      · intro hok
        apply Decidable.byContradiction
        intro hmissing
        obtain ⟨front, x, -, -, hresult⟩ := hfilling.stopped (by omega)
        rw [hresult, Exchange.isOk_ending] at hok
        exact nomatch hok
      · intro hall
        rw [hfilling.full (by rw [Nat.zero_add, hall])]
        rfl
  · exact .inr ⟨hfill, reads, s'.state, (Recorded.calls_of_exchanges hreads).1,
      Recorded.waiting_state hwaiting⟩

/-- Three of five bytes come in two chunks, then the time is up; the byte behind that stays with the
connection. -/
theorem fill_takes_missing_timeout :
    let s : Recorded Unit Script :=
      ⟨{ reads := [.data [1, 2], .data [3], .result { status := .timeout, bytes := 7 },
          .data [4]] }, []⟩
    KeepsContract () s.state ∧ ∃ reads s',
      fill () (some ⟨5⟩) [9, 9, 9, 9, 9] s
        = some ({ status := .timeout, bytes := 3 }, [1, 2, 3, 9, 9], s')
      ∧ [.readSome () 5 (some ⟨5⟩), .readSome () 3 (some ⟨5⟩), .readSome () 2 (some ⟨5⟩)]
        = reads.map (Exchange.call ())
      ∧ s'.state.reads = [.data [4]]
      ∧ Filling (some ⟨5⟩) 5 0 reads { status := .timeout, bytes := 3 } := by
  intro s
  have hs : KeepsContract () s.state := Script.keepsContract (by decide)
  -- Two reads bring bytes, and the third one stops.
  let s₁ : Recorded Unit Script :=
    ⟨{ reads := [.data [3], .result { status := .timeout, bytes := 7 }, .data [4]] },
      [.readSome () 5 (some ⟨5⟩)]⟩
  let s₂ : Recorded Unit Script :=
    ⟨{ reads := [.result { status := .timeout, bytes := 7 }, .data [4]] },
      [.readSome () 5 (some ⟨5⟩), .readSome () 3 (some ⟨5⟩)]⟩
  let s₃ : Recorded Unit Script :=
    ⟨{ reads := [.data [4]] },
      [.readSome () 5 (some ⟨5⟩), .readSome () 3 (some ⟨5⟩), .readSome () 2 (some ⟨5⟩)]⟩
  have hfirst : readSome () 5 (some ⟨5⟩) s = some (.ofBytes [1, 2], s₁) := by rfl
  have hsecond : readSome () 3 (some ⟨5⟩) s₁ = some (.ofBytes [3], s₂) := by rfl
  have hthird : readSome () 2 (some ⟨5⟩) s₂
      = some (.ofResult { status := .timeout, bytes := 7 }, s₃) := by rfl
  have hfill : fill () (some ⟨5⟩) [9, 9, 9, 9, 9] s
      = some ({ status := .timeout, bytes := 3 }, [1, 2, 3, 9, 9], s₃) := by
    rw [fill, fillFrom_of_bytes (by decide) hfirst (by decide) (by decide) rfl rfl]
    show fillFrom () (some ⟨5⟩) 2 [1, 2, 9, 9, 9] s₁ = _
    rw [fillFrom_of_bytes (by decide) hsecond (by decide) (by decide) rfl rfl]
    show fillFrom () (some ⟨5⟩) 3 [1, 2, 3, 9, 9] s₂ = _
    rw [fillFrom_of_stop (by decide) hthird (by decide)]
    rfl
  refine ⟨hs, ?_⟩
  rcases fill_takes_missing hs (some ⟨5⟩) [9, 9, 9, 9, 9] with
    ⟨reads, result, s', hsome, -, hcalls, hfilling, -⟩ | ⟨hnone, -⟩
  · rw [hfill] at hsome
    obtain ⟨rfl, hbehind⟩ := Prod.mk.inj (Option.some.inj hsome)
    obtain ⟨-, rfl⟩ := Prod.mk.inj hbehind
    exact ⟨reads, _, hfill, hcalls, rfl, hfilling⟩
  · rw [hfill] at hnone
    cases hnone

end Transport

end ModbusTcp
