import ModbusTcp.Proofs.Calls
import ModbusTcp.Proofs.Requests
import ModbusTcp.Server

/-!
Serving comes to an end on every finite input.

The loop of the server (`Serve`) goes on behind an answered request and behind a client that stayed
silent, as often as it likes: nothing counts the turns. What ends it is the input. On a connection
where every read uses up some of what is left, or reports the end (`Transport.Finite`), a turn that
goes on has read, and what it read last was not the end; so it leaves less (`exists_turn`). This is
followed through the filling of a region, the body, the whole frame and a read of a message. A
script is such a connection, whatever its items report.

`Server.Run` is the loop without a bound on its turns. The main statement is `serve_ends`: each turn
that goes on lessens the items and bytes that are left of a script, so the loop ends, after no more
turns than these and one, and serving gives what it comes to.
-/

set_option autoImplicit false

namespace ModbusTcp

/-! ## Connections that run dry -/

namespace Transport

/-- Connections on which every read ends, and uses up some input unless it reports the end of the
stream. Writing and flushing leave the input alone. -/
structure Finite (ρ σ : Type) [Transport ρ σ] : Prop where
  ends : ∀ (r : ρ) (room : Nat) (deadline : Deadline) (s : σ), 0 < room →
    readSome r room deadline s ≠ none
  reads : ∀ (r : ρ) (room : Nat) (deadline : Deadline) (s : σ) (d : Delivery) (s' : σ), 0 < room →
    readSome r room deadline s = some (d, s') →
    backlog r s' < backlog r s ∨ (d.result.status = .endOfStream ∧ backlog r s' = backlog r s)
  write : ∀ (r : ρ) (data : List UInt8) (s : σ), backlog r (write r data s).2 = backlog r s
  flush : ∀ (r : ρ) (s : σ), backlog r (flush r s).2 = backlog r s

variable {ρ σ : Type} [Transport ρ σ]

/-- What a filling of so many missing bytes did to the input. -/
structure Spent (r : ρ) (missing : Nat) (result : IoResult) (s s' : σ) : Prop where
  le : backlog r s' ≤ backlog r s
  /-- Some input was used up, unless the stream had ended or nothing was missing. -/
  lt : 0 < missing → result.status ≠ .endOfStream → backlog r s' < backlog r s
  full : missing = 0 → result.status = .ok

/-- The filling stops behind a read. -/
theorem Finite.spent_of_stop (h : Finite ρ σ) {r : ρ} {room : Nat} {deadline : Deadline} {s s' : σ}
    {d : Delivery} {result : IoResult} (hroom : 0 < room)
    (hread : readSome r room deadline s = some (d, s'))
    (hresult : result.status ≠ .endOfStream → d.result.status ≠ .endOfStream) :
    Spent r room result s s' := by
  rcases h.reads r room deadline s d s' hroom hread with hless | ⟨hend, hsame⟩
  · exact ⟨Nat.le_of_lt hless, fun _ _ => hless, by omega⟩
  · refine ⟨Nat.le_of_eq hsame, ?_, by omega⟩
    intro _ hgoes
    exact absurd hend (hresult hgoes)

/-- The filling goes on behind a read, to whatever end. -/
theorem Finite.lt_of_ok (h : Finite ρ σ) {r : ρ} {room : Nat} {deadline : Deadline} {s s' : σ}
    {d : Delivery} (hroom : 0 < room) (hread : readSome r room deadline s = some (d, s'))
    (hok : d.result.status = .ok) : backlog r s' < backlog r s := by
  rcases h.reads r room deadline s d s' hroom hread with hless | ⟨hend, -⟩
  · exact hless
  · rw [hok] at hend
    exact nomatch hend

/-- The filling went on behind a read that used up some input. -/
theorem Spent.behind {r : ρ} {missing left : Nat} {result : IoResult} {s s₁ s' : σ}
    (h : Spent r left result s₁ s') (hless : backlog r s₁ < backlog r s) (hsome : 0 < missing) :
    Spent r missing result s s' := by
  have hle := h.le
  exact ⟨by omega, fun _ _ => by omega, by omega⟩

/-- **Filling a region comes to an end.** The induction is on the input that is left: a read behind
which the loop goes on has used up some, also one whose report takes the filling back. -/
theorem exists_fillFrom (h : Finite ρ σ) (r : ρ) (deadline : Deadline) (filled : Nat)
    (region : List UInt8) (s : σ) :
    ∃ result region' s', fillFrom r deadline filled region s = some (result, region', s')
      ∧ Spent r (region.length - filled) result s s' := by
  generalize hinput : backlog r s = input
  induction input using Nat.strongRecOn generalizing filled region s with
  | ind input ih =>
    by_cases hfull : filled < region.length
    · have hroom : 0 < region.length - filled := by omega
      obtain ⟨⟨d, s₁⟩, hread⟩ := Option.ne_none_iff_exists'.mp
        (h.ends r (region.length - filled) deadline s hroom)
      by_cases hok : d.result.status = .ok
      · by_cases hidle : d.result.bytes = 0
        · -- A success without bytes is reported as a failure, and has used up an item.
          refine ⟨_, _, _, fillFrom_of_idle hfull hread hok hidle, h.spent_of_stop hroom hread ?_⟩
          intro _ hend
          rw [hok] at hend
          exact nomatch hend
        · have hless := h.lt_of_ok hroom hread hok
          obtain ⟨result, region', s', hfill, hspent⟩ := ih _ (hinput ▸ hless)
            (filledAfter filled (region.length - filled) d.result.bytes)
            (region.take filled ++ overlay (region.drop filled) d.data) s₁ rfl
          exact ⟨result, region', s', (fillFrom_of_more hfull hread hok hidle).trans hfill,
            hspent.behind hless hroom⟩
      · exact ⟨_, _, _, fillFrom_of_failed hfull hread hok,
          h.spent_of_stop hroom hread fun hgoes => hgoes⟩
    · exact ⟨_, _, _, fillFrom_of_full hfull, Nat.le_refl _, fun hmissing => by omega,
        fun _ => rfl⟩

theorem exists_fill (h : Finite ρ σ) (r : ρ) (deadline : Deadline) (region : List UInt8) (s : σ) :
    ∃ result region' s', fill r deadline region s = some (result, region', s')
      ∧ Spent r region.length result s s' :=
  exists_fillFrom h r deadline 0 region s

end Transport

/-! ## Reads of a channel -/

/-- A report that lets the server go on is one of a deadline that passed before a frame began. -/
theorem ReadFailure.timeout_of_idle {f : ReadFailure} (h : Framing.Idle f.status) :
    ∃ result, f = .headerBroken result ∧ result.status = .timeout := by
  obtain ⟨hclosed, htimeout⟩ := h
  cases f with
  | headerBroken result =>
    refine ⟨result, rfl, ?_⟩
    unfold status at hclosed htimeout
    simp only at hclosed htimeout
    split at hclosed
    · exact nomatch hclosed
    · rename_i herror
      split at hclosed
      · rename_i hnone
        rw [if_neg herror, if_pos hnone] at htimeout
        exact of_decide_eq_true htimeout
      · exact nomatch hclosed
  | bodyBroken result length =>
    unfold status at hclosed
    simp only at hclosed
    split at hclosed
    · exact nomatch hclosed
    · exact nomatch hclosed
  | unbound => exact nomatch htimeout
  | _ => exact nomatch hclosed

namespace Channel

open Transport

variable {ρ σ : Type} [Transport ρ σ]

/-- Whether the server goes on behind an outcome: with what was read, or because the client only
stayed silent. -/
def GoesOn {α : Type} (outcome : Except ReadFailure α) : Prop :=
  ∀ f, outcome = .error f → Framing.Idle f.status

/-- No failure behind the head of a frame lets the server go on. -/
theorem not_goesOn {α : Type} {f : ReadFailure} (h : ∀ result, f ≠ .headerBroken result) :
    ¬ GoesOn (.error f : Except ReadFailure α) := by
  intro hgoes
  obtain ⟨result, hf, -⟩ := ReadFailure.timeout_of_idle (hgoes f rfl)
  exact h result hf

section Reads

variable (h : Finite ρ σ) (r : ρ) (deadline : Deadline) (s : σ)

include h

theorem exists_readBody (length : UInt16) (b : FrameBuffer) :
    ∃ outcome b' s', readBody r deadline length b s = some (outcome, b', s')
      ∧ backlog r s' ≤ backlog r s ∧ (GoesOn outcome → Frame.prefixLength ≤ b.capacity) := by
  obtain ⟨result, body, s', hfill, hspent⟩ :=
    exists_fill h r deadline (b.region Frame.prefixLength length.toNat) s
  have hcapacity := b.capacity_store Frame.prefixLength body
  unfold readBody
  rw [hfill]
  simp only
  split
  · exact ⟨_, _, _, rfl, hspent.le, fun hgoes => absurd hgoes (not_goesOn nofun)⟩
  · split
    · exact ⟨_, _, _, rfl, hspent.le, fun hgoes => absurd hgoes (not_goesOn nofun)⟩
    · -- The buffer had room for the frame, and so for its head.
      rename_i b' hreset
      have hfits : Frame.prefixLength ≤ b.capacity := by
        have hreset := congrArg Prod.fst hreset
        rw [FrameBuffer.reset_fst, decide_eq_true_eq, hcapacity] at hreset
        omega
      split
      · exact ⟨_, _, _, rfl, hspent.le, fun _ => hfits⟩
      · exact ⟨_, _, _, rfl, hspent.le, fun _ => hfits⟩

/-- **Reading a frame uses up some input, if the server goes on behind it.** The head was read then,
or its first read found a deadline that had passed. -/
theorem exists_readFrame (b : FrameBuffer) :
    ∃ outcome b' s', readFrame r deadline b s = some (outcome, b', s')
      ∧ (GoesOn outcome → backlog r s' < backlog r s) := by
  obtain ⟨result, head, s₁, hfill, hspent⟩ :=
    exists_fill h r deadline (b.region 0 Frame.prefixLength) s
  unfold readFrame
  rw [hfill]
  simp only
  split
  · rename_i hfailed
    refine ⟨_, _, _, rfl, ?_⟩
    intro hgoes
    obtain ⟨result', hf, htimeout⟩ := ReadFailure.timeout_of_idle (hgoes _ rfl)
    cases hf
    have hmissing : 0 < (b.region 0 Frame.prefixLength).length :=
      Nat.pos_of_ne_zero fun hnone => hfailed (hspent.full hnone)
    apply hspent.lt hmissing
    rw [htimeout]
    exact IoStatus.noConfusion
  · rename_i hok
    split
    · exact ⟨_, _, _, rfl, fun hgoes => absurd hgoes (not_goesOn nofun)⟩
    · obtain ⟨outcome, b', s', hbody, hle, hfits⟩ :=
        exists_readBody h r deadline s₁ (lengthField head) (b.store 0 head)
      refine ⟨outcome, b', s', hbody, ?_⟩
      intro hgoes
      have hcapacity := hfits hgoes
      rw [FrameBuffer.capacity_store] at hcapacity
      have hregion : (b.region 0 Frame.prefixLength).length = Frame.prefixLength :=
        FrameBuffer.length_region_of_fits (by omega)
      have hless := hspent.lt (by rw [hregion]; decide) (by rw [not_not.mp hok]; exact nofun)
      omega

end Reads

/-- **A read of a message comes to an end,** on a channel that is not bound too, and uses up some
input if the server goes on behind it. -/
theorem exists_read (h : Finite ρ σ) (role : Role) (start : Instant) (c : Channel ρ) (s : σ) :
    ∃ outcome c' s', c.read role start s = some (outcome, c', s')
      ∧ (GoesOn outcome → c'.connection = c.connection
        ∧ Server.backlog c' s' < Server.backlog c s) := by
  rw [read_eq]
  split
  · rename_i r b hr hb
    obtain ⟨outcome, b', s', hframe, hless⟩ :=
      exists_readFrame h r (Deadline.starting c.receiveTimeout start) s b
    rw [hframe]
    rcases outcome with f | done
    · refine ⟨_, _, _, rfl, ?_⟩
      intro hgoes
      refine ⟨rfl, ?_⟩
      rw [Server.backlog, Server.backlog, hr]
      exact hless (fun f' hf' => hgoes f' (congrArg Except.error (Except.error.inj hf')))
    · refine ⟨_, _, _, rfl, ?_⟩
      intro _
      refine ⟨rfl, ?_⟩
      rw [Server.backlog, Server.backlog, hr]
      exact hless nofun
  · exact ⟨_, _, _, rfl, fun hgoes => absurd hgoes (not_goesOn nofun)⟩

end Channel

/-! ## Turns -/

namespace Server

open Transport

variable {ρ σ : Type} [Transport ρ σ]

theorem backlog_send (h : Finite ρ σ) {role : Role} (m : Message role) (r : ρ) (s : σ) :
    Transport.backlog r (m.send r s).2 = Transport.backlog r s := by
  have hwrite := h.write r m.frame s
  unfold Message.send
  simp only
  split
  · rfl
  · split
    · exact hwrite
    · split
      · exact hwrite
      · exact hwrite

/-- Writing does not touch what is left to read. -/
theorem backlog_write (h : Finite ρ σ) {role : Role} (c : Channel ρ) (m : Message role) (s : σ) :
    backlog c (c.write m s).2 = backlog c s := by
  rcases hr : c.connection with _ | r
  · simp only [backlog, hr]
  · have hsend := backlog_send h m r s
    simp only [backlog, Channel.write, hr]
    generalize m.send r s = sent at hsend
    obtain ⟨_ | _, s₁⟩ := sent
    · exact hsend
    · have hflush := h.flush r s₁
      simp only
      split
      · exact hflush.trans hsend
      · exact hflush.trans hsend

/-- **A turn comes to an end, and leaves less to read if the server goes on behind it.** -/
theorem exists_turn (h : Finite ρ σ) (now : Instant) (c : Channel ρ) (s : σ) :
    ∃ k c' s', turn now c s = some (k, c', s')
      ∧ (k ≠ .over → c'.connection = c.connection ∧ backlog c' s' < backlog c s) := by
  obtain ⟨outcome, c', s', hread, hless⟩ := Channel.exists_read h .request now c s
  unfold turn
  split
  · exact ⟨_, _, _, rfl, fun hover => absurd rfl hover⟩
  · rw [hread]
    rcases outcome with f | request
    · simp only
      split
      · rename_i hidle
        refine ⟨_, _, _, rfl, ?_⟩
        intro _
        apply hless
        rintro f' ⟨rfl⟩
        exact hidle
      · exact ⟨_, _, _, rfl, fun hover => absurd rfl hover⟩
    · have hwritten := backlog_write h c' (answer request) s'
      simp only
      generalize c'.write (answer request) s' = written at hwritten
      obtain ⟨_ | _, s''⟩ := written
      · exact ⟨_, _, _, rfl, fun hover => absurd rfl hover⟩
      · refine ⟨_, _, _, rfl, ?_⟩
        intro _
        rw [hwritten]
        exact hless nofun

/-! ## The loop -/

/-- Turns taken one after the other, up to the one that is the last, the first of them with the
given number. Nothing bounds how many they are. -/
inductive Run (clock : Nat → Instant) :
    Nat → Channel ρ → σ → List Turn → Channel ρ → σ → Prop where
  | last {number : Nat} {c c' : Channel ρ} {s s' : σ} :
    turn (clock number) c s = some (.over, c', s') → Run clock number c s [.over] c' s'
  | next {number : Nat} {k : Turn} {ks : List Turn} {c c' c'' : Channel ρ} {s s' s'' : σ} :
    turn (clock number) c s = some (k, c', s') → k ≠ .over →
    Run clock (number + 1) c' s' ks c'' s'' →
    Run clock number c s (k :: ks) c'' s''

variable {clock : Nat → Instant} {number : Nat} {ks : List Turn} {c c' : Channel ρ} {s s' : σ}

/-- With turns enough the bounded loop does the same, and counts the answers. -/
theorem Run.turns (h : Run clock number c s ks c' s') {fuel : Nat} (hfuel : ks.length ≤ fuel) :
    turns clock fuel number c s = some (UInt32.ofNat (ks.count .answered), c', s') := by
  induction h generalizing fuel with
  | last hturn =>
    obtain ⟨fuel, rfl⟩ : ∃ n, fuel = n + 1 := ⟨fuel - 1, by simp at hfuel; omega⟩
    rw [Server.turns, hturn]
    rfl
  | @next _ k ks _ _ _ _ _ _ hturn hgoes _ ih =>
    obtain ⟨fuel, rfl⟩ : ∃ n, fuel = n + 1 := ⟨fuel - 1, by simp at hfuel; omega⟩
    have hrest := ih (Nat.le_of_succ_le_succ hfuel)
    rw [Server.turns, hturn]
    rcases k with _ | _ | _
    · simpa using hrest
    · simp [hrest, UInt32.ofNat_add]
    · exact absurd rfl hgoes

/-- The last turn answers nothing. -/
theorem Run.count_lt (h : Run clock number c s ks c' s') : ks.count .answered < ks.length := by
  induction h with
  | last hturn => decide
  | next hturn hgoes hrun ih =>
    rw [List.count_cons, List.length_cons]
    split <;> omega

/-- **The loop ends,** by induction on what is left to read: each turn but the last leaves less. -/
theorem exists_run (h : Finite ρ σ) (clock : Nat → Instant) (number : Nat) (c : Channel ρ) (s : σ) :
    ∃ ks c' s', Run clock number c s ks c' s' ∧ ks.length ≤ backlog c s + 1 := by
  generalize hleft : backlog c s = left
  induction left using Nat.strongRecOn generalizing number c s with
  | ind left ih =>
    obtain ⟨k, c₁, s₁, hturn, hless⟩ := exists_turn h (clock number) c s
    by_cases hover : k = .over
    · subst hover
      exact ⟨_, _, _, .last hturn, by simp⟩
    · have hlater : backlog c₁ s₁ < left := hleft ▸ (hless hover).2
      obtain ⟨ks, c', s', hrun, hlength⟩ := ih _ hlater (number + 1) c₁ s₁ rfl
      refine ⟨k :: ks, c', s', .next hturn hover hrun, ?_⟩
      rw [List.length_cons]
      omega

/-- So serving gives what the loop comes to. -/
theorem exists_serve (h : Finite ρ σ) (clock : Nat → Instant) (c : Channel ρ) (s : σ) :
    ∃ ks c' s', Run clock 0 c s ks c' s' ∧ ks.length ≤ backlog c s + 1
      ∧ serve clock c s = some (UInt32.ofNat (ks.count .answered), c'.close s') := by
  obtain ⟨ks, c', s', hrun, hlength⟩ := exists_run h clock 0 c s
  refine ⟨ks, c', s', hrun, hlength, ?_⟩
  rw [serve, answerAll, hrun.turns hlength]

end Server

/-! ## Scripts -/

/-- The bytes that an item delivers. -/
def ReadItem.bytes : ReadItem → List UInt8
  | .data bytes => bytes
  | .result _ => []

namespace Script

/-- The items of a script that are left to read, and their bytes. -/
def left (t : Script) : Nat := t.reads.length + (t.reads.flatMap ReadItem.bytes).length

theorem itemSize_eq (item : ReadItem) : itemSize item = item.bytes.length + 1 := by
  cases item with
  | data bytes => rfl
  | result result => rfl

theorem backlog_eq_left (t : Script) : Transport.backlog () t = t.left := by
  have hsizes (reads : List ReadItem) :
      reads.foldr (fun item rest => itemSize item + rest) 0
        = reads.length + (reads.flatMap ReadItem.bytes).length := by
    induction reads with
    | nil => rfl
    | cons item reads ih =>
      rw [List.foldr_cons, ih, itemSize_eq]
      simp only [List.length_cons, List.flatMap_cons, List.length_append]
      omega
  exact hsizes t.reads

/-- A read delivers from the first item or takes it away, or it reports the end. -/
theorem left_readSome {room : Nat} (hroom : 0 < room) (t : Script) :
    (t.readSome room).2.left < t.left
      ∨ ((t.readSome room).1.result.status = .endOfStream ∧ (t.readSome room).2.left = t.left) := by
  unfold readSome
  split
  · exact .inr ⟨rfl, rfl⟩
  · rename_i hreads
    simp [left, hreads, ReadItem.bytes]
  · rename_i bytes reads hreads
    split
    · simp [left, hreads, ReadItem.bytes]
      omega
    · simp [left, hreads, ReadItem.bytes]
      omega

/-- A script is finite, whatever its items report. -/
theorem finite : Transport.Finite Unit Script where
  ends _ _ _ _ _ := Option.some_ne_none _
  reads _ room _ t d t' hroom hread := by
    obtain ⟨rfl, rfl⟩ := Prod.mk.inj (Option.some.inj hread)
    rw [backlog_eq_left, backlog_eq_left]
    exact left_readSome hroom t
  write _ _ _ := rfl
  flush _ _ := rfl

/-- What a channel that is bound to a script has left. -/
theorem backlog_of_bound {c : Channel Unit} (hc : c.connection = some ()) (t : Script) :
    Server.backlog c t = t.left := by
  rw [Server.backlog, hc]
  exact backlog_eq_left t

theorem backlog_le (c : Channel Unit) (t : Script) : Server.backlog c t ≤ t.left := by
  rcases hc : c.connection with _ | ⟨⟩
  · simp [Server.backlog, hc]
  · exact Nat.le_of_eq (backlog_of_bound hc t)

end Script

/-- **Serving comes to an end on every script,** on every channel, whatever the items of the script
report and whatever comes of writing, flushing and closing. A turn that goes on lessens the items
and bytes that are left to read. So there are no more turns than these and one, serving gives what
the turns come to, and the requests that it counts are no more than these either. -/
theorem Server.serve_ends (clock : Nat → Instant) (c : Channel Unit) (t : Script) :
    (∀ (now : Instant) (c : Channel Unit) (t : Script), ∃ k c' t',
      turn now c t = some (k, c', t') ∧ (k ≠ .over → t'.left < t.left))
    ∧ ∃ ks c' t', Run clock 0 c t ks c' t' ∧ ks.length ≤ t.left + 1
      ∧ serve clock c t = some (UInt32.ofNat (ks.count .answered), c'.close t')
      ∧ ks.count .answered ≤ t.left := by
  constructor
  · intro now c t
    obtain ⟨k, c', t', hturn, hless⟩ := exists_turn Script.finite now c t
    refine ⟨k, c', t', hturn, ?_⟩
    intro hgoes
    obtain ⟨hsame, hless⟩ := hless hgoes
    rcases hc : c.connection with _ | ⟨⟩
    · simp [backlog, hc] at hless
    · rwa [Script.backlog_of_bound hc, Script.backlog_of_bound (hsame.trans hc)] at hless
  · obtain ⟨ks, c', t', hrun, hlength, hserve⟩ := exists_serve Script.finite clock c t
    have hleft := Script.backlog_le c t
    have hcount := hrun.count_lt
    exact ⟨ks, c', t', hrun, by omega, hserve, by omega⟩

set_option maxRecDepth 4000 in
/-- A silent client, a request in two parts, and a success without bytes, behind which more would
come: three turns of the eighteen that there may be. -/
theorem Server.serve_ends_early :
    let t : Script := { reads := [.result .expired, .data [0, 1, 0, 0, 0, 6, 0x11, 3, 0, 0x6B],
      .data [0, 1], .result {}, .result .expired] }
    let c : Channel Unit := ({} : Channel Unit).attach ()
    t.left = 17 ∧ ∃ ks c' t', Run (fun _ => ⟨0⟩) 0 c t ks c' t' ∧ ks.length ≤ 18
      ∧ UInt32.ofNat (ks.count .answered) = 1 ∧ t'.reads = [.result .expired]
      ∧ serve (fun _ => ⟨0⟩) c t = some (1, c'.close t') := by
  intro t c
  have hturns : (turns (fun _ => ⟨0⟩) 18 0 c t).map (fun (served, _, t') => (served, t'.reads))
      = some (1, [.result .expired]) := by cbv
  obtain ⟨-, ks, c', t', hrun, hbound, hserve, -⟩ := serve_ends (fun _ => ⟨0⟩) c t
  have hlength : ks.length ≤ 18 := hbound
  rw [hrun.turns hlength] at hturns
  obtain ⟨hcount, hreads⟩ := Prod.mk.inj (Option.some.inj hturns)
  rw [hcount] at hserve
  exact ⟨rfl, ks, c', t', hrun, hlength, hcount, hreads, hserve⟩

end ModbusTcp
