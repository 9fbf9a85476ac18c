import ModbusTcp.Proofs.Framing
import ModbusTcp.Proofs.Writing

/-!
Messages sent one after the other arrive one after the other.

Every part is proved apart: a message that fits a frame is read back from it
(`Message.decode_frame`), a channel reads what the reference reads
(`Channel.readAll_of_delivers`). What is left is that the reference finds its way through the
frames of many messages (`Framing.run_frames`), and that a channel over a healthy connection puts
exactly those frames on the wire (`Channel.writeAll_of_healthy`). Together they are
`Channel.readAll_writeAll`, from a list of messages on one side to the same list on the other.
-/

set_option autoImplicit false

namespace ModbusTcp

open InputSymbol Transport
open VariantTable (standard)

/-! ## The reference on frames -/

namespace Framing

variable {role : Role}

/-- A frame is taken whole, and nothing behind it. -/
theorem frame_of_message {m : Message role} (hsize : 8 + m.payloadSize ≤ 260)
    (rest : List InputSymbol) : frame (m.frame.map .byte ++ rest) = (.ok m.frame, rest) := by
  have hlength : m.frame.length = 8 + m.payloadSize := Message.length_frame m
  have hword : (wordAt (m.frame.take 6) 4).toNat = 2 + m.payloadSize := by
    have h := Message.toNat_length_frame hsize []
    rw [List.append_nil] at h
    rwa [wordAt_take (by omega)]
  -- Behind the head stand exactly as many bytes as its length field says.
  have hbody : (m.frame.drop 6).length = 2 + m.payloadSize := by
    rw [List.length_drop, hlength]
    omega
  have hcode : ¬ wordAt (m.frame.take 6) 4 < 2 := by
    rw [UInt16.lt_iff_toNat_lt, hword]
    exact Nat.not_lt.mpr (Nat.le_add_right 2 _)
  rw [frame, take_of_le (show 6 ≤ m.frame.length by omega)]
  simp only
  rw [hword, if_neg (by rw [limit]; omega), body, hword,
    take_of_le (Nat.le_of_eq hbody.symm)]
  simp only
  rw [if_neg hcode, ← hbody, List.take_length, List.drop_length, List.take_append_drop]
  rfl

/-- **The reference reads a message from its frame.** -/
theorem step_frame {m : Message role} (hm : m.variant = (standard.create role m.code).variant)
    (hsize : 8 + m.payloadSize ≤ 260) (rest : List InputSymbol) :
    step standard role (m.frame.map .byte ++ rest) = (.ok m, rest) := by
  have hlibrary : m.variant.IsLibrary := by
    rw [hm]
    exact VariantTable.isLibrary_variant_create role m.code
  have hcode : byteAt m.frame 7 = m.code := rfl
  have hunread : FrameBuffer.unread ⟨m.frame, m.frame.length, 0⟩ = m.frame ++ [] := by
    rw [FrameBuffer.unread_whole, List.append_nil]
  have hmessage : message standard role m.frame = .ok m := by
    rw [message, hcode,
      Message.decode_frame hm.symm hlibrary hsize (FrameBuffer.wellFormed_whole _) hunread]
    rfl
  rw [step_of_framed (frame_of_message hsize rest), hmessage]

/-- The reference reads one message after the other from their frames, and goes on behind them. -/
theorem run_frames {messages : List (Message role)}
    (hm : ∀ m ∈ messages, m.variant = (standard.create role m.code).variant)
    (hsize : ∀ m ∈ messages, 8 + m.payloadSize ≤ 260) (roles : List Role)
    (rest : List InputSymbol) :
    run standard (List.replicate messages.length role ++ roles)
        ((messages.flatMap Message.frame).map .byte ++ rest)
      = (messages.map (⟨role, .ok ·⟩) ++ (run standard roles rest).1,
          (run standard roles rest).2) := by
  induction messages with
  | nil => rfl
  | cons m messages ih =>
    have hrest := ih (fun m h => hm m (List.mem_cons_of_mem _ h))
      (fun m h => hsize m (List.mem_cons_of_mem _ h))
    have hfirst := step_frame (hm m List.mem_cons_self) (hsize m List.mem_cons_self)
    rw [List.length_cons, List.replicate_succ, List.cons_append, List.flatMap_cons,
      List.map_append, List.append_assoc, run, hfirst]
    simp only [hrest]
    rfl

end Framing

/-! ## Healthy connections -/

namespace Transport

variable {ρ σ : Type} [Transport ρ σ]

/-- A connection on which nothing goes wrong in the states that are `good`: it takes every write
whole and queues it behind what is `queued`, and a flush puts the queue on the `wire`. -/
structure Healthy (r : ρ) (good : σ → Prop) (queued wire : σ → List UInt8) : Prop where
  write : ∀ s data, good s → ∃ result s', Transport.write r data s = (result, s')
    ∧ result.status = .ok ∧ result.bytes = data.length
    ∧ good s' ∧ queued s' = queued s ++ data ∧ wire s' = wire s
  flush : ∀ s, good s → ∃ result s', Transport.flush r s = (result, s')
    ∧ result.status = .ok
    ∧ good s' ∧ queued s' = [] ∧ wire s' = wire s ++ queued s

end Transport

/-- Neither is the output closed nor are writes set to fail. -/
def Memory.TakesWrites (m : Memory) : Prop := m.outputClosed = false ∧ m.writeFailure = none

theorem Memory.healthy : Healthy () Memory.TakesWrites Memory.pending Memory.written := by
  refine ⟨?_, ?_⟩
  · rintro m data ⟨hopen, hfailure⟩
    have hwrite : m.write data
        = (.transferred data.length, { m with pending := m.pending ++ data }) := by
      simp only [Memory.write, hopen, hfailure, Bool.false_eq_true, if_false]
    exact ⟨_, _, hwrite, rfl, rfl, ⟨hopen, hfailure⟩, rfl, rfl⟩
  · rintro m ⟨hopen, hfailure⟩
    have hflush : m.flush
        = (.transferred m.pending.length, { m.drain with flushes := m.flushes + 1 }) := by
      simp only [Memory.flush, hopen, Bool.false_eq_true, if_false]
    exact ⟨_, _, hflush, rfl, ⟨hopen, hfailure⟩, rfl, rfl⟩

/-! ## Channels on both sides -/

namespace Channel

open Framing

variable {ρ σ : Type} [Transport ρ σ] {role : Role}

/-- Writes one message after the other, and tells of each how it went. -/
def writeAll (c : Channel ρ) :
    List (Message role) → σ → List (Message role × Except WriteFailure Unit) × σ
  | [], s => ([], s)
  | m :: messages, s =>
    let (outcome, s) := c.write m s
    let (outcomes, s) := c.writeAll messages s
    ((m, outcome) :: outcomes, s)

/-- The messages that were written with success, in order. -/
def accepted (outcomes : List (Message role × Except WriteFailure Unit)) : List (Message role) :=
  (outcomes.filter fun (_, outcome) => outcome.isOk).map Prod.fst

section Healthy

variable {r : ρ} {good : σ → Prop} {queued wire : σ → List UInt8} {c : Channel ρ} {s : σ}

/-- A message that is not too long is on the wire when its write is done. -/
theorem write_of_healthy {m : Message role} (hr : c.connection = some r)
    (hhealthy : Healthy r good queued wire) (hs : good s) (hqueue : queued s = [])
    (hsize : 8 + m.payloadSize ≤ 260) :
    ∃ s', c.write m s = (.ok (), s') ∧ good s' ∧ queued s' = []
      ∧ wire s' = wire s ++ m.frame := by
  obtain ⟨taken, s₁, hwrite, htaken, hbytes, hgood₁, hqueued₁, hwire₁⟩ :=
    hhealthy.write s m.frame hs
  obtain ⟨flushed, s₂, hflush, hflushed, hgood₂, hqueued₂, hwire₂⟩ := hhealthy.flush s₁ hgood₁
  refine ⟨s₂, ?_, hgood₂, hqueued₂, ?_⟩
  · rw [write_of_written hr hsize hwrite htaken hbytes hflush, if_neg (not_not.mpr hflushed)]
  · rw [hwire₂, hwire₁, hqueued₁, hqueue, List.nil_append]

/-- **What a channel over a healthy connection puts on the wire:** the frames of the messages that
fit one, whole and in order. Those are the messages it reports as written. -/
theorem writeAll_of_healthy (hr : c.connection = some r) (hhealthy : Healthy r good queued wire)
    (hs : good s) (hqueue : queued s = []) (messages : List (Message role)) :
    accepted (c.writeAll messages s).1 = messages.filter (8 + ·.payloadSize ≤ 260)
      ∧ wire (c.writeAll messages s).2
        = wire s ++ (accepted (c.writeAll messages s).1).flatMap Message.frame := by
  induction messages generalizing s with
  | nil => exact ⟨rfl, (List.append_nil _).symm⟩
  | cons m messages ih =>
    -- A refused message leaves queue and wire alone, so the hypotheses carry over in both cases.
    by_cases hsize : 8 + m.payloadSize ≤ 260
    · obtain ⟨s', hwrite, hgood, hqueued, hwire⟩ := write_of_healthy hr hhealthy hs hqueue hsize
      obtain ⟨haccepted, hrest⟩ := ih hgood hqueued
      have hlog : c.writeAll (m :: messages) s
          = ((m, .ok ()) :: (c.writeAll messages s').1, (c.writeAll messages s').2) := by
        rw [writeAll, hwrite]
      rw [hlog]
      refine ⟨?_, ?_⟩
      · rw [List.filter_cons_of_pos (by rw [decide_eq_true hsize]), ← haccepted]
        rfl
      · rw [hrest, hwire, List.append_assoc]
        rfl
    · have hwrite := write_of_tooLong hr (Nat.lt_of_not_le hsize) s
      obtain ⟨haccepted, hrest⟩ := ih hs hqueue
      have hlog : c.writeAll (m :: messages) s
          = ((m, .error (.notSent (.tooLong (8 + m.payloadSize)))) :: (c.writeAll messages s).1,
              (c.writeAll messages s).2) := by
        rw [writeAll, hwrite]
      rw [hlog]
      refine ⟨?_, hrest⟩
      rw [List.filter_cons_of_neg (by rwa [decide_eq_true_eq]), ← haccepted]
      rfl

end Healthy

/-- **What is sent is what arrives.** Messages of one role, each of the variant that the table of
the protocol has for its code, are written over a healthy connection; those that are accepted are
the ones whose frame is not too long. Their frames and nothing else reach the wire. Whoever reads
these bytes, in any chunks and up to the end of the stream, with the same table, gets the accepted
messages in order, and then a clean end that no deadline brought about. -/
theorem readAll_writeAll {r : ρ} {good : σ → Prop} {queued wire : σ → List UInt8}
    {sender : Channel ρ} {s : σ} (hr : sender.connection = some r)
    (hhealthy : Healthy r good queued wire) (hs : good s) (hqueue : queued s = [])
    {messages : List (Message role)}
    (hm : ∀ m ∈ messages, m.variant = (standard.create role m.code).variant) :
    let written := sender.writeAll messages s
    accepted written.1 = messages.filter (8 + ·.payloadSize ≤ 260)
      ∧ wire written.2 = wire s ++ (accepted written.1).flatMap Message.frame
      ∧ ∀ {ρ' σ' : Type} [Transport ρ' σ'] (receiver : Channel ρ') (r' : ρ') (t : σ')
        (sent : List UInt8) (starts : List Instant), receiver.BoundTo r' →
        receiver.table = standard → wire written.2 = wire s ++ sent →
        Delivers r' t (sent.map .byte) → starts.length = (accepted written.1).length + 1 →
        ∃ b t', receiver.readAll (starts.map (role, ·)) t
          = some ((accepted written.1).map (⟨role, .ok ·⟩)
              ++ [⟨role, .error
                  { outcome := .connectionClosed
                    message := "no frame received: end of stream"
                    timedOut := false }⟩], { receiver with buffer := b }, t') := by
  intro written
  obtain ⟨haccepted, hwire⟩ := writeAll_of_healthy hr hhealthy hs hqueue messages
  refine ⟨haccepted, hwire, ?_⟩
  intro ρ' σ' _ receiver r' t sent starts hbound htable hsent hdelivers hstarts
  -- What was accepted is among the messages and fits a frame.
  have hvariant : ∀ m ∈ accepted written.1, m.variant = (standard.create role m.code).variant := by
    intro m hmem
    rw [haccepted] at hmem
    exact hm m (List.mem_filter.mp hmem).1
  have hsize : ∀ m ∈ accepted written.1, 8 + m.payloadSize ≤ 260 := by
    intro m hmem
    rw [haccepted] at hmem
    exact of_decide_eq_true (List.mem_filter.mp hmem).2
  have hframes : sent = (accepted written.1).flatMap Message.frame :=
    List.append_cancel_left (hsent.symm.trans hwire)
  -- One read for each accepted message, and one more that finds the end.
  have hroles : (starts.map (role, ·)).map Prod.fst
      = List.replicate (accepted written.1).length role ++ [role] := by
    rw [List.map_map, ← List.replicate_succ', ← hstarts]
    exact List.map_const' ..
  obtain ⟨b, t', hread, -, -⟩ := readAll_of_delivers hbound hdelivers (starts.map (role, ·))
  have hrun := run_frames hvariant hsize [role] []
  rw [List.append_nil, ← hframes, ← htable, ← hroles] at hrun
  rw [hrun] at hread
  exact ⟨b, t', hread⟩

/-- Two requests and one in between that is too long, through a connection in memory and back in
chunks that end inside the frames. -/
theorem readAll_writeAll_requests :
    let span : Message .request := .readRegistersRequest 3 0x6B 3
    let long : Message .request := ⟨{}, 0x41, .illegalFunction (List.replicate 253 7)⟩
    let preset : Message .request := .writeRegistersRequest 0x13 [0x0102]
    let messages := [span, long, preset]
    let c : Channel Unit := ({} : Channel Unit).attach ()
    let t : Script :=
      { reads := [.data [0, 0, 0, 0, 0], .data [6, 0, 3, 0, 0x6B, 0, 3, 0, 0, 0],
          .data [0, 0, 9, 0, 16, 0, 0x13, 0, 1, 2, 1, 2]] }
    (∀ m ∈ messages, m.variant = (standard.create .request m.code).variant)
      ∧ (c.writeAll messages ({} : Memory)).2.written = span.frame ++ preset.frame
      ∧ ∃ b t', c.readAll [(.request, ⟨0⟩), (.request, ⟨5⟩), (.request, ⟨9⟩)] t
        = some ([⟨.request, .ok span⟩, ⟨.request, .ok preset⟩,
            ⟨.request, .error
              { outcome := .connectionClosed
                message := "no frame received: end of stream"
                timedOut := false }⟩], { c with buffer := b }, t') := by
  intro span long preset messages c t
  have hm : ∀ m ∈ messages, m.variant = (standard.create .request m.code).variant := by
    decide +kernel
  have hfits : messages.filter (8 + ·.payloadSize ≤ 260) = [span, preset] := by
    decide +kernel
  have hr : c.connection = some () := rfl
  have hs : Memory.TakesWrites {} := ⟨rfl, rfl⟩
  have hqueue : Memory.pending {} = [] := rfl
  obtain ⟨haccepted, hwire, hread⟩ := readAll_writeAll hr Memory.healthy hs hqueue hm
  have hsymbols : t.symbols = (span.frame ++ preset.frame).map .byte := by decide
  have hdelivers := Script.delivers (show t.Honest by decide)
  rw [hsymbols] at hdelivers
  have hboth := haccepted.trans hfits
  have hsent : (c.writeAll messages ({} : Memory)).2.written
      = ({} : Memory).written ++ (span.frame ++ preset.frame) := by
    rw [hwire, hboth, List.flatMap_cons, List.flatMap_cons, List.flatMap_nil, List.append_nil]
  obtain ⟨b, t', hreadings⟩ := hread c () t _ [⟨0⟩, ⟨5⟩, ⟨9⟩] (boundTo_attach _ ()) rfl hsent
    hdelivers (by rw [hboth]; rfl)
  rw [hboth] at hreadings
  exact ⟨hm, hsent, b, t', hreadings⟩

end Channel

end ModbusTcp
