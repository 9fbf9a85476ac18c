import ModbusTcp.Proofs.Input
import ModbusTcp.Proofs.Recording

/-!
Scripts that are read and written.

A read takes from the data of a script alone, and a write or a flush from the results that the
script has for its number; so what is delivered is not changed by writing
(`Script.delivers_of_reads`), and the results of writing are not changed by reading
(`Script.unreadable_readSome`). `Script.Takes` says of a number and a size whether that write and
that flush go through.
-/

set_option autoImplicit false

namespace ModbusTcp

open Transport

/-- What is read from a recorded connection is what is read from the connection below. -/
theorem Recorded.delivers_iff {ρ σ : Type} [Transport ρ σ] {r : ρ} {s : Recorded ρ σ}
    {symbols : List InputSymbol} : Delivers r s symbols ↔ Delivers r s.state symbols := by
  constructor
  · intro h
    refine Delivers.coind
      (fun state symbols => ∃ calls, Delivers r (⟨state, calls⟩ : Recorded ρ σ) symbols) ?_
      ⟨s.calls, h⟩
    rintro state symbols ⟨calls, h⟩ room deadline hroom
    obtain ⟨d, s', rest, hread, hhands, hrest⟩ := h.dest room deadline hroom
    obtain ⟨⟨d, state'⟩, hfound, heq⟩ := Option.map_eq_some_iff.mp hread
    cases heq
    exact ⟨d, state', rest, hfound, hhands, _, hrest⟩
  · intro h
    refine Delivers.coind (fun s symbols => Delivers r s.state symbols) ?_ h
    intro s symbols h room deadline hroom
    obtain ⟨d, state, rest, hread, hhands, hrest⟩ := h.dest room deadline hroom
    refine ⟨d, ⟨state, s.calls ++ [.readSome r room deadline]⟩, rest, ?_, hhands, hrest⟩
    exact Option.map_eq_some_iff.mpr ⟨(d, state), hread, rfl⟩

namespace Script

/-- The result of the write with the given number, of so many bytes. -/
def writeResult (t : Script) (number size : Nat) : IoResult :=
  (t.writes.getD number {}).result size

/-- The result of the flush with the given number. -/
def flushResult (t : Script) (number : Nat) : IoResult := (t.flushes.getD number {}).result 0

/-- Whether the write with the given number takes all of so many bytes. -/
def TakesWrite (t : Script) (number size : Nat) : Prop :=
  (t.writeResult number size).status = .ok ∧ (t.writeResult number size).bytes = size

instance (t : Script) (number size : Nat) : Decidable (t.TakesWrite number size) :=
  inferInstanceAs (Decidable (_ ∧ _))

/-- Whether so many bytes are taken by the write with the given number and pushed onto the wire by
the flush with that number. -/
def Takes (t : Script) (number size : Nat) : Prop :=
  t.TakesWrite number size ∧ (t.flushResult number).status = .ok

instance (t : Script) (number size : Nat) : Decidable (t.Takes number size) :=
  inferInstanceAs (Decidable (_ ∧ _))

theorem playNext_drop (items : List PlayedResult) (number usual : Nat) :
    playNext (items.drop number) usual
      = ((items.getD number {}).result usual, items.drop (number + 1)) := by
  induction items generalizing number with
  | nil =>
    rw [List.drop_nil, List.drop_nil]
    rfl
  | cons item items ih =>
    cases number with
    | zero => rfl
    | succ number => exact ih number

/-- All of a script but what is left to read. -/
def unreadable (t : Script) : Script := { t with reads := [] }

theorem unreadable_readSome (room : Nat) (t : Script) :
    (t.readSome room).2.unreadable = t.unreadable := by
  unfold readSome
  split
  · rfl
  · rfl
  · split <;> rfl

/-- What a script delivers is in its reads alone. -/
theorem readSome_congr {t t' : Script} (h : t'.reads = t.reads) (room : Nat) :
    (t'.readSome room).1 = (t.readSome room).1
      ∧ (t'.readSome room).2.reads = (t.readSome room).2.reads := by
  unfold readSome
  rw [h]
  split
  · exact ⟨rfl, h⟩
  · exact ⟨rfl, rfl⟩
  · split <;> exact ⟨rfl, rfl⟩

theorem delivers_congr {t t' : Script} {symbols : List InputSymbol} (h : Delivers () t symbols)
    (hreads : t'.reads = t.reads) : Delivers () t' symbols := by
  refine Delivers.coind (fun t' symbols => ∃ t, Delivers () t symbols ∧ t'.reads = t.reads) ?_
    ⟨t, h, hreads⟩
  rintro t' symbols ⟨t, h, hreads⟩ room deadline hroom
  obtain ⟨d, t₁, rest, hread, hhands, hrest⟩ := h.dest room deadline hroom
  obtain ⟨hdelivery, hleft⟩ := readSome_congr hreads room
  have hfound : t.readSome room = (d, t₁) := Option.some.inj hread
  rw [hfound] at hdelivery hleft
  refine ⟨d, (t'.readSome room).2, rest, ?_, hhands, t₁, hrest, hleft⟩
  exact congrArg some (Prod.ext hdelivery rfl)

theorem delivers_of_reads {s s' : Recorded Unit Script} {symbols : List InputSymbol}
    (h : Delivers () s symbols) (hreads : s'.state.reads = s.state.reads) :
    Delivers () s' symbols := by
  rw [Recorded.delivers_iff] at h ⊢
  exact delivers_congr h hreads

/-- There are no more symbols than the size of the items. -/
theorem length_symbols_le (t : Script) : t.symbols.length ≤ Transport.backlog () t := by
  have hbacklog : Transport.backlog () t
      = t.reads.foldr (fun item rest => itemSize item + rest) 0 := rfl
  rw [hbacklog, symbols]
  induction t.reads with
  | nil => exact Nat.le_refl 0
  | cons item reads ih =>
    have hitem : item.symbols.length ≤ itemSize item := by
      rcases item with (_ | ⟨byte, bytes⟩) | played
      · exact Nat.le_refl 1
      · rw [ReadItem.symbols_data (List.cons_ne_nil byte bytes), List.length_map]
        exact Nat.le_succ _
      · rw [ReadItem.symbols, List.length_map]
        exact Option.length_toList_le
    rw [List.flatMap_cons, List.length_append, List.foldr_cons]
    exact Nat.add_le_add hitem ih

/-- A write plays back the next result, and nothing else of the script is touched. -/
theorem write_eq {s t : Script} {number : Nat} (h : s.writes = t.writes.drop number)
    (data : List UInt8) :
    s.write data = (t.writeResult number data.length,
      { s with
        writes := t.writes.drop (number + 1)
        written := if (t.writeResult number data.length).isOk then s.written ++ data
          else s.written }) := by
  rw [write, h, playNext_drop]
  rfl

theorem flush_eq {s t : Script} {number : Nat} (h : s.flushes = t.flushes.drop number) :
    s.flush = (t.flushResult number,
      { s with flushes := t.flushes.drop (number + 1), flushCount := s.flushCount + 1 }) := by
  rw [flush, h, playNext_drop]
  rfl

/-- What a recorded write leaves behind. -/
theorem exists_write {t : Script} {number : Nat} {s : Recorded Unit Script}
    (h : s.state.writes = t.writes.drop number) (data : List UInt8) :
    ∃ s', Transport.write () data s = (t.writeResult number data.length, s')
      ∧ s'.state = { s.state with
          writes := t.writes.drop (number + 1)
          written := if (t.writeResult number data.length).isOk then s.state.written ++ data
            else s.state.written }
      ∧ s'.calls = s.calls ++ [.write () data] :=
  ⟨_, congrArg (s.after (.write () data)) (write_eq h data), rfl, rfl⟩

/-- What a recorded flush leaves behind. -/
theorem exists_flush {t : Script} {number : Nat} {s : Recorded Unit Script}
    (h : s.state.flushes = t.flushes.drop number) :
    ∃ s', Transport.flush () s = (t.flushResult number, s')
      ∧ s'.state = { s.state with
          flushes := t.flushes.drop (number + 1), flushCount := s.state.flushCount + 1 }
      ∧ s'.calls = s.calls ++ [.flush ()] :=
  ⟨_, congrArg (s.after (.flush ())) (flush_eq h), rfl, rfl⟩

end Script

end ModbusTcp
