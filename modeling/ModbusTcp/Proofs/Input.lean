import Mathlib.Logic.Basic
import ModbusTcp.Transport.Script

/-!
What a connection has still to give, as one sequence of symbols.

A read hands over a chunk of bytes, as long or short as the connection likes, or reports an event.
Laid out one after the other, without the places where the chunks end, all reads to come are a list
of bytes and events, behind which the input has ended. `Transport.Delivers` says that a connection
gives such a list, whatever rooms and deadlines its reads are asked with, and leaves the cutting
open. The main result is `Transport.fill_of_delivers`: what filling a region comes to depends on the
symbols alone, and not on how they were cut.
-/

set_option autoImplicit false

namespace ModbusTcp

/-! ## Symbols -/

/-- What a read reports in place of bytes. -/
inductive Event where
  | timeout
  | endOfStream
  | reset (error : Errno)
  | failure (error : Errno)
  deriving DecidableEq, Repr

/-- The event that a result reports, if it does not report bytes. A success without bytes is a
failure of input and output. -/
def Event.of? (result : IoResult) : Option Event :=
  match result.status with
  | .ok => if result.bytes = 0 then some (.failure .ioError) else none
  | .timeout => some .timeout
  | .endOfStream => some .endOfStream
  | .connectionReset => some (.reset result.error)
  | .error => some (.failure result.error)

theorem Event.of?_of_ok {result : IoResult} (h : result.status = .ok) :
    Event.of? result = if result.bytes = 0 then some (.failure .ioError) else none := by
  rw [of?, h]

/-- Which event a failure is does not depend on the number of bytes beside it. -/
theorem Event.of?_with_bytes {result : IoResult} (h : result.status ≠ .ok) (bytes : Nat) :
    Event.of? { result with bytes } = Event.of? result := by
  -- Only a success looks at the number of bytes, and it is excluded.
  obtain ⟨status, _, error⟩ := result
  rcases status with _ | _ | _ | _ | _
  · exact absurd rfl h
  all_goals rfl

/-- A piece of input. -/
inductive InputSymbol where
  | byte (value : UInt8)
  | event (e : Event)
  deriving DecidableEq, Repr

/-- What taking bytes from the front of an input comes to: the bytes, the event that came before
the last one of them if one did, and what is left of the input. -/
structure Taken where
  bytes : List UInt8
  event : Option Event
  rest : List InputSymbol
  deriving DecidableEq, Repr

namespace InputSymbol

/-- Takes `count` bytes, or those before the first event, and that event. Where the symbols run
out, the input has ended. -/
def take : Nat → List InputSymbol → Taken
  | 0, symbols => ⟨[], none, symbols⟩
  | _ + 1, [] => ⟨[], some .endOfStream, []⟩
  | _ + 1, .event e :: rest => ⟨[], some e, rest⟩
  | count + 1, .byte value :: rest =>
    let taken := take count rest
    { taken with bytes := value :: taken.bytes }

/-- Taking goes through bytes that are there and on behind them. -/
theorem take_append {bytes : List UInt8} {count : Nat} (h : bytes.length ≤ count)
    (symbols : List InputSymbol) :
    take count (bytes.map .byte ++ symbols)
      = { take (count - bytes.length) symbols with
          bytes := bytes ++ (take (count - bytes.length) symbols).bytes } := by
  induction bytes generalizing count with
  | nil => rfl
  | cons byte bytes ih =>
    rw [List.length_cons] at h
    obtain ⟨count, rfl⟩ : ∃ n, count = n + 1 := ⟨count - 1, by omega⟩
    rw [List.map_cons, List.cons_append, take, ih (Nat.le_of_succ_le_succ h), List.length_cons,
      Nat.succ_sub_succ]
    rfl

/-- Taking no more than the bytes that are there. -/
theorem take_of_le {bytes : List UInt8} {count : Nat} (h : count ≤ bytes.length)
    (symbols : List InputSymbol) :
    take count (bytes.map .byte ++ symbols)
      = ⟨bytes.take count, none, (bytes.drop count).map .byte ++ symbols⟩ := by
  -- The bytes that are taken first, then those that stay: the first case of `take_append`.
  have hsplit : bytes.map .byte ++ symbols
      = (bytes.take count).map .byte ++ ((bytes.drop count).map .byte ++ symbols) := by
    rw [← List.append_assoc, ← List.map_append, List.take_append_drop]
  have hlength : (bytes.take count).length = count := List.length_take_of_le h
  rw [hsplit, take_append (Nat.le_of_eq hlength), hlength, Nat.sub_self, take, List.append_nil]

/-- Without an event, all the bytes came. -/
theorem length_of_take {count : Nat} {symbols rest : List InputSymbol} {bytes : List UInt8}
    (h : take count symbols = ⟨bytes, none, rest⟩) : bytes.length = count := by
  induction count generalizing symbols bytes with
  | zero =>
    cases h
    rfl
  | succ count ih =>
    match symbols, h with
    | .byte value :: symbols, h =>
      rw [take] at h
      rcases htaken : take count symbols with ⟨behind, event, left⟩
      rw [htaken] at h
      cases h
      rw [List.length_cons, ih htaken]

/-- What one read with some room may make of an input. -/
inductive Hands (room : Nat) : List InputSymbol → Delivery → List InputSymbol → Prop where
  | ended {d : Delivery} : Event.of? d.result = some .endOfStream → Hands room [] d []
  | event {e : Event} {d : Delivery} {rest : List InputSymbol} :
    Event.of? d.result = some e → Hands room (.event e :: rest) d rest
  | bytes {d : Delivery} {rest : List InputSymbol} :
    d.data ≠ [] → d.data.length ≤ room → d.result.status = .ok → d.result.bytes = d.data.length →
    Hands room (d.data.map .byte ++ rest) d rest

theorem Hands.ofBytes {room : Nat} {bytes : List UInt8} (hempty : bytes ≠ [])
    (hroom : bytes.length ≤ room) (rest : List InputSymbol) :
    Hands room (bytes.map .byte ++ rest) (.ofBytes bytes) rest :=
  Hands.bytes (d := .ofBytes bytes) hempty hroom rfl rfl

end InputSymbol

/-! ## Connections that give an input -/

namespace Transport

open InputSymbol

variable {ρ σ : Type} [Transport ρ σ] {r : ρ} {s : σ} {symbols : List InputSymbol}

/-- One read, whatever its room and its deadline, of a connection that gives the input and then is
as the candidate `R` says. -/
def DeliversStep (r : ρ) (R : σ → List InputSymbol → Prop) (s : σ)
    (symbols : List InputSymbol) : Prop :=
  ∀ room deadline, 0 < room → ∃ d s' rest,
    readSome r room deadline s = some (d, s') ∧ Hands room symbols d rest ∧ R s' rest

/-- The reads of a connection give the input, cut into chunks in any way, and then its end again
and again. -/
def Delivers (r : ρ) (s : σ) (symbols : List InputSymbol) : Prop :=
  ∃ R : σ → List InputSymbol → Prop,
    (∀ s symbols, R s symbols → DeliversStep r R s symbols) ∧ R s symbols

theorem Delivers.coind (R : σ → List InputSymbol → Prop)
    (hR : ∀ s symbols, R s symbols → DeliversStep r R s symbols) (h : R s symbols) :
    Delivers r s symbols := ⟨R, hR, h⟩

/-- After a read the same candidate is a witness for what is left. -/
theorem Delivers.dest (h : Delivers r s symbols) : DeliversStep r (Delivers r) s symbols := by
  obtain ⟨R, hR, hs⟩ := h
  intro room deadline hroom
  obtain ⟨d, s', rest, hread, hhands, hrest⟩ := hR s symbols hs room deadline hroom
  exact ⟨d, s', rest, hread, hhands, R, hR, hrest⟩

end Transport

/-! ## Scripts -/

/-- What an item adds to the input. -/
def ReadItem.symbols : ReadItem → List InputSymbol
  | .data [] => [.event (.failure .ioError)]
  | .data bytes => bytes.map .byte
  | .result played => (Event.of? played).toList.map .event

theorem ReadItem.symbols_data {bytes : List UInt8} (h : bytes ≠ []) :
    (ReadItem.data bytes).symbols = bytes.map .byte := by
  rcases bytes with _ | ⟨byte, bytes⟩
  · exact absurd rfl h
  · rfl

/-- No item reports bytes that it does not hand over. -/
def ReadItem.Honest : ReadItem → Prop
  | .data _ => True
  | .result played => played.status = .ok → played.bytes = 0

instance (item : ReadItem) : Decidable item.Honest :=
  match item with
  | .data _ => inferInstanceAs (Decidable True)
  | .result played => inferInstanceAs (Decidable (played.status = .ok → played.bytes = 0))

theorem Event.exists_of? {result : IoResult} (h : result.status = .ok → result.bytes = 0) :
    ∃ e, Event.of? result = some e := by
  unfold Event.of?
  split
  · exact ⟨_, if_pos (h ‹_›)⟩
  all_goals exact ⟨_, rfl⟩

namespace Script

open InputSymbol

/-- The honest items of a script. -/
def Honest (s : Script) : Prop := ∀ item ∈ s.reads, item.Honest

instance (s : Script) : Decidable s.Honest :=
  inferInstanceAs (Decidable (∀ item ∈ s.reads, item.Honest))

/-- The input that the items of a script hold. -/
def symbols (s : Script) : List InputSymbol := s.reads.flatMap ReadItem.symbols

theorem symbols_of_reads {s : Script} {item : ReadItem} {reads : List ReadItem}
    (h : s.reads = item :: reads) :
    s.symbols = item.symbols ++ ({ s with reads } : Script).symbols := by
  rw [symbols, h, List.flatMap_cons]
  rfl

theorem honest_of_reads {s : Script} {item : ReadItem} {reads : List ReadItem} (hs : s.Honest)
    (h : s.reads = item :: reads) : ({ s with reads } : Script).Honest := by
  intro other hother
  exact hs other (h ▸ List.mem_cons_of_mem item hother)

theorem readSome_data_of_le {s : Script} {bytes : List UInt8} {reads : List ReadItem} {room : Nat}
    (h : s.reads = .data bytes :: reads) (hall : bytes.length ≤ room) :
    s.readSome room = (.ofBytes bytes, { s with reads }) := by
  rw [readSome, h]
  exact if_pos hall

theorem readSome_data_of_lt {s : Script} {bytes : List UInt8} {reads : List ReadItem} {room : Nat}
    (h : s.reads = .data bytes :: reads) (hmore : ¬ bytes.length ≤ room) :
    s.readSome room
      = (.ofBytes (bytes.take room), { s with reads := .data (bytes.drop room) :: reads }) := by
  rw [readSome, h]
  exact if_neg hmore

/-- **A script gives what its items hold.** So any sequence of symbols, in chunks of any lengths, is
what some connection delivers. -/
theorem delivers {s : Script} (hs : s.Honest) : Transport.Delivers () s s.symbols := by
  refine Transport.Delivers.coind (fun s symbols => s.Honest ∧ symbols = s.symbols) ?_ ⟨hs, rfl⟩
  rintro s symbols ⟨hs, rfl⟩ room deadline hroom
  have hread : Transport.readSome () room deadline s = some (s.readSome room) := rfl
  rw [hread]
  rcases h : s.reads with _ | ⟨bytes | played, reads⟩
  · have hend : s.readSome room = (.ofResult .ended, s) := by rw [readSome, h]
    have hnone : s.symbols = [] := by rw [symbols, h, List.flatMap_nil]
    rw [hend, hnone]
    exact ⟨_, s, [], rfl, .ended rfl, hs, hnone.symm⟩
  · have hrest := honest_of_reads hs h
    by_cases hall : bytes.length ≤ room
    · rw [readSome_data_of_le h hall, symbols_of_reads h]
      refine ⟨_, _, _, rfl, ?_, hrest, rfl⟩
      by_cases hempty : bytes = []
      · -- An item without bytes is a success without bytes, and so an event.
        subst hempty
        exact .event rfl
      · rw [ReadItem.symbols_data hempty]
        exact .ofBytes hempty hall _
    · -- The item stays in front, with the bytes that the room did not take.
      have hdrop : bytes.drop room ≠ [] := fun h => hall (List.drop_eq_nil_iff.mp h)
      -- The room is not empty, so neither is the chunk.
      have htake : bytes.take room ≠ [] := by
        rw [ne_eq, List.take_eq_nil_iff]
        rintro (hzero | hempty)
        · exact Nat.ne_of_gt hroom hzero
        · exact hdrop (by rw [hempty, List.drop_nil])
      have hempty : bytes ≠ [] := fun h => hdrop (by rw [h, List.drop_nil])
      have hsymbols : s.symbols = (bytes.take room).map .byte
          ++ ({ s with reads := .data (bytes.drop room) :: reads } : Script).symbols := by
        rw [symbols_of_reads h, symbols_of_reads (s := { s with reads := _ :: reads }) rfl,
          ReadItem.symbols_data hempty, ReadItem.symbols_data hdrop, ← List.append_assoc,
          ← List.map_append, List.take_append_drop]
      rw [readSome_data_of_lt h hall, hsymbols]
      refine ⟨_, _, _, rfl, .ofBytes htake (List.length_take_le ..) _, ?_, rfl⟩
      intro item hitem
      rcases List.mem_cons.mp hitem with rfl | hitem
      · exact trivial
      · exact hrest item hitem
  · have hplayed : (ReadItem.result played).Honest := hs _ (h ▸ List.mem_cons_self)
    obtain ⟨e, he⟩ := Event.exists_of? hplayed
    have hreport : s.readSome room = (.ofResult played, { s with reads }) := by rw [readSome, h]
    rw [hreport, symbols_of_reads h, ReadItem.symbols, he]
    exact ⟨_, _, _, rfl, .event he, honest_of_reads hs h, rfl⟩

end Script

/-! ## Filling a region -/

namespace Transport

open InputSymbol

variable {ρ σ : Type} [Transport ρ σ] {r : ρ} {s : σ} {symbols : List InputSymbol}

/-- How a filling ends of which `count` bytes were done: well, or with the event that came. -/
def Ends (event : Option Event) (count : Nat) (result : IoResult) : Prop :=
  result.bytes = count
    ∧ match event with
      | none => result.status = .ok
      | some e => result.status ≠ .ok ∧ Event.of? result = some e

/-- A filling that went as far as taking from the symbols goes, behind the `filled` bytes of the
region that were there. -/
def Fills (r : ρ) (filled : Nat) (region : List UInt8) (taken : Taken)
    (outcome : Option (IoResult × List UInt8 × σ)) : Prop :=
  ∃ result s', outcome
      = some (result, region.take filled ++ overlay (region.drop filled) taken.bytes, s')
    ∧ Ends taken.event (filled + taken.bytes.length) result ∧ Delivers r s' taken.rest

/-- A read that reports an event ends the filling. -/
theorem fillFrom_of_event {deadline : Deadline} {filled : Nat} {region : List UInt8} {d : Delivery}
    {s' : σ} {e : Event} (hfilled : filled < region.length)
    (hread : readSome r (region.length - filled) deadline s = some (d, s'))
    (he : Event.of? d.result = some e) :
    ∃ result, fillFrom r deadline filled region s = some (result, region, s')
      ∧ Ends (some e) filled result := by
  -- A success is an event only without bytes; the filling then makes up the error itself.
  by_cases hok : d.result.status = .ok
  · rw [Event.of?_of_ok hok] at he
    by_cases hempty : d.result.bytes = 0
    · rw [if_pos hempty] at he
      have hfailed : IoStatus.error ≠ .ok := by decide
      exact ⟨_, fillFrom_of_idle hfilled hread hok hempty, rfl, hfailed, he⟩
    · rw [if_neg hempty] at he
      exact absurd he.symm (Option.some_ne_none e)
  · exact ⟨_, fillFrom_of_failed hfilled hread hok, rfl, hok,
      (Event.of?_with_bytes hok filled).trans he⟩

/-- A read that hands bytes over takes the filling on by as many. -/
theorem fillFrom_of_bytes {deadline : Deadline} {filled : Nat} {region : List UInt8} {d : Delivery}
    {s' : σ} (hfilled : filled < region.length)
    (hread : readSome r (region.length - filled) deadline s = some (d, s')) (hdata : d.data ≠ [])
    (hroom : d.data.length ≤ region.length - filled) (hok : d.result.status = .ok)
    (hbytes : d.result.bytes = d.data.length) :
    fillFrom r deadline filled region s
      = fillFrom r deadline (filled + d.data.length)
          (region.take filled ++ overlay (region.drop filled) d.data) s' := by
  have hpositive : 0 < d.data.length := List.length_pos_iff.mpr hdata
  have hnext : filledAfter filled (region.length - filled) d.result.bytes
      = filled + d.data.length := by
    rw [filledAfter, hbytes, if_pos hroom]
  rw [fillFrom_of_more hfilled hread hok (by omega), hnext]

/-- **What a filling comes to depends on the symbols alone.** The induction is on the bytes that are
missing; the invariant is that the connection gives the symbols left and that the first `filled`
bytes of the region stay. -/
theorem fillFrom_of_delivers {filled : Nat} {region : List UInt8} (h : Delivers r s symbols)
    (hfilled : filled ≤ region.length) (deadline : Deadline) :
    Fills r filled region (take (region.length - filled) symbols)
      (fillFrom r deadline filled region s) := by
  generalize hmissing : region.length - filled = missing
  induction missing using Nat.strongRecOn generalizing filled region s symbols with
  | ind missing ih =>
    by_cases hfull : missing = 0
    · subst hfull
      have hend : ¬ filled < region.length := by omega
      refine ⟨.transferred filled, s, ?_, ⟨rfl, rfl⟩, h⟩
      rw [fillFrom_of_full hend, take, overlay_nil, List.take_append_drop]
    · have hfilled : filled < region.length := by omega
      obtain ⟨d, s', rest, hread, hhands, hrest⟩ :=
        h.dest (region.length - filled) deadline (by omega)
      -- At an event both the filling and the taking stop.
      have hstop : ∀ e, Event.of? d.result = some e → take missing symbols = ⟨[], some e, rest⟩ →
          Fills r filled region (take missing symbols)
            (fillFrom r deadline filled region s) := by
        intro e he htake
        obtain ⟨result, hfill, hends⟩ := fillFrom_of_event hfilled hread he
        rw [Fills, htake, overlay_nil, List.take_append_drop]
        exact ⟨result, s', hfill, hends, hrest⟩
      obtain ⟨count, rfl⟩ : ∃ count, missing = count + 1 := ⟨missing - 1, by omega⟩
      rcases hhands with he | he | ⟨hdata, hroom, hok, hbytes⟩
      · exact hstop _ he rfl
      · exact hstop _ he rfl
      · -- Fewer bytes are missing after a chunk, because it is not empty.
        have hpositive : 0 < d.data.length := List.length_pos_iff.mpr hdata
        have hhead : (region.take filled).length = filled :=
          List.length_take_of_le (Nat.le_of_lt hfilled)
        have htail : (region.drop filled).length = region.length - filled := List.length_drop
        generalize hstored : region.take filled ++ overlay (region.drop filled) d.data = stored
        have hlength : stored.length = region.length := by
          rw [← hstored, List.length_append, length_overlay, hhead, htail]
          omega
        have hnext : filled + d.data.length ≤ stored.length := by omega
        have hleft : stored.length - (filled + d.data.length) = count + 1 - d.data.length := by
          omega
        obtain ⟨result, s'', hfill, hends, hdelivers⟩ := ih _ (by omega) hrest hnext hleft
        rw [fillFrom_of_bytes hfilled hread hdata hroom hok hbytes, hstored, hfill,
          take_append (by omega)]
        refine ⟨result, s'', ?_, ?_, hdelivers⟩
        · rw [← overlay_overlay (Nat.le_of_lt hfilled) (by omega), hstored]
        · rw [List.length_append, ← Nat.add_assoc]
          exact hends

/-- The same for a whole region. -/
theorem fill_of_delivers (h : Delivers r s symbols) (deadline : Deadline) (region : List UInt8) :
    ∃ result s', fill r deadline region s
        = some (result, overlay region (take region.length symbols).bytes, s')
      ∧ Ends (take region.length symbols).event (take region.length symbols).bytes.length result
      ∧ Delivers r s' (take region.length symbols).rest := by
  obtain ⟨result, s', hfill, hends, hrest⟩ :=
    fillFrom_of_delivers h (Nat.zero_le region.length) deadline
  rw [Nat.zero_add] at hends
  exact ⟨result, s', hfill, hends, hrest⟩

end Transport

end ModbusTcp
