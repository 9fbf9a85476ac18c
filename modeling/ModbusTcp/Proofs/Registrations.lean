import ModbusTcp.Proofs.Filling
import ModbusTcp.Proofs.Rejection

/-!
The table of variants is what its last registrations made it.

A table is built by registrations (`RegisterRequest`, `RegisterResponse`), one after the other, each
for one code of one role. The standard table is no exception: it is the empty table after the
registrations of the protocol (`standard_eq_recordAll`). So every table has a history, and what it
creates (`CreateRequest`, `CreateResponse`) for a code of a role is a matter of the last
registration for that code of that role alone (`lookup_recordAll`). If it made no usable entry, a
message stands in that can read any frame of its role; what was registered before does not come
back.

A channel asks its table for the eighth byte of a frame. The message that comes may name a function
code of its own, but it is decoded from the frame, and takes over the code that stands there
(`code_of_decodeFrame`). The main statement is `create_takes_last_registration`.
-/

set_option autoImplicit false

namespace ModbusTcp

/-! ## Histories of a table -/

/-- An entry that is made for a code of a role. -/
inductive Registration where
  | request (code : UInt8) (entry : VariantEntry .request)
  | response (code : UInt8) (entry : VariantEntry .response)
  deriving DecidableEq, Repr

/-- The entry that a registration makes for a code of a role, if it is about that one. -/
def Registration.entryFor? : Registration → (role : Role) → UInt8 → Option (VariantEntry role)
  | .request code entry, .request, asked => if asked = code then some entry else none
  | .response code entry, .response, asked => if asked = code then some entry else none
  | .request _ _, .response, _ => none
  | .response _ _, .request, _ => none

/-- The entries that some registrations make for a code of a role, in order. -/
def entriesFor (registrations : List Registration) (role : Role) (code : UInt8) :
    List (VariantEntry role) :=
  registrations.filterMap fun x => x.entryFor? role code

namespace VariantTable

/-- The table after a registration. -/
def record (t : VariantTable) : Registration → VariantTable
  | .request code entry => t.register code entry
  | .response code entry => t.register code entry

/-- The table after some registrations. -/
def recordAll (t : VariantTable) (registrations : List Registration) : VariantTable :=
  registrations.foldl record t

/-- The registrations that make the standard table. -/
def protocol : List Registration :=
  ([1, 2].flatMap fun code =>
    [.request code (.builds (.readBitsRequest code 0 0)),
      .response code (.builds (.readBitsResponse code []))])
  ++ ([3, 4].flatMap fun code =>
    [.request code (.builds (.readRegistersRequest code 0 0)),
      .response code (.builds (.readRegistersResponse code []))])
  ++ ([5, 6].map fun code => .response code (.builds (.writeSingleResponse code 0 0)))
  ++ ([15, 16].map fun code => .response code (.builds (.writeMultipleResponse code 0 0)))
  ++ [.request 5 (.builds (.writeCoilRequest 0 false)),
    .request 6 (.builds (.writeRegisterRequest 0 0)),
    .request 15 (.builds (.writeCoilsRequest 0 [])),
    .request 16 (.builds (.writeRegistersRequest 0 []))]

/-- The tables to start from. -/
inductive Base where
  | empty
  | standard
  deriving DecidableEq, Repr

def Base.table : Base → VariantTable
  | .empty => VariantTable.empty
  | .standard => VariantTable.standard

/-- The registrations that a base has behind it. -/
def Base.registrations : Base → List Registration
  | .empty => []
  | .standard => protocol

/-! ## The last registration counts -/

section Lookup

variable {role : Role} {code : UInt8}

/-- **One registration.** It puts its entry in the place of the one before, and leaves the entries
of other codes and of the other role. -/
theorem lookup_record (t : VariantTable) (x : Registration) :
    (t.record x).lookup role code = (x.entryFor? role code).getD (t.lookup role code) := by
  cases x <;> cases role
  case request.response | response.request => rfl
  all_goals
    simp only [record, register, lookup, Registration.entryFor?]
    split <;> rfl

/-- **Any number of registrations.** The induction is on the registrations from the first one on:
the table that it leaves is the one that the others start from. -/
theorem lookup_recordAll (t : VariantTable) (registrations : List Registration) :
    (t.recordAll registrations).lookup role code
      = (entriesFor registrations role code).getLast?.getD (t.lookup role code) := by
  induction registrations generalizing t with
  | nil => rfl
  | cons x registrations ih =>
    have hfirst : entriesFor (x :: registrations) role code
        = (x.entryFor? role code).toList ++ entriesFor registrations role code := by
      rw [entriesFor, List.filterMap_cons]
      cases x.entryFor? role code <;> rfl
    have hstep : t.recordAll (x :: registrations) = (t.record x).recordAll registrations := rfl
    rw [hstep, ih, lookup_record, hfirst, List.getLast?_append]
    cases (entriesFor registrations role code).getLast? <;> cases x.entryFor? role code <;> rfl

/-- The standard table has for every code what the registrations of the protocol made. -/
theorem lookup_standard (role : Role) (code : UInt8) :
    standard.lookup role code = (empty.recordAll protocol).lookup role code := by
  -- There are 256 codes, and both sides can be computed.
  obtain ⟨⟨code⟩⟩ := code
  revert code
  cases role <;> decide +kernel

/-- The standard table is made by registrations as any other. -/
theorem standard_eq_recordAll : standard = empty.recordAll protocol := by
  have hrequests : standard.requests = (empty.recordAll protocol).requests :=
    funext (lookup_standard .request)
  have hresponses : standard.responses = (empty.recordAll protocol).responses :=
    funext (lookup_standard .response)
  generalize empty.recordAll protocol = t at hrequests hresponses
  cases t
  cases hrequests
  cases hresponses
  rfl

/-- So every table is the empty one after all registrations, those of its base coming first. -/
theorem recordAll_base (base : Base) (later : List Registration) :
    base.table.recordAll later = empty.recordAll (base.registrations ++ later) := by
  rw [recordAll, recordAll, List.foldl_append]
  cases base with
  | empty => rfl
  | standard => rw [Base.table, standard_eq_recordAll]; rfl

/-- A registration for another code or for the other role makes no entry for this one. -/
theorem entriesFor_filter (registrations : List Registration) (role : Role) (code : UInt8) :
    entriesFor (registrations.filter fun x => (x.entryFor? role code).isSome) role code
      = entriesFor registrations role code := by
  rw [entriesFor, entriesFor, List.filterMap_filter]
  congr 1
  funext x
  cases x.entryFor? role code <;> rfl

end Lookup

/-! ## What a table creates -/

/-- The message that stands in for a code without a usable entry: a request of an illegal function,
an exception if the code has the mark of one, and else an answer of an unsupported function. Its
function code is the code itself. -/
def standIn : (role : Role) → UInt8 → Message role
  | .request, code => { code, payload := .illegalFunction [] }
  | .response, code =>
    if 0x80 ≤ code then { code, payload := .exception 0 }
    else { code, payload := .unsupportedFunction [] }

/-- What a history comes to for a code of a role: the message that its last registration builds. If
there is none, or it builds nothing, a message stands in, whatever was registered before. -/
def settled (history : List Registration) (role : Role) (code : UInt8) : Message role :=
  match (entriesFor history role code).getLast? with
  | some (.builds message) => message
  | some .absent | some .barren | none => standIn role code

theorem placeholder_eq_standIn (role : Role) (code : UInt8) :
    placeholder role code = standIn role code := by
  cases role with
  | request => rfl
  | response =>
    rw [placeholder, standIn]
    by_cases hmark : 0x80 ≤ code
    · -- The mark is taken off the code and put back.
      have hcode : FunctionCode.marked (FunctionCode.function code) = code := by
        obtain ⟨⟨code⟩⟩ := code
        revert code
        decide +kernel
      rw [if_pos ((FunctionCode.isException_iff code).mpr hmark), if_pos hmark,
        Message.exceptionResponse, hcode]
      rfl
    · rw [if_neg (mt (FunctionCode.isException_iff code).mp hmark), if_neg hmark]
      rfl

/-- **A table creates what its history comes to.** -/
theorem create_recordAll (base : Base) (later : List Registration) (role : Role) (code : UInt8) :
    (base.table.recordAll later).create role code
      = settled (base.registrations ++ later) role code := by
  have hempty : empty.lookup role code = .absent := by cases role <;> rfl
  rw [create, recordAll_base, lookup_recordAll, hempty, settled, placeholder_eq_standIn]
  rcases (entriesFor (base.registrations ++ later) role code).getLast? with _ | _ | _ | message
  all_goals rfl

/-- So only the registrations for the code of the role matter. -/
theorem create_filter (base : Base) (later : List Registration) (role : Role) (code : UInt8) :
    (base.table.recordAll (later.filter fun x => (x.entryFor? role code).isSome)).create role code
      = (base.table.recordAll later).create role code := by
  have hsame : entriesFor
      (base.registrations ++ later.filter fun x => (x.entryFor? role code).isSome) role code
      = entriesFor (base.registrations ++ later) role code := by
    have hlater := entriesFor_filter later role code
    simp only [entriesFor, List.filterMap_append] at hlater ⊢
    rw [hlater]
  rw [create_recordAll, create_recordAll, settled, settled, hsame]

end VariantTable

/-! ## What a decoded message has of the one that was created -/

/-- A payload stays of its variant, whatever it is parsed from and however that ends. -/
theorem Payload.variant_parse {role : Role} (old : Payload role) (size : Nat)
    (unread : List UInt8) : (old.parse size unread).value.variant = old.variant := by
  cases old with
  | readBits | readRegisters | writeRegister | wroteSingle | wroteMultiple =>
    rw [parse, parseWords]
    split <;> rfl
  | writeCoil =>
    rw [parse, parseCoil]
    split
    · split <;> rfl
    · rfl
  | writeCoils | writeRegisters | bits | registers =>
    -- Too short for the count, in agreement with it, or not.
    simp only [parse, parseCoils, parseRegisters, parsePacked, parseValues]
    split
    · rfl
    · split <;> rfl
  | exception =>
    rw [parse, parseException]
    split <;> rfl
  | illegalFunction | unsupportedFunction => rfl
  | custom data reading =>
    rw [parse, parseCustom]
    split <;> rfl

namespace Message

variable {role : Role}

theorem value_parsePayload (m : Message role) (header : Header) (code : UInt8) (size : Nat)
    (rest : List UInt8) :
    (m.parsePayload header code size rest).value
      = { header, code, payload := (m.payload.parse size rest).value } := by
  rw [parsePayload]
  split
  · rfl
  · split <;> rfl

/-- **A decoded message has the function code of its frame,** whatever its own was before, and is of
the variant that it was. -/
theorem code_parse {m : Message role} {unread : List UInt8}
    (hok : (m.parse unread).outcome = .ok ()) :
    (m.parse unread).value.code = byteAt unread 7
      ∧ (m.parse unread).value.variant = m.variant := by
  rw [parse_of_announced (announced_of_parse hok), value_parsePayload]
  exact ⟨rfl, m.payload.variant_parse _ _⟩

end Message

/-! ## What a channel reads -/

namespace Transport

variable {ρ σ : Type} [Transport ρ σ] {r : ρ} {s s' s'' : σ}

theorem Exchanges.append {reads reads' : List Exchange} (h : Exchanges r s reads s')
    (h' : Exchanges r s' reads' s'') : Exchanges r s (reads ++ reads') s'' := by
  induction h with
  | none => exact h'
  | one hread _ ih => exact .one hread (ih h')

theorem KeepsContract.of_exchanges {reads : List Exchange} (hs : KeepsContract r s)
    (h : Exchanges r s reads s') : KeepsContract r s' := by
  induction h with
  | none => exact hs
  | one hread _ ih => exact ih (hs.behind hread)

/-- A region that was filled consists of the bytes that the reads brought. -/
theorem brought_of_fill (hs : KeepsContract r s) {deadline : Deadline} {region region' : List UInt8}
    {result : IoResult} (h : fill r deadline region s = some (result, region', s'))
    (hok : result.status = .ok) :
    ∃ reads, Exchanges r s reads s' ∧ broughtBy reads = region' := by
  rcases fillFrom_takes_missing hs (Nat.zero_le region.length) deadline with
    ⟨reads, result₁, s₁, hfill, hreads, hfilling⟩ | ⟨hfill, -⟩
  · rw [fill, hfill] at h
    cases h
    refine ⟨reads, hreads, ?_⟩
    have hwithin := hfilling.within
    have hall : (broughtBy reads).length = region.length := by
      apply Decidable.byContradiction
      intro hmissing
      -- A filling that stopped early is no success.
      obtain ⟨front, x, -, -, hresult⟩ := hfilling.stopped (by omega)
      have hfailed := x.isOk_ending (0 + (broughtBy reads).length)
      rw [← hresult, IoResult.isOk, hok] at hfailed
      cases hfailed
    rw [List.take_zero, List.nil_append, List.drop_zero, overlay_of_length_eq hall]
  · rw [fill, hfill] at h
    cases h

end Transport

namespace Channel

open Transport

variable {ρ σ : Type} [Transport ρ σ] {r : ρ} {c c' : Channel ρ} {b b' : FrameBuffer} {s s' : σ}
  {role : Role}

/-- **A frame that was read consists of the bytes that the reads brought.** -/
theorem brought_of_readFrame (hs : KeepsContract r s) (hcapacity : b.capacity = 260)
    {deadline : Deadline} (h : readFrame r deadline b s = some (.ok (), b', s')) :
    ∃ reads, Exchanges r s reads s' ∧ broughtBy reads = b'.valid := by
  rcases readFrame_cases hcapacity h with ⟨f, hfailed, -⟩ | ⟨-, head, body, hfilled⟩
  · cases hfailed
  · obtain ⟨result, s₁, result', hhead, hok, hbody, hok'⟩ := hfilled.fillings
    obtain ⟨reads, hreads, hbrought⟩ := brought_of_fill hs hhead hok
    obtain ⟨reads', hreads', hbrought'⟩ := brought_of_fill (hs.of_exchanges hreads) hbody hok'
    refine ⟨reads ++ reads', hreads.append hreads', ?_⟩
    rw [FrameBuffer.valid_eq_unread hfilled.position, hfilled.unread, ← hbrought, ← hbrought']
    exact List.flatMap_append

/-- A message that was decoded has the code of its frame, and is of the variant that the table has
for this code. The frame stays in the buffer. -/
theorem code_of_decodeFrame (hb : FrameIn b) {table : VariantTable} {m : Message role}
    (h : decodeFrame table role b = (.ok m, b')) :
    b'.valid = b.valid ∧ 8 ≤ b.valid.length ∧ m.code = byteAt b.valid 7
      ∧ m.variant = (table.create role (byteAt b.valid 7)).variant := by
  have hvalid : b.valid = b.unread := FrameBuffer.valid_eq_unread hb.position
  have hlong : 8 ≤ b.valid.length := by
    have hlength := hb.length
    have hcode := hb.code
    rw [hvalid]
    omega
  have hpeek : b.peek? Frame.codeOffset = some (byteAt b.valid 7) := by
    rw [FrameBuffer.peek?_eq, Frame.codeOffset, byteAt, List.getD_eq_getElem?_getD,
      List.getElem?_eq_getElem (show 7 < b.valid.length by omega), Option.getD_some]
  rw [decodeFrame, hpeek] at h
  simp only [Message.decode_eq hb.formed, Parsed.behind] at h
  split at h
  · cases h
  · rename_i hok
    cases h
    obtain ⟨hcode, hvariant⟩ := Message.code_parse hok
    -- Decoding moves the cursor, which does not change what is valid.
    refine ⟨rfl, hlong, ?_, hvariant⟩
    rw [hcode, hvalid]

/-- What a successful read shows for its message: a frame, still in the buffer, whose eighth byte is
the message's function code, and for which the table has the message's variant. From a connection
that keeps its contract, the frame consists of just the bytes that the reads brought. -/
structure ReadFrom (c : Channel ρ) (r : ρ) (s : σ) (m : Message role) (c' : Channel ρ) (s' : σ)
    (frame : List UInt8) : Prop where
  held : ∃ b, c'.buffer = some b ∧ b.valid = frame
  long : 8 ≤ frame.length
  code : m.code = byteAt frame 7
  variant : m.variant = (c.table.create role (byteAt frame 7)).variant
  brought : KeepsContract r s → ∃ reads, Exchanges r s reads s' ∧ broughtBy reads = frame

theorem exists_readFrom (hc : c.BoundTo r) {start : Instant} {m : Message role}
    (h : c.read role start s = some (.ok m, c', s')) :
    ∃ frame, c.ReadFrom r s m c' s' frame := by
  obtain ⟨hr, b, hb, hcapacity⟩ := hc
  rw [read_eq_readFrame hr hb] at h
  obtain ⟨⟨outcome, b₁, s₁⟩, hframe, h⟩ := Option.map_eq_some_iff.mp h
  rcases outcome with e | done
  · cases h
  · have hdecode : decodeRead c.table role (.ok done) b₁ = decodeFrame c.table role b₁ := rfl
    rcases hdecoded : decodeFrame c.table role b₁ with ⟨outcome, b₂⟩
    simp only [hdecode, hdecoded] at h
    cases h
    have hin : FrameIn b₁ := (frameOutcome_of_readFrame hcapacity hframe).framed rfl
    obtain ⟨hkept, hlong, hcode, hvariant⟩ := code_of_decodeFrame hin hdecoded
    exact ⟨b₁.valid, ⟨b₂, rfl, hkept⟩, hlong, hcode, hvariant,
      fun hs => brought_of_readFrame hs hcapacity hframe⟩

end Channel

/-! ## The main statement -/

namespace VariantTable

open Transport

/-- **The last registration counts.** Take the empty or the standard table and any registrations
behind it, of entries that build a message, build nothing or are none. What the table creates for
any code of any role is the message of the last registration for that code of that role, those of
the base coming first; if there is none or it builds nothing, it is the message that stands in for
the code. Registrations for other codes or for the other role can be left out. And whatever message
a channel gets from the table, a message that it has read has the eighth byte of its frame as
function code. -/
theorem create_takes_last_registration (base : Base) (later : List Registration) (role : Role)
    (code : UInt8) :
    let table := base.table.recordAll later
    table.create role code = settled (base.registrations ++ later) role code
      ∧ (base.table.recordAll
          (later.filter fun x => (x.entryFor? role code).isSome)).create role code
        = table.create role code
      ∧ ∀ {ρ σ : Type} [Transport ρ σ] {c c' : Channel ρ} {r : ρ} {s s' : σ} {start : Instant}
          {m : Message role},
        c.table = table → c.BoundTo r → c.read role start s = some (.ok m, c', s') →
        ∃ frame, c.ReadFrom r s m c' s' frame := by
  intro table
  refine ⟨create_recordAll base later role code, create_filter base later role code, ?_⟩
  intro ρ σ _ c c' r s s' start m _ hc hread
  exact Channel.exists_readFrom hc hread

/-- Two registrations for a code that the protocol does not know, of which the second builds a
message with another function code; and one that builds nothing for a code that the protocol does
know. A channel with this table reads a frame that comes in two chunks. -/
theorem create_takes_last_registration_overwritten :
    let custom : Message .request := { code := 0x99, payload := .custom [] {} }
    let later : List Registration :=
      [.request 0x41 (.builds custom), .request 3 .barren,
        .request 0x41 (.builds (.readRegistersRequest 3 0 0)), .response 0x41 .absent]
    let table := Base.standard.table.recordAll later
    let c : Channel Unit := ({ table } : Channel Unit).attach ()
    let s : Script :=
      { reads := [.data [0, 1, 0, 0, 0], .data [6, 0x11, 0x41, 0, 0x6B, 0, 3, 0xFF]] }
    let m : Message .request := ⟨⟨1, 0, 0x11⟩, 0x41, .readRegisters 0x6B 3⟩
    table.create .request 0x41 = .readRegistersRequest 3 0 0
      ∧ table.create .request 3 = .illegalFunctionRequest 3
      ∧ c.BoundTo () ∧ KeepsContract () s
      ∧ ∃ c' s' reads, c.read .request ⟨0⟩ s = some (.ok m, c', s') ∧ Exchanges () s reads s'
        ∧ byteAt (broughtBy reads) 7 = 0x41 := by
  intro custom later table c s m
  obtain ⟨hcode, -, hchannel⟩ := create_takes_last_registration .standard later .request 0x41
  obtain ⟨hplaceholder, -⟩ := create_takes_last_registration .standard later .request 3
  have hc : c.BoundTo () := Channel.boundTo_attach _ ()
  have hhonest : s.Honest := by decide
  have hs : KeepsContract () s := Script.keepsContract hhonest
  obtain ⟨outcome, b', s', hread, houtcome, -⟩ :=
    Channel.read_of_delivers hc (Script.delivers hhonest) .request ⟨0⟩
  have hstep : (Framing.step c.table .request s.symbols).1 = .ok m := by rfl
  rw [hstep] at houtcome
  rcases outcome with e | _
  · cases houtcome
  · cases houtcome
    obtain ⟨frame, hfrom⟩ := hchannel rfl hc hread
    obtain ⟨reads, hreads, hbrought⟩ := hfrom.brought hs
    refine ⟨hcode, hplaceholder, hc, hs, _, s', reads, hread, hreads, ?_⟩
    rw [hbrought, ← hfrom.code]

end VariantTable

end ModbusTcp
