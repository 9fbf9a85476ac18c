import ModbusTcp.Proofs.Framing

/-!
The requests at the front of an input.

A message is read off the front of the input (`Framing.frame_cases`), and only a timeout before the
first byte of a frame is reported as such (`Framing.eq_idle_of_step`): nothing else was taken from
the input then. `Framing.requests` passes over these timeouts and reads one request after the other,
up to the first thing that is no request. It says so over the symbols alone, with no connection, and
keeps with each request the input behind it.
-/

set_option autoImplicit false

namespace ModbusTcp

open InputSymbol
open VariantTable (standard)

/-- Taking that no event stops leaves what stands behind the bytes. -/
theorem InputSymbol.eq_append_of_take {count : Nat} {symbols rest : List InputSymbol}
    {bytes : List UInt8} (h : take count symbols = ⟨bytes, none, rest⟩) :
    symbols = bytes.map .byte ++ rest := by
  induction count generalizing symbols bytes with
  | zero =>
    cases h
    rfl
  | succ count ih =>
    match symbols, h with
    | .byte value :: symbols, h =>
      rw [take] at h
      rcases htaken : take count symbols with ⟨behind, event, left⟩
      rw [htaken] at h
      cases h
      rw [ih htaken]
      rfl

/-- An event before the first byte stands at the front of the input, or the input has ended. -/
theorem InputSymbol.eq_cons_of_take {count : Nat} {symbols rest : List InputSymbol} {e : Event}
    (h : take count symbols = ⟨[], some e, rest⟩) :
    symbols = .event e :: rest ∨ e = .endOfStream := by
  match count, symbols, h with
  | 0, _, h => exact nomatch h
  | _ + 1, [], h =>
    cases h
    exact .inr rfl
  | _ + 1, .event _ :: _, h =>
    cases h
    exact .inl rfl
  | _ + 1, .byte _ :: _, h => exact nomatch h

namespace Framing

variable {table : VariantTable} {role : Role} {symbols rest : List InputSymbol}

/-- What reading a frame comes to: the header breaks off, the length field is refused, the body
breaks off, or there is a frame, and it stood at the front of the input. -/
theorem frame_cases {outcome : Except Status (List UInt8)} (h : frame symbols = (outcome, rest)) :
    (∃ head e, take 6 symbols = ⟨head, some e, rest⟩ ∧ outcome = .error (headBroken head.length e))
    ∨ (∃ text, outcome = .error (failed text))
    ∨ (∃ count length e, outcome = .error (bodyBroken count length e))
    ∨ ∃ bytes, outcome = .ok bytes ∧ symbols = bytes.map .byte ++ rest ∧ 6 ≤ bytes.length := by
  unfold frame at h
  rcases hhead : take 6 symbols with ⟨head, event | e, behind⟩
  · rw [hhead] at h
    simp only at h
    split at h
    · cases h
      exact .inr (.inl ⟨_, rfl⟩)
    · unfold body at h
      simp only at h
      rcases hbody : take (wordAt head 4).toNat behind with ⟨bytes, event | e, left⟩
      · -- A body without a function code is refused as one that is too long is.
        rw [hbody] at h
        simp only at h
        split at h
        · cases h
          exact .inr (.inl ⟨_, rfl⟩)
        · cases h
          have hlength : head.length = 6 := length_of_take hhead
          refine .inr (.inr (.inr ⟨head ++ bytes, rfl, ?_, ?_⟩))
          · rw [eq_append_of_take hhead, eq_append_of_take hbody, List.map_append,
              List.append_assoc]
          · rw [List.length_append, hlength]
            exact Nat.le_add_right 6 _
      · rw [hbody] at h
        cases h
        exact .inr (.inr (.inl ⟨_, _, _, rfl⟩))
  · rw [hhead] at h
    cases h
    exact .inl ⟨head, e, rfl, rfl⟩

/-- A frame that was read stood at the front of the input. -/
theorem eq_append_of_frame {bytes : List UInt8} (h : frame symbols = (.ok bytes, rest)) :
    symbols = bytes.map .byte ++ rest ∧ 6 ≤ bytes.length := by
  obtain ⟨_, _, _, h⟩ | ⟨_, h⟩ | ⟨_, _, _, h⟩ | ⟨bytes', h, hsymbols, hsix⟩ := frame_cases h
  · cases h
  · cases h
  · cases h
  · cases h
    exact ⟨hsymbols, hsix⟩

/-- Reading a message uses up some of the input. -/
theorem length_rest_lt {m : Message role} (h : step table role symbols = (.ok m, rest)) :
    rest.length < symbols.length := by
  rcases hframe : frame symbols with ⟨status | bytes, behind⟩
  · rw [step_of_failed hframe] at h
    exact nomatch h
  · rw [step_of_framed hframe] at h
    cases (Prod.mk.inj h).2
    obtain ⟨hsymbols, hsix⟩ := eq_append_of_frame hframe
    rw [hsymbols, List.length_append, List.length_map]
    omega

/-- A timeout before the first byte of a frame takes nothing else from the input. -/
theorem step_idle (table : VariantTable) (role : Role) (rest : List InputSymbol) :
    step table role (.event .timeout :: rest) = (.error (headBroken 0 .timeout), rest) := rfl

/-- A report of a timeout between two frames. -/
def Idle (status : Status) : Prop := status.outcome = .connectionClosed ∧ status.timedOut

instance (status : Status) : Decidable (Idle status) :=
  inferInstanceAs (Decidable (_ ∧ _))

theorem not_idle_failed (text : String) : ¬ Idle (failed text) := fun h => nomatch h.1

theorem not_idle_bodyBroken (count : Nat) (length : UInt16) (e : Event) :
    ¬ Idle (bodyBroken count length e) := by
  rintro ⟨hclosed, _⟩
  cases e <;> exact nomatch hclosed

/-- Only before the first byte is an event reported as the end of the connection. -/
theorem eq_timeout_of_idle {count : Nat} {e : Event} (h : Idle (headBroken count e)) :
    count = 0 ∧ e = .timeout := by
  obtain ⟨hclosed, htimeout⟩ := h
  cases count with
  | zero =>
    cases e with
    | timeout => exact ⟨rfl, rfl⟩
    | endOfStream => exact nomatch htimeout
    | reset error => exact nomatch htimeout
    | failure error => exact nomatch hclosed
  | succ count => cases e <;> exact nomatch hclosed

/-- No other failure is reported as a timeout between two frames. -/
theorem eq_idle_of_frame {status : Status} (h : frame symbols = (.error status, rest))
    (hidle : Idle status) : symbols = .event .timeout :: rest := by
  obtain ⟨head, e, hhead, h⟩ | ⟨text, h⟩ | ⟨count, length, e, h⟩ | ⟨_, h, _⟩ := frame_cases h
  · cases h
    obtain ⟨hempty, rfl⟩ := eq_timeout_of_idle hidle
    rw [List.length_eq_zero_iff] at hempty
    subst hempty
    rcases eq_cons_of_take hhead with hsymbols | hend
    · exact hsymbols
    · cases hend
  · cases h
    exact absurd hidle (not_idle_failed text)
  · cases h
    exact absurd hidle (not_idle_bodyBroken count length e)
  · cases h

theorem eq_idle_of_step {status : Status} (h : step table role symbols = (.error status, rest))
    (hidle : Idle status) : symbols = .event .timeout :: rest := by
  rcases hframe : frame symbols with ⟨status' | bytes, behind⟩
  · rw [step_of_failed hframe] at h
    cases h
    exact eq_idle_of_frame hframe hidle
  · -- What is wrong with a frame that is there is no matter of the connection.
    rw [step_of_framed hframe, message] at h
    split at h
    · cases h
      exact absurd hidle (not_idle_failed _)
    · cases h

/-- The requests at the front of an input, each with the input behind it, and the input behind the
first thing that is neither a request nor a timeout between two frames. -/
def requests (symbols : List InputSymbol) :
    List (Message .request × List InputSymbol) × List InputSymbol :=
  match symbols with
  | .event .timeout :: rest => requests rest
  | symbols =>
    match h : step standard .request symbols with
    | (.error _, rest) => ([], rest)
    | (.ok request, rest) =>
      have : rest.length < symbols.length := length_rest_lt h
      ((request, rest) :: (requests rest).1, (requests rest).2)
termination_by symbols.length

theorem requests_idle (rest : List InputSymbol) :
    requests (.event .timeout :: rest) = requests rest := by
  rw [requests]

theorem requests_of_read {request : Message .request}
    (h : step standard .request symbols = (.ok request, rest)) :
    requests symbols = ((request, rest) :: (requests rest).1, (requests rest).2) := by
  rw [requests.eq_def]
  split
  · rw [step_idle] at h
    exact nomatch h
  · split
    · rename_i hstep
      rw [h] at hstep
      exact nomatch hstep
    · rename_i hstep
      rw [h] at hstep
      cases hstep
      rfl

theorem requests_of_failed {status : Status}
    (h : step standard .request symbols = (.error status, rest)) (hidle : ¬ Idle status) :
    requests symbols = ([], rest) := by
  rw [requests.eq_def]
  split
  · rw [step_idle] at h
    cases h
    exact absurd ⟨rfl, rfl⟩ hidle
  · split
    · rename_i hstep
      rw [h] at hstep
      cases hstep
      rfl
    · rename_i hstep
      rw [h] at hstep
      exact nomatch hstep

end Framing

end ModbusTcp
