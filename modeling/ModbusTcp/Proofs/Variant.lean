import ModbusTcp.Message.Table

/-!
Which variant a message is of.

A payload is a variant together with the values of its fields. `Payload.variant` forgets the
values; two messages of one variant take the same bytes apart in the same way, whatever they held
before. `variant_create_request` and `variant_create_response` list the variant that the table of
the protocol has for each function code, so that a proof about a code never opens the table.
-/

set_option autoImplicit false

namespace ModbusTcp

/-- The variants of a message. How a variant of the user's own reads is part of what it is. -/
inductive Variant where
  | readBits
  | readRegisters
  | writeCoil
  | writeRegister
  | writeCoils
  | writeRegisters
  | illegalFunction
  | bits
  | registers
  | wroteSingle
  | wroteMultiple
  | exception
  | unsupportedFunction
  | custom (reading : CustomReading)
  deriving DecidableEq, Repr

/-- The variant of a payload, without the values of its fields. -/
def Payload.variant {role : Role} : Payload role → Variant
  | .readBits _ _ => .readBits
  | .readRegisters _ _ => .readRegisters
  | .writeCoil _ _ => .writeCoil
  | .writeRegister _ _ => .writeRegister
  | .writeCoils _ _ => .writeCoils
  | .writeRegisters _ _ => .writeRegisters
  | .illegalFunction _ => .illegalFunction
  | .bits _ => .bits
  | .registers _ => .registers
  | .wroteSingle _ _ => .wroteSingle
  | .wroteMultiple _ _ => .wroteMultiple
  | .exception _ => .exception
  | .unsupportedFunction _ => .unsupportedFunction
  | .custom _ reading => .custom reading

/-- Whether a variant is one of the library's and not of the user's own. -/
def Variant.IsLibrary (v : Variant) : Prop := ∀ reading, v ≠ .custom reading

namespace Message

variable {role : Role}

/-- The variant of a message. -/
def variant (m : Message role) : Variant := m.payload.variant

end Message

/-! ## What the table of the protocol builds -/

/-- The mark of an exception is the highest bit. -/
theorem FunctionCode.isException_iff (code : UInt8) : isException code = true ↔ 0x80 ≤ code := by
  obtain ⟨⟨code⟩⟩ := code
  revert code
  decide +kernel

namespace VariantTable

/-- The function codes that the protocol assigns. -/
def codes : List UInt8 := [1, 2, 3, 4, 5, 6, 15, 16]

/-- Neither role has an entry for another code. -/
theorem lookup_of_not_mem {code : UInt8} (h : code ∉ codes) (role : Role) :
    standard.lookup role code = .absent := by
  simp only [codes, List.mem_cons, List.not_mem_nil, or_false, not_or] at h
  rcases role with _ | _ <;>
    simp [lookup, standard, standardRequest, standardResponse, h, FunctionCode.readCoils,
      FunctionCode.readDiscreteInputs, FunctionCode.readHoldingRegisters,
      FunctionCode.readInputRegisters, FunctionCode.writeSingleCoil,
      FunctionCode.writeSingleRegister, FunctionCode.writeMultipleCoils,
      FunctionCode.writeMultipleRegisters]

/-- The variant of the request for each function code. -/
theorem variant_create_request (code : UInt8) :
    ((code = 1 ∨ code = 2) ∧ (standard.create .request code).variant = .readBits)
    ∨ ((code = 3 ∨ code = 4) ∧ (standard.create .request code).variant = .readRegisters)
    ∨ (code = 5 ∧ (standard.create .request code).variant = .writeCoil)
    ∨ (code = 6 ∧ (standard.create .request code).variant = .writeRegister)
    ∨ (code = 15 ∧ (standard.create .request code).variant = .writeCoils)
    ∨ (code = 16 ∧ (standard.create .request code).variant = .writeRegisters)
    ∨ ((code ≠ 1 ∧ code ≠ 2 ∧ code ≠ 3 ∧ code ≠ 4 ∧ code ≠ 5 ∧ code ≠ 6 ∧ code ≠ 15 ∧ code ≠ 16)
      ∧ (standard.create .request code).variant = .illegalFunction) := by
  by_cases hcode : code ∈ codes
  · simp only [codes, List.mem_cons, List.not_mem_nil, or_false] at hcode
    rcases hcode with rfl | rfl | rfl | rfl | rfl | rfl | rfl | rfl <;> decide
  · -- A code without an entry gets the placeholder, which keeps its bytes.
    have hcreate : standard.create .request code = .illegalFunctionRequest code := by
      rw [create, lookup_of_not_mem hcode, placeholder]
    simp only [codes, List.mem_cons, List.not_mem_nil, or_false, not_or] at hcode
    simp [hcode, hcreate, Message.variant, Message.illegalFunctionRequest, Payload.variant]

/-- The variant of the answer for each function code. -/
theorem variant_create_response (code : UInt8) :
    ((code = 1 ∨ code = 2) ∧ (standard.create .response code).variant = .bits)
    ∨ ((code = 3 ∨ code = 4) ∧ (standard.create .response code).variant = .registers)
    ∨ ((code = 5 ∨ code = 6) ∧ (standard.create .response code).variant = .wroteSingle)
    ∨ ((code = 15 ∨ code = 16) ∧ (standard.create .response code).variant = .wroteMultiple)
    ∨ (0x80 ≤ code ∧ (standard.create .response code).variant = .exception)
    ∨ ((code ≠ 1 ∧ code ≠ 2 ∧ code ≠ 3 ∧ code ≠ 4 ∧ code ≠ 5 ∧ code ≠ 6 ∧ code ≠ 15 ∧ code ≠ 16
        ∧ ¬ 0x80 ≤ code)
      ∧ (standard.create .response code).variant = .unsupportedFunction) := by
  by_cases hcode : code ∈ codes
  · simp only [codes, List.mem_cons, List.not_mem_nil, or_false] at hcode
    rcases hcode with rfl | rfl | rfl | rfl | rfl | rfl | rfl | rfl <;> decide
  · have hentry := lookup_of_not_mem hcode .response
    simp only [codes, List.mem_cons, List.not_mem_nil, or_false, not_or] at hcode
    -- Here the mark of an exception decides which of two placeholders there is.
    by_cases hmark : 0x80 ≤ code
    · have hcreate : standard.create .response code
          = .exceptionResponse (FunctionCode.function code) ExceptionCode.none := by
        rw [create, hentry, placeholder, if_pos ((FunctionCode.isException_iff code).mpr hmark)]
      simp [hmark, hcreate, Message.variant, Message.exceptionResponse, Payload.variant]
    · have hcreate : standard.create .response code = .unsupportedFunctionResponse code := by
        rw [create, hentry, placeholder,
          if_neg (mt (FunctionCode.isException_iff code).mp hmark)]
      simp [hcode, hmark, hcreate, Message.variant, Message.unsupportedFunctionResponse,
        Payload.variant]

/-- No code with the mark of an exception is assigned. -/
theorem not_assigned_of_marked {code : UInt8} (h : 0x80 ≤ code) :
    code ≠ 1 ∧ code ≠ 2 ∧ code ≠ 3 ∧ code ≠ 4 ∧ code ≠ 5 ∧ code ≠ 6 ∧ code ≠ 15 ∧ code ≠ 16 := by
  refine ⟨?_, ?_, ?_, ?_, ?_, ?_, ?_, ?_⟩ <;> rintro rfl <;> exact absurd h (by decide)

/-- The table of the protocol has no variant of the user's own. -/
theorem isLibrary_variant_create (role : Role) (code : UInt8) :
    (standard.create role code).variant.IsLibrary := by
  intro reading
  rcases role with _ | _
  · rcases variant_create_request code with ⟨_, hv⟩ | ⟨_, hv⟩ | ⟨_, hv⟩ | ⟨_, hv⟩ | ⟨_, hv⟩
      | ⟨_, hv⟩ | ⟨_, hv⟩ <;> rw [hv] <;> exact Variant.noConfusion
  · rcases variant_create_response code with ⟨_, hv⟩ | ⟨_, hv⟩ | ⟨_, hv⟩ | ⟨_, hv⟩ | ⟨_, hv⟩
      | ⟨_, hv⟩ <;> rw [hv] <;> exact Variant.noConfusion

end VariantTable

end ModbusTcp
