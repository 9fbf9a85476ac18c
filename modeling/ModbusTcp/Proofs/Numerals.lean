import Mathlib.Data.List.Induction
import Mathlib.Data.Nat.Digits.Defs
import ModbusTcp.ReceiveTimeout

/-!
Which texts give a receive timeout, and which timeout.

A timeout is written as a numeral: decimal digits, at least one, and nothing else (`IsNumeral`). Its
value is the sum of the digits, each times the power of ten of its place (`number`), so zeros at the
front count nothing. The code (`ParseReceiveTimeout`) works from the left: it takes the longest run
of digits, adds digit after digit (`decimal_eq_number`), refuses a run that is empty or too large,
and then anything that follows. `leadingNumber?_eq_some_iff` says of the first part what it finds,
and `parse?_eq_some_iff` of the whole that it is just the numerals up to 4294967295.

Only digits are told apart from the rest. So it makes no difference whether the characters of a text
are taken for bytes or for code points.
-/

set_option autoImplicit false

namespace ModbusTcp.ReceiveTimeout

/-! ## Numerals -/

/-- The decimal digits, each at the place of its value. -/
def digits : List Char := ['0', '1', '2', '3', '4', '5', '6', '7', '8', '9']

/-- Whether a text consists of decimal digits, at least one. -/
def IsNumeral (text : List Char) : Prop := text ≠ [] ∧ ∀ c ∈ text, c ∈ digits

instance (text : List Char) : Decidable (IsNumeral text) :=
  -- Goes through the text, and not through all characters that there are.
  letI : Decidable (∀ c ∈ text, c ∈ digits) := List.decidableBAll (· ∈ digits) text
  inferInstanceAs (Decidable (text ≠ [] ∧ ∀ c ∈ text, c ∈ digits))

/-- The number that a numeral stands for: each digit times the power of ten of its place, the last
place being that of the ones. -/
def number (text : List Char) : Nat := Nat.ofDigits 10 (text.reverse.map (digits.idxOf ·))

/-- Whether a text gives a timeout of so many milliseconds. -/
def Gives (text : String) (milliseconds : Nat) : Prop :=
  IsNumeral text.toList ∧ number text.toList = milliseconds ∧ milliseconds ≤ 4294967295

instance (text : String) (milliseconds : Nat) : Decidable (Gives text milliseconds) :=
  inferInstanceAs (Decidable (_ ∧ _ ∧ _))

theorem mem_digits_iff {c : Char} : c ∈ digits ↔ c.isDigit = true := by
  constructor
  · intro hc
    simp only [digits, List.mem_cons, List.not_mem_nil, or_false] at hc
    rcases hc with rfl | rfl | rfl | rfl | rfl | rfl | rfl | rfl | rfl | rfl <;> rfl
  · intro hc
    obtain ⟨hzero, hnine⟩ := Char.isDigit_iff_toNat.mp hc
    -- Ten code points are left.
    have hall : ∀ n, n ≤ '9'.toNat → '0'.toNat ≤ n → Char.ofNat n ∈ digits := by decide
    rw [← Char.ofNat_toNat c]
    exact hall c.toNat hnine hzero

theorem idxOf_digits {c : Char} (hc : c ∈ digits) : digits.idxOf c = digitValue c := by
  simp only [digits, List.mem_cons, List.not_mem_nil, or_false] at hc
  rcases hc with rfl | rfl | rfl | rfl | rfl | rfl | rfl | rfl | rfl | rfl <;> decide

/-- One more digit at the end moves the others up by a place. -/
theorem number_append_singleton (text : List Char) (c : Char) :
    number (text ++ [c]) = 10 * number text + digits.idxOf c := by
  rw [number, List.reverse_append, List.reverse_singleton, List.singleton_append, List.map_cons,
    Nat.ofDigits_cons, Nat.add_comm, number]

/-- **Adding digit after digit gives the number.** The induction is on the text from the right, as
the loop has treated the last digit last. -/
theorem decimal_eq_number {text : List Char} (h : ∀ c ∈ text, c ∈ digits) :
    decimal 0 text = number text := by
  induction text using List.reverseRecOn with
  | nil => rfl
  | append_singleton text c ih =>
    have hlast : c ∈ digits := h c (by simp)
    have hfront : ∀ d ∈ text, d ∈ digits := fun d hd => h d (List.mem_append_left _ hd)
    have hstep : decimal 0 (text ++ [c]) = 10 * decimal 0 text + digitValue c := by
      simp only [decimal, List.foldl_append, List.foldl_cons, List.foldl_nil]
    rw [hstep, ih hfront, number_append_singleton, idxOf_digits hlast]

/-! ## The number at the head of a text -/

/-- **What is found at the head of a text:** the longest run of digits, if it is a numeral and not
too large, and what follows it. -/
theorem leadingNumber?_eq_some_iff {text rest : List Char} {n : Nat} :
    leadingNumber? text = some (n, rest)
      ↔ ∃ run, text = run ++ rest ∧ (∀ c ∈ rest.head?, c ∉ digits) ∧ IsNumeral run
        ∧ number run = n ∧ n ≤ maximum := by
  constructor
  · intro h
    have hrun : ∀ c ∈ text.takeWhile Char.isDigit, c ∈ digits :=
      fun c hc => mem_digits_iff.mpr (List.all_eq_true.mp List.all_takeWhile c hc)
    unfold leadingNumber? at h
    simp only [Bool.or_eq_true, List.isEmpty_iff, decide_eq_true_eq] at h
    split at h
    · cases h
    · rename_i hrefused
      obtain ⟨hsome, hwithin⟩ := not_or.mp hrefused
      cases h
      refine ⟨text.takeWhile Char.isDigit, List.takeWhile_append_dropWhile.symm, ?_, ⟨hsome, hrun⟩,
        (decimal_eq_number hrun).symm, Nat.not_lt.mp hwithin⟩
      intro c hc
      have hstop := List.head?_dropWhile_not Char.isDigit text
      rw [Option.mem_def.mp hc] at hstop
      rw [mem_digits_iff, hstop]
      exact Bool.false_ne_true
  · rintro ⟨run, rfl, hrest, ⟨hsome, hrun⟩, rfl, hwithin⟩
    have hdigits : ∀ c ∈ run, c.isDigit = true := fun c hc => mem_digits_iff.mp (hrun c hc)
    -- The run ends before the rest, so the two are what the text is split into.
    have hsplit : (run ++ rest).takeWhile Char.isDigit = run
        ∧ (run ++ rest).dropWhile Char.isDigit = rest := by
      rw [List.takeWhile_append_of_pos hdigits, List.dropWhile_append_of_pos hdigits]
      cases rest with
      | nil => exact ⟨List.append_nil run, rfl⟩
      | cons c rest =>
        have hc : ¬ c.isDigit = true := mt mem_digits_iff.mpr (hrest c rfl)
        rw [List.takeWhile_cons_of_neg hc, List.dropWhile_cons_of_neg hc]
        exact ⟨List.append_nil run, rfl⟩
    unfold leadingNumber?
    simp only [hsplit, decimal_eq_number hrun, Bool.or_eq_true, List.isEmpty_iff,
      decide_eq_true_eq, if_neg (not_or.mpr ⟨hsome, Nat.not_lt.mpr hwithin⟩)]

/-! ## Timeouts -/

/-- Nothing may follow the number. -/
theorem parse?_eq_leadingNumber? {text : String} {n : Nat} :
    parse? text = some n ↔ leadingNumber? text.toList = some (n, []) := by
  unfold parse?
  rcases leadingNumber? text.toList with _ | ⟨value, _ | ⟨c, rest⟩⟩
  · simp
  · simp
  · simp

/-- **A text is accepted just when it gives a timeout,** and then for that timeout. -/
theorem parse?_eq_some_iff {text : String} {n : Nat} : parse? text = some n ↔ Gives text n := by
  rw [parse?_eq_leadingNumber?, leadingNumber?_eq_some_iff]
  constructor
  · rintro ⟨run, htext, -, hnumeral, hnumber, hwithin⟩
    rw [List.append_nil] at htext
    rw [Gives, htext]
    exact ⟨hnumeral, hnumber, hwithin⟩
  · rintro ⟨hnumeral, hnumber, hwithin⟩
    exact ⟨text.toList, (List.append_nil _).symm, by simp, hnumeral, hnumber, hwithin⟩

/-- The decimal digits of a number spell it, with any number of zeros before them. -/
theorem gives_toDigits (zeros : Nat) {n : Nat} (h : n ≤ 4294967295) :
    Gives (String.ofList (List.replicate zeros '0' ++ Nat.toDigits 10 n)) n := by
  have hdigits : ∀ c ∈ List.replicate zeros '0' ++ Nat.toDigits 10 n, c ∈ digits := by
    intro c hc
    rcases List.mem_append.mp hc with hzero | hc
    · rw [List.eq_of_mem_replicate hzero]
      exact List.mem_cons_self
    · exact mem_digits_iff.mpr (Nat.isDigit_of_mem_toDigits (by decide) (by decide) hc)
  rw [Gives, String.toList_ofList]
  refine ⟨⟨List.append_ne_nil_of_right_ne_nil _ Nat.toDigits_ne_nil, hdigits⟩, ?_, h⟩
  calc number (List.replicate zeros '0' ++ Nat.toDigits 10 n)
      = Nat.ofDigitChars 10 (List.replicate zeros '0' ++ Nat.toDigits 10 n) 0 :=
        (decimal_eq_number hdigits).symm
    _ = Nat.ofDigitChars 10 (Nat.toDigits 10 n) (10 ^ zeros * 0) := by
        rw [Nat.ofDigitChars_append, Nat.ofDigitChars_replicate_zero]
    _ = n := by rw [Nat.mul_zero, Nat.ofDigitChars_toDigits (by decide) (by decide)]

/-- An empty setting is no case of its own: no numeral is empty. -/
theorem ofEnvironment?_eq (value : Option String) : ofEnvironment? value = value.bind parse? := by
  rcases value with _ | text
  · rfl
  · rw [ofEnvironment?, Option.bind_some]
    split
    · rename_i hempty
      rw [String.isEmpty_iff] at hempty
      subst hempty
      rfl
    · rfl

/-- A timeout of so many milliseconds lies within 64 bits. -/
theorem toInt_of_gives {text : String} {n : Nat} (h : Gives text n) :
    (Int64.ofNat n).toInt = n :=
  Int64.toInt_ofNat_of_lt (Nat.lt_of_le_of_lt h.2.2 (by decide))

/-- **The environment overrides the default just when it gives a timeout.** -/
theorem orDefault_eq_iff {default timeout : Int64} {value : Option String} :
    orDefault default value = timeout
      ↔ (∃ text n, value = some text ∧ Gives text n ∧ timeout.toInt = n)
        ∨ ((∀ text n, value = some text → ¬ Gives text n) ∧ timeout = default) := by
  rcases hgiven : ofEnvironment? value with _ | n
  · -- There is no text, or it gives nothing.
    have hnone : ∀ text n, value = some text → ¬ Gives text n := by
      rintro text n rfl hgives
      rw [ofEnvironment?_eq, Option.bind_some, parse?_eq_some_iff.mpr hgives] at hgiven
      cases hgiven
    rw [orDefault, hgiven]
    constructor
    · rintro rfl
      exact .inr ⟨hnone, rfl⟩
    · rintro (⟨text, n, hvalue, hgives, -⟩ | ⟨-, rfl⟩)
      · exact absurd hgives (hnone text n hvalue)
      · rfl
  · obtain ⟨text, rfl, hparsed⟩ := Option.bind_eq_some_iff.mp (ofEnvironment?_eq value ▸ hgiven)
    have hgives : Gives text n := parse?_eq_some_iff.mp hparsed
    rw [orDefault, hgiven]
    constructor
    · rintro rfl
      exact .inl ⟨text, n, rfl, hgives, toInt_of_gives hgives⟩
    · rintro (⟨text', n', hvalue, hgives', htimeout⟩ | ⟨hnone, -⟩)
      · -- A text gives at most one timeout.
        cases hvalue
        have hsame : n' = n := hgives'.2.1.symm.trans hgives.2.1
        subst hsame
        exact Int64.toInt_inj.mp ((toInt_of_gives hgives).trans htimeout.symm)
      · exact absurd hgives (hnone text n rfl)

/-- **The accepted texts are the numerals up to 4294967295.** A text of any length is parsed to a
number just when it consists of decimal digits, at least one, and the number that they stand for is
within the bound; so every number up to the bound is read back from its digits, with any number of
zeros before them. And whatever the environment holds under a name, and whatever the default is: the
timeout is the parsed number if the name is set to an accepted text, else the default. -/
theorem parse_accepts_numerals :
    (∀ (text : String) (n : Nat), parse? text = some n ↔ Gives text n)
      ∧ (∀ zeros n : Nat, n ≤ 4294967295 →
        parse? (String.ofList (List.replicate zeros '0' ++ Nat.toDigits 10 n)) = some n)
      ∧ ∀ (environment : String → Option String) (name : String) (default timeout : Int64),
        orDefault default (environment name) = timeout
          ↔ (∃ text n, environment name = some text ∧ Gives text n ∧ timeout.toInt = n)
            ∨ ((∀ text n, environment name = some text → ¬ Gives text n) ∧ timeout = default) := by
  refine ⟨fun text n => parse?_eq_some_iff, ?_, fun environment name default timeout => ?_⟩
  · intro zeros n hn
    exact parse?_eq_some_iff.mpr (gives_toDigits zeros hn)
  · exact orDefault_eq_iff

/-- The largest timeout behind three zeros; and settings that are beyond it, negative or followed by
a unit, which leave a default of 750 ms. -/
theorem parse_accepts_numerals_padded :
    4294967295 ≤ 4294967295
      ∧ parse? (String.ofList (List.replicate 3 '0' ++ Nat.toDigits 10 4294967295))
        = some 4294967295
      ∧ Gives "0004294967295" 4294967295 ∧ parse? "0004294967295" = some 4294967295
      ∧ ∀ text ∈ ["4294967296", "-5", "12ms"], orDefault 750 (some text) = 750 := by
  obtain ⟨hparse, hzeros, hdefault⟩ := parse_accepts_numerals
  have hgives : Gives "0004294967295" 4294967295 := by decide
  refine ⟨Nat.le_refl _, hzeros 3 4294967295 (Nat.le_refl _), hgives, (hparse _ _).mpr hgives, ?_⟩
  intro text htext
  refine (hdefault (fun _ => some text) "" 750 750).mpr (.inr ⟨?_, rfl⟩)
  rintro _ n ⟨rfl⟩ ⟨hnumeral, hnumber, hwithin⟩
  simp only [List.mem_cons, List.not_mem_nil, or_false] at htext
  rcases htext with rfl | rfl | rfl
  · rw [← hnumber] at hwithin
    exact absurd hwithin (by decide)
  · exact absurd hnumeral (by decide)
  · exact absurd hnumeral (by decide)

end ModbusTcp.ReceiveTimeout
