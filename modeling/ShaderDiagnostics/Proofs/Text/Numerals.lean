import Mathlib.Data.List.Induction
import ShaderDiagnostics.Text.Decimal

/-!
# Numerals

A number is written as one or more ASCII digits, with as many zeros in front as one likes, and there may be a plus sign
before them. The rules of `Text.Digits` and `Text.Numeral` say so without any reader: a digit stands for its value, and
one more digit behind the others makes ten times their number and that digit. Just the numerals of the numbers below the
bound are read, as these numbers (`Text.readNat_eq_some_iff`), and a number is printed as a numeral of it
(`Text.numeral_natText`).
-/

namespace ShaderDiagnostics.Text

/-- One or more ASCII digits and their number. -/
inductive Digits : List Char → Nat → Prop where
  /-- A single digit. -/
  | one {d : Nat} (small : d < 10) : Digits [d.digitChar] d
  /-- A digit behind others. -/
  | more {s : List Char} {n d : Nat} (digits : Digits s n) (small : d < 10) : Digits (s ++ [d.digitChar]) (10 * n + d)

/-- Digits, perhaps with a plus sign in front, and their number. -/
inductive Numeral : List Char → Nat → Prop where
  /-- Digits alone. -/
  | plain {s : List Char} {n : Nat} (digits : Digits s n) : Numeral s n
  /-- Digits behind a plus sign. -/
  | signed {s : List Char} {n : Nat} (digits : Digits s n) : Numeral ('+' :: s) n

variable {s : List Char} {c : Char} {n d bound : Nat}

/-! ### Digits -/

theorem digitValue_digitChar (small : d < 10) : digitValue d.digitChar = d :=
  Nat.toNat_digitChar_sub_48_of_lt_ten small

theorem exists_digitChar (digit : c.isDigit = true) : ∃ d < 10, c = d.digitChar := by
  have bounds : 48 ≤ c.toNat ∧ c.toNat ≤ 57 := Char.isDigit_iff_toNat.1 digit
  have small : c.toNat - 48 < 10 := by omega
  refine ⟨c.toNat - 48, small, Char.toNat_inj.1 ?_⟩
  rw [Nat.toNat_digitChar_of_lt_ten small]
  omega

theorem digitsValue_append_singleton (s : List Char) (c : Char) :
    digitsValue (s ++ [c]) = 10 * digitsValue s + digitValue c := by
  rw [digitsValue, List.foldl_append]
  rfl

theorem digitsValue_eq_ofDigitChars (s : List Char) : digitsValue s = Nat.ofDigitChars 10 s 0 :=
  Nat.ofDigitChars_eq_foldl.symm

theorem isDigits_iff : isDigits s = true ↔ s ≠ [] ∧ ∀ c ∈ s, c.isDigit = true := by
  simp [isDigits]

/-- Digits stand for their value. -/
theorem digits_iff : Digits s n ↔ isDigits s = true ∧ digitsValue s = n := by
  constructor
  · intro h
    induction h with
    | one small => simp [isDigits, digitsValue, digitValue_digitChar small, small]
    | @more s n d _ small ih =>
      obtain ⟨digits, rfl⟩ := ih
      have last : d.digitChar.isDigit = true := by simpa using small
      refine ⟨isDigits_iff.2 ⟨List.append_ne_nil_of_right_ne_nil _ (List.cons_ne_nil _ _), ?_⟩, ?_⟩
      · exact List.forall_mem_append.2 ⟨(isDigits_iff.1 digits).2, List.forall_mem_singleton.2 last⟩
      · rw [digitsValue_append_singleton, digitValue_digitChar small]
  · rintro ⟨digits, rfl⟩
    induction s using List.reverseRecOn with
    | nil => cases digits
    | append_singleton s c ih =>
      obtain ⟨-, digits⟩ := isDigits_iff.1 digits
      obtain ⟨before, last⟩ := List.forall_mem_append.1 digits
      obtain ⟨d, small, rfl⟩ := exists_digitChar (last c List.mem_cons_self)
      rw [digitsValue_append_singleton, digitValue_digitChar small]
      by_cases none : s = []
      · subst none
        simpa [digitsValue] using Digits.one small
      · exact (ih (isDigits_iff.2 ⟨none, before⟩)).more small

theorem Digits.isDigit (h : Digits s n) : ∀ c ∈ s, c.isDigit = true :=
  (isDigits_iff.1 (digits_iff.1 h).1).2

/-- The printed digits of a number are digits of it. -/
theorem digits_natText (n : Nat) : Digits (natText n) n := by
  refine digits_iff.2 ⟨isDigits_iff.2 ⟨Nat.toDigits_ne_nil, fun c hc => ?_⟩, ?_⟩
  · exact Nat.isDigit_of_mem_toDigits (by decide) (by decide) hc
  · rw [digitsValue_eq_ofDigitChars, natText, Nat.ofDigitChars_ten_toDigits]

/-! ### Numerals -/

theorem numeral_natText (n : Nat) : Numeral (natText n) n := .plain (digits_natText n)

theorem Numeral.isDigit_or_plus (h : Numeral s n) : ∀ c ∈ s, c.isDigit = true ∨ c = '+' := by
  cases h with
  | plain digits => exact fun c hc => .inl (digits.isDigit c hc)
  | signed digits => exact List.forall_mem_cons.2 ⟨.inr rfl, fun c hc => .inl (digits.isDigit c hc)⟩

/-- A plus sign is no digit, so there is nothing to drop from digits. -/
theorem Digits.dropPlus_eq (h : Digits s n) : dropPlus s = s := by
  unfold dropPlus
  split
  · exact absurd (h.isDigit '+' List.mem_cons_self) (by decide)
  · rfl

theorem numeral_iff : Numeral s n ↔ Digits (dropPlus s) n := by
  constructor
  · rintro (digits | digits)
    · rwa [digits.dropPlus_eq]
    · exact digits
  · intro digits
    unfold dropPlus at digits
    split at digits
    · exact .signed digits
    · exact .plain digits

/-- Just the numerals of the numbers below the bound are read. -/
theorem readNat_eq_some_iff : readNat bound s = some n ↔ Numeral s n ∧ n < bound := by
  rw [numeral_iff, digits_iff, readNat]
  split
  next fits =>
    obtain ⟨digits, fits⟩ := by simpa only [Bool.and_eq_true, decide_eq_true_eq] using fits
    rw [Option.some_inj]
    exact ⟨fun same => ⟨⟨digits, same⟩, same ▸ fits⟩, fun h => h.1.2⟩
  next misfit =>
    simp only [Bool.and_eq_true, decide_eq_true_eq] at misfit
    refine ⟨nofun, ?_⟩
    rintro ⟨⟨digits, rfl⟩, fits⟩
    exact absurd ⟨digits, fits⟩ misfit

end ShaderDiagnostics.Text
