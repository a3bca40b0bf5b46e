/-
The digits of a number and the number that digits stand for. Digits are written without a zero in
front, so that a reader who takes a leading zero for a whole number of its own does not stop short.
-/
import Mathlib
import MarketSignal.Number.Layout
import MarketSignal.Number.Numeral

namespace MarketSignal

/-! ### The value of a run of digits -/

theorem digitsValue_eq (before : Nat) (digits : List Char) :
    digitsValue before digits = Nat.ofDigitChars 10 digits before := rfl

theorem digitsValue_append (before : Nat) (first second : List Char) :
    digitsValue before (first ++ second) = digitsValue (digitsValue before first) second := by
  simp only [digitsValue_eq, Nat.ofDigitChars_append]

theorem digitsValue_zeros (before count : Nat) :
    digitsValue before (List.replicate count '0') = 10 ^ count * before := by
  simp only [digitsValue_eq, Nat.ofDigitChars_replicate_zero]

theorem digitsValue_digitsOfNat (value : Nat) : digitsValue 0 (digitsOfNat value) = value := by
  simp only [digitsValue_eq, digitsOfNat, Nat.ofDigitChars_ten_toDigits]

/-! ### The characters of a number -/

theorem isCommonDigit_of_isDigit (c : Char) (digit : c.isDigit = true) :
    isCommonDigit c = true := by
  simp only [Char.isDigit, Bool.and_eq_true, decide_eq_true_eq, UInt32.le_iff_toNat_le] at digit
  simp only [isCommonDigit, decide_eq_true_eq, Char.toNat]
  exact digit

theorem digitsOfNat_common (value : Nat) : ∀ c ∈ digitsOfNat value, isCommonDigit c = true :=
  fun c member =>
    isCommonDigit_of_isDigit c (Nat.isDigit_of_mem_toDigits (by decide) (by decide) member)

theorem digitsOfNat_ne_nil (value : Nat) : digitsOfNat value ≠ [] := Nat.toDigits_ne_nil

/-- Only zero is written with a zero in front. -/
theorem digitsOfNat_head (value : Nat) (positive : 0 < value) :
    ∃ leading others, digitsOfNat value = leading :: others ∧ leading ≠ '0' ∧
      isCommonDigit leading = true := by
  unfold digitsOfNat
  induction value using Nat.base_induction 10 (by decide) with
  | single digit small =>
    rw [Nat.toDigits_of_lt_base small]
    refine ⟨digit.digitChar, [], rfl, ?_, ?_⟩ <;> interval_cases digit <;> simp_all <;> decide
  | digit rest digit small restPositive inductionHypothesis =>
    obtain ⟨leading, others, written, notZero, common⟩ := inductionHypothesis restPositive
    refine ⟨leading, others ++ Nat.toDigits 10 digit, ?_, notZero, common⟩
    rw [← Nat.toDigits_append_toDigits (by decide) restPositive small, written, List.cons_append]

theorem digitsOfNat_length_le (value : Nat) (within : value < 10 ^ digitLimit) :
    (digitsOfNat value).length ≤ digitLimit :=
  (Nat.length_toDigits_le_iff (by decide) (by decide)).mpr within

theorem zeros_common (count : Nat) : ∀ c ∈ List.replicate count '0', isCommonDigit c = true := by
  intro c member
  rw [(List.mem_replicate.mp member).2]
  rfl

/-! ### Splitting off the digits -/

/-- What does not begin with a digit. -/
def NoDigitFirst (rest : List Char) : Prop := ∀ c ∈ rest.head?, isCommonDigit c = false

theorem spanDigits_append (digits rest : List Char) (common : ∀ c ∈ digits, isCommonDigit c = true)
    (stop : NoDigitFirst rest) : spanDigits (digits ++ rest) = (digits, rest) := by
  have after : rest.takeWhile isCommonDigit = [] ∧ rest.dropWhile isCommonDigit = rest := by
    cases rest with
    | nil => exact ⟨rfl, rfl⟩
    | cons c others =>
      have noDigit : isCommonDigit c = false := stop c rfl
      simp only [List.takeWhile_cons, List.dropWhile_cons, noDigit, Bool.false_eq_true, if_false,
        and_self]
  rw [spanDigits, List.takeWhile_append_of_pos common, List.dropWhile_append_of_pos common, after.1,
    after.2, List.append_nil]

end MarketSignal
