/-
This file proves that numbers in documents read back as themselves, whole numbers as whole numbers
and floating-point numbers as floating-point numbers.

The writer of floating-point numbers has four layouts. They are brought under one form, digits with
an optional fraction and an optional power of ten, whose value is the decimal number that was
written; the reader takes a text of that form apart again, and by then only the value matters.
-/
import MarketSignal.Proofs.Number.Digits
import MarketSignal.Proofs.Number.Shortest
import MarketSignal.Json.Reader
import MarketSignal.Json.Writer

namespace MarketSignal

namespace Json

/-! ### The general form of a number -/

/-- What follows a number does not go on with it. -/
def EndsNumber (rest : List Char) : Prop :=
  ∀ c ∈ rest.head?, isCommonDigit c = false ∧ c ≠ '.' ∧ c ≠ 'e' ∧ c ≠ 'E'

theorem EndsNumber.noDigitFirst {rest : List Char} (ends : EndsNumber rest) : NoDigitFirst rest :=
  fun c first => (ends c first).1

theorem endsNumber_nil : EndsNumber [] := by
  intro c first
  cases first

theorem endsNumber_cons (c : Char) (rest : List Char)
    (ends : isCommonDigit c = false ∧ c ≠ '.' ∧ c ≠ 'e' ∧ c ≠ 'E') : EndsNumber (c :: rest) := by
  intro other first
  cases first
  exact ends

/-- A sign. -/
def signText (negative : Bool) : List Char := if negative then ['-'] else []

/-- A fraction behind its point, if there is one. -/
def fractionText (decimals : List Char) : List Char :=
  if decimals = [] then [] else '.' :: decimals

/-- A power of ten, if there is one. -/
def powerText : Option Int → List Char
  | none => []
  | some place => Layout.power place

/-- The digits before the point are a zero alone, or do not start with one. -/
def WholePart (whole : List Char) : Prop :=
  whole = ['0'] ∨ ∃ leading others, whole = leading :: others ∧ leading ≠ '0' ∧
    ∀ c ∈ whole, isCommonDigit c = true

theorem WholePart.common {whole : List Char} (isWhole : WholePart whole) :
    ∀ c ∈ whole, isCommonDigit c = true := by
  rcases isWhole with rfl | ⟨_, _, -, -, common⟩
  · intro c member
    rw [List.mem_singleton.mp member]
    rfl
  · exact common

theorem WholePart.head {whole : List Char} (isWhole : WholePart whole) :
    ∃ first others, whole = first :: others ∧ isCommonDigit first = true := by
  have common := isWhole.common
  rcases isWhole with rfl | ⟨leading, others, rfl, -, -⟩
  · exact ⟨'0', [], rfl, rfl⟩
  · exact ⟨leading, others, rfl, common leading List.mem_cons_self⟩

/-! ### Reading the parts of the general form -/

theorem wholeDigits_append (whole rest : List Char) (isWhole : WholePart whole)
    (stop : NoDigitFirst rest) : wholeDigits (whole ++ rest) = (whole, rest) := by
  rcases isWhole with rfl | ⟨leading, others, rfl, notZero, common⟩
  · rfl
  · have general : wholeDigits (leading :: (others ++ rest)) =
        spanDigits (leading :: (others ++ rest)) := by
      unfold wholeDigits
      split
      case h_1 isZero =>
        injection isZero with same
        exact absurd same notZero
      case h_2 => rfl
    rw [List.cons_append, general, ← List.cons_append]
    exact spanDigits_append _ rest common stop

theorem fractionDigits_append (decimals rest : List Char)
    (common : ∀ c ∈ decimals, isCommonDigit c = true) (stop : NoDigitFirst rest)
    (noPoint : ∀ c ∈ rest.head?, c ≠ '.') :
    fractionDigits (fractionText decimals ++ rest) =
      (if decimals = [] then none else some decimals, rest) := by
  unfold fractionText
  split
  case isTrue empty =>
    rw [List.nil_append]
    unfold fractionDigits
    split
    case h_1 => exact absurd rfl (noPoint '.' rfl)
    case h_2 => rfl
  case isFalse some =>
    have notEmpty : decimals.isEmpty = false := by simpa using some
    rw [List.cons_append, fractionDigits, spanDigits_append decimals rest common stop]
    simp only [notEmpty, Bool.false_eq_true, if_false]

theorem splitSign_power (place : Int) (rest : List Char) :
    ∃ digits, (∀ c ∈ digits, isCommonDigit c = true) ∧ digits ≠ [] ∧
      digitsValue 0 digits = place.natAbs ∧
      Layout.power place ++ rest =
        'e' :: (if place < 0 then '-' else '+') :: (digits ++ rest) := by
  have common := digitsOfNat_common place.natAbs
  have value := digitsValue_digitsOfNat place.natAbs
  have some := digitsOfNat_ne_nil place.natAbs
  by_cases short : (digitsOfNat place.natAbs).length < 2
  · refine ⟨'0' :: digitsOfNat place.natAbs, ?_, List.cons_ne_nil _ _, value, ?_⟩
    · intro c member
      rcases List.mem_cons.mp member with rfl | other
      · rfl
      · exact common c other
    · simp only [Layout.power, short, if_true, List.cons_append]
  · refine ⟨digitsOfNat place.natAbs, common, some, value, ?_⟩
    simp only [Layout.power, short, if_false, List.cons_append]

theorem powerDigits_append (power : Option Int) (rest : List Char) (ends : EndsNumber rest) :
    powerDigits (powerText power ++ rest) = (power, rest) := by
  cases power with
  | none =>
    rw [powerText, List.nil_append]
    unfold powerDigits
    split
    case h_1 c others =>
      have stop := ends c rfl
      rw [if_neg (by rintro (rfl | rfl) <;> simp at stop)]
    case h_2 => rfl
  | some place =>
    obtain ⟨digits, common, someDigits, value, written⟩ := splitSign_power place rest
    have notEmpty : digits.isEmpty = false := by simpa using someDigits
    have spanned := spanDigits_append digits rest common ends.noDigitFirst
    rw [powerText, written, powerDigits, if_pos (Or.inl rfl)]
    by_cases negative : place < 0
    · have amount : -(place.natAbs : Int) = place := by omega
      simp only [negative, if_true, Numeral.splitSign, spanned, notEmpty, Bool.false_eq_true,
        if_false, value, amount]
    · have amount : (place.natAbs : Int) = place := by omega
      simp only [negative, if_false, Numeral.splitSign, spanned, notEmpty, Bool.false_eq_true,
        value, amount]

/-! ### Reading whole numbers and numbers in the general form -/

/-- What is behind the digits before the point does not start with a digit. -/
theorem noDigitFirst_parts (decimals : List Char) (power : Option Int) (rest : List Char)
    (ends : EndsNumber rest) :
    NoDigitFirst (fractionText decimals ++ (powerText power ++ rest)) ∧
      NoDigitFirst (powerText power ++ rest) ∧ ∀ c ∈ (powerText power ++ rest).head?, c ≠ '.' := by
  have behind : NoDigitFirst (powerText power ++ rest) ∧
      ∀ c ∈ (powerText power ++ rest).head?, c ≠ '.' := by
    cases power with
    | none => exact ⟨ends.noDigitFirst, fun c first => (ends c first).2.1⟩
    | some place =>
      constructor
      · rintro c ⟨⟩
        rfl
      · rintro c ⟨⟩
        decide
  refine ⟨?_, behind⟩
  unfold fractionText
  split
  · exact behind.1
  · rintro c ⟨⟩
    rfl

/-- A digit is no minus sign. -/
theorem WholePart.noSign {whole : List Char} (isWhole : WholePart whole) (rest : List Char) :
    ∀ behind, whole ++ rest = '-' :: behind → False := by
  intro behind same
  obtain ⟨first, others, rfl, digit⟩ := isWhole.head
  injection same with minus
  rw [minus] at digit
  exact absurd digit (by decide)

theorem number_float (limit : Option Nat) (negative : Bool) (whole decimals : List Char)
    (power : Option Int) (rest : List Char) (isWhole : WholePart whole)
    (common : ∀ c ∈ decimals, isCommonDigit c = true)
    (notWhole : decimals ≠ [] ∨ power ≠ none) (ends : EndsNumber rest) :
    number limit (signText negative ++
        (whole ++ (fractionText decimals ++ (powerText power ++ rest)))) =
      .ok (.float (floatOfDecimal negative (digitsValue 0 (whole ++ decimals))
        (power.getD 0 - decimals.length)), rest) := by
  obtain ⟨afterWhole, afterFraction, noPoint⟩ := noDigitFirst_parts decimals power rest ends
  obtain ⟨first, others, isFirst, -⟩ := isWhole.head
  have notEmpty : whole.isEmpty = false := by rw [isFirst]; rfl
  -- The match on the sign reduces with this fact at hand.
  have noSign := isWhole.noSign (fractionText decimals ++ (powerText power ++ rest))
  have parts := And.intro (wholeDigits_append whole _ isWhole afterWhole)
    (fractionDigits_append decimals _ common afterFraction noPoint)
  unfold number
  cases negative with
  | true =>
    simp only [signText, if_true, List.cons_append, List.nil_append, parts.1, parts.2, notEmpty,
      Bool.false_eq_true, if_false, powerDigits_append power rest ends]
    rcases notWhole with some | some
    · simp only [some, if_false, Option.getD_some]
    · obtain ⟨place, rfl⟩ := Option.ne_none_iff_exists'.mp some
      by_cases empty : decimals = [] <;> simp [empty]
  | false =>
    simp only [signText, Bool.false_eq_true, if_false, List.nil_append, parts.1, parts.2,
      notEmpty, powerDigits_append power rest ends]
    rcases notWhole with some | some
    · simp only [some, if_false, Option.getD_some]
    · obtain ⟨place, rfl⟩ := Option.ne_none_iff_exists'.mp some
      by_cases empty : decimals = [] <;> simp [empty]

theorem number_int (limit : Nat) (value : Int) (rest : List Char) (ends : EndsNumber rest)
    (short : (digitsOfNat value.natAbs).length ≤ limit) :
    number (some limit) (digitsOfInt value ++ rest) = .ok (.int value, rest) := by
  have isWhole : WholePart (digitsOfNat value.natAbs) := by
    rcases Nat.eq_zero_or_pos value.natAbs with zero | positive
    · left
      rw [zero]
      rfl
    · obtain ⟨leading, others, written, notZero, -⟩ := digitsOfNat_head _ positive
      exact Or.inr ⟨leading, others, written, notZero, digitsOfNat_common _⟩
  have signed : digitsOfInt value ++ rest =
      signText (decide (value < 0)) ++ (digitsOfNat value.natAbs ++ rest) := by
    unfold digitsOfInt signText
    by_cases negative : value < 0 <;> simp [negative]
  obtain ⟨first, others, isFirst, -⟩ := isWhole.head
  have notEmpty : (digitsOfNat value.natAbs).isEmpty = false := by rw [isFirst]; rfl
  have noFraction := fractionDigits_append [] rest (fun c member => nomatch member)
    ends.noDigitFirst (fun c first => (ends c first).2.1)
  have noPower := powerDigits_append none rest ends
  simp only [fractionText, powerText, if_true, List.nil_append] at noFraction noPower
  have whole := wholeDigits_append _ rest isWhole ends.noDigitFirst
  have withinLimit : ¬ limit < (digitsOfNat value.natAbs).length := by omega
  have noSign := isWhole.noSign rest
  rw [signed]
  unfold number
  by_cases negative : value < 0
  · have amount : -(value.natAbs : Int) = value := by omega
    simp only [signText, negative, decide_true, if_true, List.cons_append, List.nil_append, whole,
      notEmpty, Bool.false_eq_true, if_false, noFraction, noPower, Option.map_some, withinLimit,
      decide_false, Option.getD_some, digitsValue_digitsOfNat, amount]
  · have amount : (value.natAbs : Int) = value := by omega
    simp only [signText, negative, decide_false, Bool.false_eq_true, if_false, List.nil_append,
      whole, notEmpty, noFraction, noPower, Option.map_some, withinLimit, Option.getD_some,
      digitsValue_digitsOfNat, amount]

/-! ### The layouts of a magnitude -/

/-- The digits before and behind the point and the power of ten make up a decimal number, perhaps
with zeros behind its last digit. -/
structure Spells (decimal : Decimal) (whole decimals : List Char) (power : Option Int) : Prop where
  isWhole : WholePart whole
  common : ∀ c ∈ decimals, isCommonDigit c = true
  notWhole : decimals ≠ [] ∨ power ≠ none
  digits : ∃ zeros : Nat, digitsValue 0 (whole ++ decimals) = 10 ^ zeros * decimal.digits ∧
    power.getD 0 - decimals.length = decimal.exponent - zeros

theorem Spells.value {decimal : Decimal} {whole decimals : List Char} {power : Option Int}
    (spells : Spells decimal whole decimals power) :
    (digitsValue 0 (whole ++ decimals) : ℚ) * 10 ^ (power.getD 0 - decimals.length : ℤ) =
      decimal.value := by
  obtain ⟨zeros, sameDigits, sameExponent⟩ := spells.digits
  rw [sameDigits, sameExponent, Decimal.value, zpow_sub₀ (by norm_num), zpow_natCast]
  push_cast
  field_simp

section

variable (decimal : Decimal) (positive : 0 < decimal.digits)

include positive

theorem wholePart_digits (rest : List Char) (common : ∀ c ∈ rest, isCommonDigit c = true) :
    WholePart (digitsOfNat decimal.digits ++ rest) := by
  obtain ⟨leading, others, written, notZero, -⟩ := digitsOfNat_head _ positive
  refine Or.inr ⟨leading, others ++ rest, ?_, notZero, ?_⟩
  · rw [written, List.cons_append]
  · exact List.forall_mem_append.mpr ⟨digitsOfNat_common _, common⟩

/-- All digits before the point. -/
theorem spells_whole (integral : 0 ≤ decimal.exponent) :
    Spells decimal (digitsOfNat decimal.digits ++ List.replicate decimal.exponent.toNat '0') ['0']
      none where
  isWhole := wholePart_digits decimal positive _ (zeros_common _)
  common := zeros_common 1
  notWhole := Or.inl (List.cons_ne_nil _ _)
  digits := by
    refine ⟨1 + decimal.exponent.toNat, ?_, ?_⟩
    · rw [show ['0'] = List.replicate 1 '0' from rfl, digitsValue_append, digitsValue_append,
        digitsValue_zeros, digitsValue_zeros, digitsValue_digitsOfNat, pow_add, mul_assoc]
    · simp only [Option.getD_none, List.length_singleton]
      omega

/-- The point among the digits. -/
theorem spells_split (place : Nat) (inside : 0 < place)
    (isPlace : place = (digitsOfNat decimal.digits).length + decimal.exponent)
    (fraction : decimal.exponent < 0) :
    Spells decimal ((digitsOfNat decimal.digits).take place)
      ((digitsOfNat decimal.digits).drop place) none where
  isWhole := by
    obtain ⟨leading, others, written, notZero, -⟩ := digitsOfNat_head _ positive
    refine Or.inr ⟨leading, others.take (place - 1), ?_, notZero, ?_⟩
    · rw [written, List.take_cons inside]
    · exact fun c member => digitsOfNat_common _ c (List.mem_of_mem_take member)
  common := fun c member => digitsOfNat_common _ c (List.mem_of_mem_drop member)
  notWhole := by
    left
    rw [Ne, List.drop_eq_nil_iff]
    omega
  digits := by
    refine ⟨0, ?_, ?_⟩
    · rw [List.take_append_drop, digitsValue_digitsOfNat, pow_zero, one_mul]
    · rw [List.length_drop, Option.getD_none]
      omega

omit positive in
/-- The point before the digits. -/
theorem spells_fraction (zeros : Nat)
    (isPlace : (zeros : Int) = -((digitsOfNat decimal.digits).length + decimal.exponent)) :
    Spells decimal ['0'] (List.replicate zeros '0' ++ digitsOfNat decimal.digits) none where
  isWhole := Or.inl rfl
  common := List.forall_mem_append.mpr ⟨zeros_common _, digitsOfNat_common _⟩
  notWhole := by
    left
    intro empty
    exact digitsOfNat_ne_nil _ (List.append_eq_nil_iff.mp empty).2
  digits := by
    refine ⟨0, ?_, ?_⟩
    · rw [show ['0'] = List.replicate 1 '0' from rfl, digitsValue_append, digitsValue_append,
        digitsValue_zeros, digitsValue_zeros, mul_zero, mul_zero, digitsValue_digitsOfNat,
        pow_zero, one_mul]
    · rw [List.length_append, List.length_replicate, Option.getD_none]
      omega

/-- One digit before the point, and a power of ten. -/
theorem spells_power (leading : Char) (others : List Char)
    (written : digitsOfNat decimal.digits = leading :: others) :
    Spells decimal [leading] others (some (others.length + decimal.exponent)) where
  isWhole := by
    obtain ⟨first, rest, same, notZero, common⟩ := digitsOfNat_head _ positive
    rw [written] at same
    injection same with sameFirst
    subst sameFirst
    exact Or.inr ⟨leading, [], rfl, notZero, List.forall_mem_singleton.mpr common⟩
  common := fun c member =>
    digitsOfNat_common decimal.digits c (written ▸ List.mem_cons_of_mem _ member)
  notWhole := Or.inr (Option.some_ne_none _)
  digits := by
    refine ⟨0, ?_, ?_⟩
    · rw [List.singleton_append, ← written, digitsValue_digitsOfNat, pow_zero, one_mul]
    · rw [Option.getD_some]
      omega

/-- Whichever layout is chosen, a magnitude is written in the general form. -/
theorem magnitude_spells :
    ∃ whole decimals power, Spells decimal whole decimals power ∧
      Layout.document.magnitude decimal =
        whole ++ (fractionText decimals ++ powerText power) := by
  have fraction_cons (c : Char) (rest : List Char) : fractionText (c :: rest) = '.' :: c :: rest :=
    if_neg (List.cons_ne_nil c rest)
  unfold Layout.magnitude
  dsimp only
  split
  case isTrue inPlace =>
    split
    case isTrue integral =>
      refine ⟨_, _, _, spells_whole decimal positive integral, ?_⟩
      rw [fraction_cons, powerText, List.append_nil]
      rfl
    case isFalse notIntegral =>
      split
      case isTrue inside =>
        obtain ⟨place, isPlace⟩ := Int.eq_ofNat_of_zero_le
          (show 0 ≤ (digitsOfNat decimal.digits).length - 1 + decimal.exponent + 1 by omega)
        have spells := spells_split decimal positive place (by omega) (by omega) (by omega)
        have some := spells.notWhole.resolve_right (fun none => none rfl)
        refine ⟨_, _, _, spells, ?_⟩
        rw [isPlace, Int.toNat_natCast, fractionText, if_neg some, powerText, List.append_nil]
      case isFalse before =>
        obtain ⟨zeros, isPlace⟩ := Int.eq_ofNat_of_zero_le
          (show 0 ≤ -((digitsOfNat decimal.digits).length - 1 + decimal.exponent) - 1 by omega)
        have spells := spells_fraction decimal zeros (by omega)
        have some := spells.notWhole.resolve_right (fun none => none rfl)
        refine ⟨_, _, _, spells, ?_⟩
        rw [isPlace, Int.toNat_natCast, fractionText, if_neg some, powerText, List.append_nil]
        rfl
  case isFalse outside =>
    obtain ⟨leading, others, written, -, -⟩ := digitsOfNat_head _ positive
    have place : ((digitsOfNat decimal.digits).length : Int) - 1 + decimal.exponent =
        others.length + decimal.exponent := by
      rw [written, List.length_cons]
      omega
    refine ⟨_, _, _, spells_power decimal positive leading others written, ?_⟩
    rw [place, written]
    cases others with
    | nil => rfl
    | cons second rest =>
      rw [fraction_cons]
      rfl

end

/-! ### Reading floating-point numbers -/

/-- The text of a magnitude, without its sign. -/
def magnitudeText (magnitude : Binary) : List Char :=
  if magnitude.mantissa = 0 then ['0', '.', '0'] else Layout.document.magnitude magnitude.shortest

theorem magnitudeText_spells (magnitude : Binary) (canonical : magnitude.Canonical) :
    ∃ decimal whole decimals power, Spells decimal whole decimals power ∧
      magnitudeText magnitude = whole ++ (fractionText decimals ++ powerText power) ∧
      nearestWordOfDecimal (digitsValue 0 (whole ++ decimals)) (power.getD 0 - decimals.length) =
        magnitude.word := by
  unfold magnitudeText
  split
  case isTrue zero =>
    refine ⟨⟨0, 0⟩, ['0'], ['0'], none, ⟨Or.inl rfl, zeros_common 1, Or.inl (List.cons_ne_nil _ _),
      ⟨1, rfl, rfl⟩⟩, rfl, ?_⟩
    have least : magnitude.exponent = Binary.leastExponent :=
      canonical.full.resolve_right (by rw [zero]; norm_num)
    rw [Binary.word, least, zero, sub_self]
    rfl
  case isFalse nonzero =>
    have positive : 0 < magnitude.mantissa := Nat.pos_of_ne_zero nonzero
    obtain ⟨whole, decimals, power, spells, written⟩ :=
      magnitude_spells magnitude.shortest (magnitude.shortest_digits_pos canonical positive)
    refine ⟨magnitude.shortest, whole, decimals, power, spells, written, ?_⟩
    apply nearestWordOfDecimal_of_covers _ _ magnitude canonical positive
    rw [spells.value]
    exact magnitude.covers_shortest canonical positive

theorem writtenFloat_eq (value : Float) (negative : Bool) (magnitude : Binary)
    (shape : Shape.ofFloat value = .finite negative magnitude) :
    writtenFloat value = signText negative ++ magnitudeText magnitude := by
  unfold writtenFloat Layout.write
  rw [shape]
  cases negative <;> rfl

/-- A finite number reads back as itself. -/
theorem number_writtenFloat (limit : Option Nat) (value : Float) (negative : Bool)
    (magnitude : Binary) (shape : Shape.ofFloat value = .finite negative magnitude)
    (rest : List Char) (ends : EndsNumber rest) :
    number limit (writtenFloat value ++ rest) = .ok (.float value, rest) := by
  obtain ⟨isValue, canonical⟩ := eq_of_shape_finite value negative magnitude shape
  obtain ⟨decimal, whole, decimals, power, spells, written, word⟩ :=
    magnitudeText_spells magnitude canonical
  rw [writtenFloat_eq value negative magnitude shape, written, List.append_assoc,
    List.append_assoc, List.append_assoc,
    number_float limit negative whole decimals power rest spells.isWhole spells.common
      spells.notWhole ends, floatOfDecimal, word, ← isValue]

end Json

end MarketSignal
