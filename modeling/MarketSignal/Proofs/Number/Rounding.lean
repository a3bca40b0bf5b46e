/-
This file says what rounding a fraction does. Every finite magnitude has a range: the fractions
that lie nearer to it than to both of its neighbours, and the two ends where the mantissa is even.
Rounding a fraction gives the word of the magnitude in whose range the fraction lies.

The argument is about rational numbers. The exponent that rounding chooses is the least one at
which the fraction stays below `2 ^ 53`; this fixes it wherever the fraction lies, and the quotient
at that exponent is then off the mantissa by at most one half. A magnitude that is a power of two
needs a second look: the gap below it is half as wide, and a fraction in that gap is rounded at the
smaller exponent, where it reaches the mantissa `2 ^ 53`, which has the word of the power of two.
-/
import MarketSignal.Proofs.Number.Word
import MarketSignal.Number.Decimal

namespace MarketSignal

/-! ### Magnitudes as rational numbers -/

/-- The rational number that a binary magnitude is. -/
def Binary.value (magnitude : Binary) : ℚ := magnitude.mantissa * 2 ^ magnitude.exponent

/-- The rational number that a decimal magnitude is. -/
def Decimal.value (decimal : Decimal) : ℚ := decimal.digits * 10 ^ decimal.exponent

/-- A power with a whole exponent is a fraction of two powers with natural exponents. -/
theorem zpow_mul_toNat (base : ℚ) (nonzero : base ≠ 0) (exponent : ℤ) :
    base ^ exponent * base ^ (-exponent).toNat = base ^ exponent.toNat := by
  rw [← zpow_natCast, ← zpow_natCast, ← zpow_add₀ nonzero]
  congr 1
  omega

/-! ### Rounding a quotient -/

/-- A quotient rounds to the whole number that it is off by less than one half, or by one half if
that number is even. -/
theorem roundHalfEven_eq (numerator denominator count : Nat) (positive : 0 < denominator)
    (low : 2 * count * denominator ≤ 2 * numerator + denominator)
    (high : 2 * numerator ≤ 2 * count * denominator + denominator)
    (ties : count % 2 = 1 → 2 * count * denominator ≠ 2 * numerator + denominator ∧
      2 * numerator ≠ 2 * count * denominator + denominator) :
    roundHalfEven numerator denominator = count := by
  have division := Nat.div_add_mod numerator denominator
  have small := Nat.mod_lt numerator positive
  set quotient := numerator / denominator with quotientIs
  set remainder := numerator % denominator with remainderIs
  have candidates : count = quotient ∨ count = quotient + 1 := by
    have notBelow : quotient ≤ count := by
      by_contra below
      have : denominator * (count + 1) ≤ denominator * quotient :=
        Nat.mul_le_mul_left denominator (by omega)
      nlinarith [ties, Nat.mod_two_eq_zero_or_one count]
    have notAbove : count ≤ quotient + 1 := by
      by_contra above
      have : denominator * (quotient + 2) ≤ denominator * count :=
        Nat.mul_le_mul_left denominator (by omega)
      nlinarith
    omega
  unfold roundHalfEven
  simp only [← quotientIs, ← remainderIs]
  rcases candidates with same | next
  · have product : 2 * count * denominator = 2 * (denominator * quotient) := by rw [same]; ring
    rw [if_pos]
    · exact same.symm
    · by_cases tie : 2 * remainder = denominator
      · refine Or.inr ⟨tie, ?_⟩
        by_contra odd
        exact (ties (by omega)).2 (by omega)
      · exact Or.inl (by omega)
  · have product : 2 * count * denominator = 2 * (denominator * quotient) + 2 * denominator := by
      rw [next]; ring
    rw [if_neg]
    · exact next.symm
    · rintro (less | ⟨tie, even⟩)
      · omega
      · exact (ties (by omega)).1 (by omega)

/-! ### The exponent at which a fraction is rounded -/

theorem two_zpow_lt {left right : ℤ} {fraction : ℚ} (low : (2 : ℚ) ^ left ≤ fraction)
    (high : fraction < (2 : ℚ) ^ right) : left < right :=
  (zpow_lt_zpow_iff_right₀ (by norm_num)).mp (lt_of_le_of_lt low high)

/-- The logarithms of numerator and denominator give that of the fraction up to one. -/
theorem fraction_bounds (numerator denominator : Nat) (numeratorPositive : 0 < numerator)
    (denominatorPositive : 0 < denominator) :
    (2 : ℚ) ^ ((numerator.log2 : ℤ) - denominator.log2 - 1) ≤ (numerator : ℚ) / denominator ∧
      (numerator : ℚ) / denominator < (2 : ℚ) ^ ((numerator.log2 : ℤ) - denominator.log2 + 1) := by
  have positive : (0 : ℚ) < denominator := by exact_mod_cast denominatorPositive
  have numeratorLow : (2 : ℚ) ^ (numerator.log2 : ℤ) ≤ numerator := by
    rw [zpow_natCast]
    exact_mod_cast Nat.log2_self_le numeratorPositive.ne'
  have numeratorHigh : (numerator : ℚ) < (2 : ℚ) ^ ((numerator.log2 : ℤ) + 1) := by
    have := Nat.lt_log2_self (n := numerator)
    rw [show ((numerator.log2 : ℤ) + 1) = ((numerator.log2 + 1 : Nat) : ℤ) by push_cast; rfl,
      zpow_natCast]
    exact_mod_cast this
  have denominatorLow : (2 : ℚ) ^ (denominator.log2 : ℤ) ≤ denominator := by
    rw [zpow_natCast]
    exact_mod_cast Nat.log2_self_le denominatorPositive.ne'
  have denominatorHigh : (denominator : ℚ) < (2 : ℚ) ^ ((denominator.log2 : ℤ) + 1) := by
    have := Nat.lt_log2_self (n := denominator)
    rw [show ((denominator.log2 : ℤ) + 1) = ((denominator.log2 + 1 : Nat) : ℤ) by push_cast; rfl,
      zpow_natCast]
    exact_mod_cast this
  have power (exponent : ℤ) : (0 : ℚ) < 2 ^ exponent := zpow_pos (by norm_num) exponent
  constructor
  · rw [le_div_iff₀ positive]
    calc (2 : ℚ) ^ ((numerator.log2 : ℤ) - denominator.log2 - 1) * denominator
        ≤ 2 ^ ((numerator.log2 : ℤ) - denominator.log2 - 1) *
            2 ^ ((denominator.log2 : ℤ) + 1) :=
          mul_le_mul_of_nonneg_left denominatorHigh.le (power _).le
      _ = 2 ^ (numerator.log2 : ℤ) := by
          rw [← zpow_add₀ (by norm_num)]
          congr 1
          omega
      _ ≤ numerator := numeratorLow
  · rw [div_lt_iff₀ positive]
    calc (numerator : ℚ) < 2 ^ ((numerator.log2 : ℤ) + 1) := numeratorHigh
      _ = 2 ^ ((numerator.log2 : ℤ) - denominator.log2 + 1) * 2 ^ (denominator.log2 : ℤ) := by
          rw [← zpow_add₀ (by norm_num)]
          congr 1
          omega
      _ ≤ 2 ^ ((numerator.log2 : ℤ) - denominator.log2 + 1) * denominator :=
          mul_le_mul_of_nonneg_left denominatorLow (power _).le

/-- The test on the scaled quotient compares the fraction with a power of two. -/
theorem scaled_quotient_iff (numerator denominator : Nat) (positive : 0 < denominator)
    (exponent : ℤ) :
    2 ^ 53 ≤ numerator * 2 ^ (-exponent).toNat / (denominator * 2 ^ exponent.toNat) ↔
      (2 : ℚ) ^ (53 + exponent) ≤ (numerator : ℚ) / denominator := by
  have denominatorPositive : (0 : ℚ) < denominator := by exact_mod_cast positive
  have scalePositive : (0 : ℚ) < 2 ^ (-exponent).toNat := by positivity
  rw [Nat.le_div_iff_mul_le (by positivity), le_div_iff₀ denominatorPositive,
    ← mul_le_mul_iff_left₀ scalePositive, zpow_add₀ (by norm_num)]
  rw [show (2 : ℚ) ^ (53 : ℤ) * 2 ^ exponent * denominator * 2 ^ (-exponent).toNat =
    2 ^ 53 * (denominator * (2 ^ exponent * 2 ^ (-exponent).toNat)) by norm_cast; ring,
    zpow_mul_toNat 2 (by norm_num)]
  exact_mod_cast Iff.rfl

/-- The exponent is the least one at which the fraction stays below `2 ^ 53`. -/
theorem roundingExponent_eq (numerator denominator : Nat) (numeratorPositive : 0 < numerator)
    (denominatorPositive : 0 < denominator) (exponent : ℤ)
    (least : Binary.leastExponent ≤ exponent)
    (below : (numerator : ℚ) / denominator < 2 ^ (53 + exponent))
    (above : exponent = Binary.leastExponent ∨
      (2 : ℚ) ^ (52 + exponent) ≤ (numerator : ℚ) / denominator) :
    roundingExponent numerator denominator = exponent := by
  obtain ⟨low, high⟩ :=
    fraction_bounds numerator denominator numeratorPositive denominatorPositive
  unfold roundingExponent
  dsimp only
  set estimate :=
    max Binary.leastExponent ((numerator.log2 : ℤ) - (denominator.log2 : ℤ) - 53) with estimateIs
  have reached (candidate : ℤ) (large : (2 : ℚ) ^ candidate ≤ (numerator : ℚ) / denominator) :
      candidate < 53 + exponent := two_zpow_lt large below
  have upper (candidate : ℤ) (small : (numerator : ℚ) / denominator < 2 ^ candidate) :
      exponent = Binary.leastExponent ∨ 52 + exponent < candidate :=
    above.imp_right fun large => two_zpow_lt large small
  split
  case isTrue large =>
    rw [scaled_quotient_iff _ _ denominatorPositive] at large
    have first := reached _ large
    have second := upper _ high
    omega
  case isFalse notLarge =>
    rw [scaled_quotient_iff _ _ denominatorPositive, not_le] at notLarge
    have first := reached _ low
    have second := upper _ notLarge
    omega

/-! ### The range of a magnitude -/

/-- The lower end of the range of a magnitude, counted in quarters of its unit: one half of the gap
below, which is half as wide below a power of two. -/
def Binary.lowQuarters (magnitude : Binary) : Nat :=
  4 * magnitude.mantissa -
    if magnitude.mantissa == 2 ^ 52 && decide (Binary.leastExponent < magnitude.exponent) then 1
    else 2

/-- A fraction lies in the range of a magnitude. -/
structure Binary.Covers (magnitude : Binary) (fraction : ℚ) : Prop where
  low : (magnitude.lowQuarters : ℚ) * 2 ^ (magnitude.exponent - 2) ≤ fraction
  high : fraction ≤ ((4 * magnitude.mantissa + 2 : Nat) : ℚ) * 2 ^ (magnitude.exponent - 2)
  ends : magnitude.mantissa % 2 = 1 →
    (magnitude.lowQuarters : ℚ) * 2 ^ (magnitude.exponent - 2) ≠ fraction ∧
      fraction ≠ ((4 * magnitude.mantissa + 2 : Nat) : ℚ) * 2 ^ (magnitude.exponent - 2)

section

variable (numerator denominator : Nat) (exponent : ℤ) (quarters : Nat)

theorem quarters_mul_eq :
    (quarters : ℚ) * 2 ^ (exponent - 2) * (4 * (denominator * 2 ^ (-exponent).toNat)) =
      quarters * (denominator * 2 ^ exponent.toNat) := by
  rw [zpow_sub₀ (by norm_num), ← zpow_mul_toNat 2 (by norm_num) exponent]
  have four : (2 : ℚ) ^ (2 : ℤ) = 4 := by norm_num
  rw [four]
  ring

variable (positive : 0 < denominator)

include positive

theorem fraction_mul_eq :
    (numerator : ℚ) / denominator * (4 * (denominator * 2 ^ (-exponent).toNat)) =
      4 * (numerator * 2 ^ (-exponent).toNat) := by
  have nonzero : (denominator : ℚ) ≠ 0 := by exact_mod_cast positive.ne'
  field_simp

/-- Comparing quarters of a unit with a fraction is comparing whole numbers. -/
theorem quarters_le_iff :
    (quarters : ℚ) * 2 ^ (exponent - 2) ≤ (numerator : ℚ) / denominator ↔
      quarters * (denominator * 2 ^ exponent.toNat) ≤ 4 * (numerator * 2 ^ (-exponent).toNat) := by
  have scale : (0 : ℚ) < 4 * (denominator * 2 ^ (-exponent).toNat) := by positivity
  rw [← mul_le_mul_iff_left₀ scale, quarters_mul_eq denominator,
    fraction_mul_eq numerator denominator exponent positive]
  exact_mod_cast Iff.rfl

theorem le_quarters_iff :
    (numerator : ℚ) / denominator ≤ (quarters : ℚ) * 2 ^ (exponent - 2) ↔
      4 * (numerator * 2 ^ (-exponent).toNat) ≤ quarters * (denominator * 2 ^ exponent.toNat) := by
  have scale : (0 : ℚ) < 4 * (denominator * 2 ^ (-exponent).toNat) := by positivity
  rw [← mul_le_mul_iff_left₀ scale, quarters_mul_eq denominator,
    fraction_mul_eq numerator denominator exponent positive]
  exact_mod_cast Iff.rfl

/-- At any exponent a fraction rounds to the mantissa that it is off by at most half a unit. -/
theorem roundHalfEven_at (mantissa : Nat) (mantissaPositive : 0 < mantissa)
    (low : ((4 * mantissa - 2 : Nat) : ℚ) * 2 ^ (exponent - 2) ≤ (numerator : ℚ) / denominator)
    (high : (numerator : ℚ) / denominator ≤
      ((4 * mantissa + 2 : Nat) : ℚ) * 2 ^ (exponent - 2))
    (ends : mantissa % 2 = 1 →
      ((4 * mantissa - 2 : Nat) : ℚ) * 2 ^ (exponent - 2) ≠ (numerator : ℚ) / denominator ∧
        (numerator : ℚ) / denominator ≠ ((4 * mantissa + 2 : Nat) : ℚ) * 2 ^ (exponent - 2)) :
    roundHalfEven (numerator * 2 ^ (-exponent).toNat) (denominator * 2 ^ exponent.toNat) =
      mantissa := by
  have lowCount := (quarters_le_iff numerator denominator exponent _ positive).mp low
  have highCount := (le_quarters_iff numerator denominator exponent _ positive).mp high
  have backLow :=
    (le_quarters_iff numerator denominator exponent (4 * mantissa - 2) positive).mpr
  have backHigh :=
    (quarters_le_iff numerator denominator exponent (4 * mantissa + 2) positive).mpr
  have unitPositive : 0 < denominator * 2 ^ exponent.toNat := by positivity
  generalize denominator * 2 ^ exponent.toNat = unit at *
  generalize numerator * 2 ^ (-exponent).toNat = count at *
  have lowProduct : (4 * mantissa - 2) * unit = 4 * (mantissa * unit) - 2 * unit := by
    rw [Nat.sub_mul, Nat.mul_assoc]
  have highProduct : (4 * mantissa + 2) * unit = 4 * (mantissa * unit) + 2 * unit := by ring
  have whole : unit ≤ mantissa * unit := Nat.le_mul_of_pos_left unit mantissaPositive
  have twice : 2 * mantissa * unit = 2 * (mantissa * unit) := Nat.mul_assoc 2 mantissa unit
  apply roundHalfEven_eq _ _ _ unitPositive
  · omega
  · omega
  · intro odd
    obtain ⟨notLow, notHigh⟩ := ends odd
    constructor
    · intro equal
      exact notLow (le_antisymm low (backLow (by omega)))
    · intro equal
      exact notHigh (le_antisymm high (backHigh (by omega)))

end

/-! ### Fractions in the range of a magnitude -/

theorem two_zpow_pos (exponent : ℤ) : (0 : ℚ) < 2 ^ exponent := zpow_pos (by norm_num) exponent

/-- A power of two in quarters of the unit of a mantissa. -/
theorem two_zpow_eq_quarters (places : Nat) (exponent : ℤ) :
    (2 : ℚ) ^ (places + exponent) = ((2 ^ (places + 2) : Nat) : ℚ) * 2 ^ (exponent - 2) := by
  rw [Nat.cast_pow, Nat.cast_ofNat, ← zpow_natCast, ← zpow_add₀ (by norm_num)]
  congr 1
  push_cast
  ring

/-- The gap below a magnitude is as wide as the one above, unless the mantissa is a power of two. -/
theorem Binary.lowQuarters_ge (magnitude : Binary) :
    4 * magnitude.mantissa - 2 ≤ magnitude.lowQuarters := by
  unfold Binary.lowQuarters
  split <;> omega

/-- The range of a mantissa above `2 ^ 52` does not reach below that power. -/
theorem Binary.lowQuarters_ge_of_lt (magnitude : Binary) (large : 2 ^ 52 < magnitude.mantissa) :
    2 ^ 54 ≤ magnitude.lowQuarters := by
  have := magnitude.lowQuarters_ge
  omega

theorem Binary.lowQuarters_narrow (magnitude : Binary) (isPower : magnitude.mantissa = 2 ^ 52)
    (above : Binary.leastExponent < magnitude.exponent) :
    magnitude.lowQuarters = 2 ^ 54 - 1 := by
  unfold Binary.lowQuarters
  rw [if_pos (by simp [isPower, above]), isPower]
  norm_num

theorem Binary.Covers.pos {magnitude : Binary} {fraction : ℚ} (covers : magnitude.Covers fraction)
    (mantissaPositive : 0 < magnitude.mantissa) : 0 < fraction := by
  have lowPositive : 0 < magnitude.lowQuarters := by
    have := magnitude.lowQuarters_ge
    omega
  exact lt_of_lt_of_le (mul_pos (by exact_mod_cast lowPositive) (two_zpow_pos _)) covers.low

theorem Binary.Covers.lt {magnitude : Binary} {fraction : ℚ} (covers : magnitude.Covers fraction)
    (canonical : magnitude.Canonical) : fraction < 2 ^ (53 + magnitude.exponent) := by
  have fits : 4 * magnitude.mantissa + 2 < 2 ^ (53 + 2) := by
    have := canonical.mantissa_lt
    omega
  rw [show (53 : ℤ) = ((53 : Nat) : ℤ) from rfl, two_zpow_eq_quarters 53 magnitude.exponent]
  refine lt_of_le_of_lt covers.high (mul_lt_mul_of_pos_right ?_ (two_zpow_pos _))
  exact_mod_cast fits

section

variable (numerator denominator : Nat) (magnitude : Binary)
  (covers : magnitude.Covers ((numerator : ℚ) / denominator))

include covers

/-- At the exponent of the magnitude the quotient rounds to its mantissa. -/
theorem roundHalfEven_of_covers (positive : 0 < denominator)
    (mantissaPositive : 0 < magnitude.mantissa) :
    roundHalfEven (numerator * 2 ^ (-magnitude.exponent).toNat)
      (denominator * 2 ^ magnitude.exponent.toNat) = magnitude.mantissa := by
  have lower : ((4 * magnitude.mantissa - 2 : Nat) : ℚ) * 2 ^ (magnitude.exponent - 2) ≤
      (magnitude.lowQuarters : ℚ) * 2 ^ (magnitude.exponent - 2) :=
    mul_le_mul_of_nonneg_right (by exact_mod_cast magnitude.lowQuarters_ge) (two_zpow_pos _).le
  refine roundHalfEven_at numerator denominator magnitude.exponent positive magnitude.mantissa
    mantissaPositive (lower.trans covers.low) covers.high fun odd => ?_
  obtain ⟨notLow, notHigh⟩ := covers.ends odd
  exact ⟨fun equal => notLow (le_antisymm covers.low (equal.symm.le.trans lower)), notHigh⟩

variable (canonical : magnitude.Canonical) (above : magnitude.exponent ≠ Binary.leastExponent)
  (small : (numerator : ℚ) / denominator < 2 ^ (52 + magnitude.exponent))

include canonical above small

/-- Only a power of two reaches into the half as wide gap below it. -/
theorem mantissa_of_covers_gap : magnitude.mantissa = 2 ^ 52 := by
  have atLeast : 2 ^ 52 ≤ magnitude.mantissa := canonical.full.resolve_left above
  by_contra other
  have quarters : 2 ^ (52 + 2) ≤ magnitude.lowQuarters :=
    magnitude.lowQuarters_ge_of_lt (lt_of_le_of_ne atLeast (Ne.symm other))
  rw [show (52 : ℤ) = ((52 : Nat) : ℤ) from rfl, two_zpow_eq_quarters 52] at small
  refine absurd small (not_lt.mpr (le_trans ?_ covers.low))
  exact mul_le_mul_of_nonneg_right (by exact_mod_cast quarters) (two_zpow_pos _).le

/-- In the gap below a power of two the exponent is one less, and the quotient rounds to twice the
mantissa. -/
theorem roundHalfEven_of_covers_gap (numeratorPositive : 0 < numerator)
    (positive : 0 < denominator) :
    roundingExponent numerator denominator = magnitude.exponent - 1 ∧
      roundHalfEven (numerator * 2 ^ (-(magnitude.exponent - 1)).toNat)
        (denominator * 2 ^ (magnitude.exponent - 1).toNat) = 2 ^ 53 := by
  have least := canonical.least_le
  have isPower :=
    mantissa_of_covers_gap numerator denominator magnitude covers canonical above small
  have low := covers.low
  rw [magnitude.lowQuarters_narrow isPower (lt_of_le_of_ne least (Ne.symm above))] at low
  have halved : (2 : ℚ) ^ (magnitude.exponent - 2) = 2 * 2 ^ (magnitude.exponent - 1 - 2) := by
    rw [show magnitude.exponent - 2 = 1 + (magnitude.exponent - 1 - 2) by ring,
      zpow_add₀ (by norm_num), zpow_one]
  constructor
  · have belowHere : (numerator : ℚ) / denominator < 2 ^ (53 + (magnitude.exponent - 1)) := by
      rwa [show (53 : ℤ) + (magnitude.exponent - 1) = 52 + magnitude.exponent by ring]
    have aboveHere : (2 : ℚ) ^ (52 + (magnitude.exponent - 1)) ≤ (numerator : ℚ) / denominator := by
      refine le_trans ?_ low
      rw [show (52 : ℤ) + (magnitude.exponent - 1) = 53 + (magnitude.exponent - 2) by ring,
        zpow_add₀ (by norm_num)]
      refine mul_le_mul_of_nonneg_right ?_ (two_zpow_pos _).le
      norm_num
    exact roundingExponent_eq numerator denominator numeratorPositive positive _ (by omega)
      belowHere (Or.inr aboveHere)
  · refine roundHalfEven_at numerator denominator _ positive (2 ^ 53) (by norm_num) ?_ ?_ ?_
    · refine le_trans (le_of_eq ?_) low
      rw [halved]
      norm_num
      ring
    · rw [show (52 : ℤ) = ((52 : Nat) : ℤ) from rfl, two_zpow_eq_quarters 52, halved,
        ← mul_assoc] at small
      refine le_trans small.le (mul_le_mul_of_nonneg_right ?_ (two_zpow_pos _).le)
      norm_num
    · intro odd
      omega

end

/-- Rounding a fraction in the range of a magnitude gives the word of the magnitude. -/
theorem nearestWord_of_covers (numerator denominator : Nat) (positive : 0 < denominator)
    (magnitude : Binary) (canonical : magnitude.Canonical)
    (mantissaPositive : 0 < magnitude.mantissa)
    (covers : magnitude.Covers ((numerator : ℚ) / denominator)) :
    nearestWord numerator denominator = magnitude.word := by
  have numeratorPositive : 0 < numerator := by
    rcases Nat.eq_zero_or_pos numerator with zero | some
    · have fractionPositive := covers.pos mantissaPositive
      rw [zero, Nat.cast_zero, zero_div] at fractionPositive
      exact absurd fractionPositive (lt_irrefl _)
    · exact some
  unfold nearestWord
  rw [if_neg numeratorPositive.ne']
  dsimp only
  by_cases ordinary : magnitude.exponent = Binary.leastExponent ∨
      (2 : ℚ) ^ (52 + magnitude.exponent) ≤ (numerator : ℚ) / denominator
  · rw [roundingExponent_eq numerator denominator numeratorPositive positive magnitude.exponent
        canonical.least_le (covers.lt canonical) ordinary,
      roundHalfEven_of_covers numerator denominator magnitude covers positive mantissaPositive]
  · rw [not_or, not_le] at ordinary
    obtain ⟨above, small⟩ := ordinary
    obtain ⟨isExponent, isMantissa⟩ := roundHalfEven_of_covers_gap numerator denominator magnitude
      covers canonical above small numeratorPositive positive
    have isPower :=
      mantissa_of_covers_gap numerator denominator magnitude covers canonical above small
    have least := canonical.least_le
    rw [isExponent, isMantissa]
    simp only [Binary.word, isPower]
    omega

/-! ### Powers of two -/

/-- A power of two below the limit of the finite numbers is its own nearest number. -/
theorem nearestWord_two_pow (places : Nat) (finite : places < 1024) :
    nearestWord (2 ^ places) 1 = (places + 1023) * 2 ^ 52 := by
  have inQuarters : (2 : ℚ) ^ places = 2 ^ 54 * 2 ^ ((places : ℤ) - 52 - 2) := by
    rw [← zpow_natCast, ← zpow_natCast, ← zpow_add₀ (by norm_num)]
    congr 1
    push_cast
    ring
  have fraction : ((2 ^ places : Nat) : ℚ) / ((1 : Nat) : ℚ) =
      2 ^ 54 * 2 ^ ((places : ℤ) - 52 - 2) := by
    rw [Nat.cast_one, div_one, Nat.cast_pow, Nat.cast_ofNat, inQuarters]
  have quarters := two_zpow_pos ((places : ℤ) - 52 - 2)
  have canonical : Binary.Canonical ⟨2 ^ 52, (places : ℤ) - 52⟩ :=
    ⟨by norm_num, by simp only [Binary.leastExponent]; omega, by dsimp only; omega, Or.inr le_rfl⟩
  rw [nearestWord_of_covers _ 1 Nat.one_pos _ canonical (by norm_num)]
  · rw [Binary.word, Binary.leastExponent]
    dsimp only
    omega
  · refine ⟨?_, ?_, fun odd => absurd odd (by norm_num)⟩
    · rw [fraction]
      refine mul_le_mul_of_nonneg_right ?_ quarters.le
      unfold Binary.lowQuarters
      split <;> norm_num
    · rw [fraction]
      exact mul_le_mul_of_nonneg_right (by norm_num) quarters.le

end MarketSignal
