/-
This file proves that the digits of a floating-point number read back. The search for the fewest
digits ends with a decimal number in the range of the magnitude, at the latest on the grid of
`10 ^ (-1074)`, of which every finite magnitude is a point; and a decimal number in the range of a
magnitude is read as that magnitude, in whatever way its digits and its power of ten are split.
-/
import MarketSignal.Proofs.Number.Rounding

namespace MarketSignal

/-! ### Reading a decimal number -/

theorem Binary.Canonical.bounds (magnitude : Binary) (canonical : magnitude.Canonical)
    (positive : 0 < magnitude.mantissa) (fraction : ℚ) (covers : magnitude.Covers fraction) :
    (2 : ℚ) ^ (-1075 : ℤ) ≤ fraction ∧ fraction ≤ 2 ^ (1024 : ℤ) := by
  have least : (-1074 : ℤ) ≤ magnitude.exponent := canonical.least_le
  constructor
  · have two : 2 ≤ magnitude.lowQuarters := by
      unfold Binary.lowQuarters
      split <;> omega
    calc (2 : ℚ) ^ (-1075 : ℤ) = 2 * 2 ^ (-1076 : ℤ) := by
          rw [show (-1075 : ℤ) = 1 + -1076 by norm_num, zpow_add₀ (by norm_num), zpow_one]
      _ ≤ magnitude.lowQuarters * 2 ^ (magnitude.exponent - 2) := by
          refine mul_le_mul (by exact_mod_cast two) ?_ (zpow_pos (by norm_num) _).le (by positivity)
          exact zpow_le_zpow_right₀ (by norm_num) (by omega)
      _ ≤ fraction := covers.low
  · have quarters : 4 * magnitude.mantissa + 2 ≤ 2 ^ 55 := by
      have := canonical.mantissa_lt
      omega
    calc fraction ≤ ((4 * magnitude.mantissa + 2 : Nat) : ℚ) * 2 ^ (magnitude.exponent - 2) :=
          covers.high
      _ ≤ 2 ^ (55 : ℤ) * 2 ^ (969 : ℤ) := by
          refine mul_le_mul ?_ ?_ (zpow_pos (by norm_num) _).le (by positivity)
          · exact_mod_cast quarters
          · refine zpow_le_zpow_right₀ (by norm_num) ?_
            have := canonical.exponent_le
            omega
      _ = 2 ^ (1024 : ℤ) := by
          rw [← zpow_add₀ (by norm_num)]
          norm_num

/-- A decimal number is a fraction of two whole numbers. -/
theorem decimal_fraction (digits : Nat) (exponent : ℤ) :
    ((digits * 10 ^ exponent.toNat : Nat) : ℚ) / ((10 ^ (-exponent).toNat : Nat) : ℚ) =
      digits * 10 ^ exponent := by
  have scale : ((10 ^ (-exponent).toNat : Nat) : ℚ) ≠ 0 := by positivity
  rw [div_eq_iff scale]
  push_cast
  rw [mul_assoc, zpow_mul_toNat 10 (by norm_num)]

/-- Ten is more than three doublings. -/
theorem two_zpow_le_ten_pow : (2 : ℚ) ^ (1200 : ℤ) ≤ 10 ^ (400 : ℤ) := by
  rw [show (1200 : ℤ) = 3 * 400 by norm_num, zpow_mul]
  exact zpow_le_zpow_left₀ (by norm_num) (by norm_num) (by norm_num)

/-- A decimal number in the range of a magnitude is read as that magnitude. -/
theorem nearestWordOfDecimal_of_covers (digits : Nat) (exponent : ℤ) (magnitude : Binary)
    (canonical : magnitude.Canonical) (positive : 0 < magnitude.mantissa)
    (covers : magnitude.Covers (digits * 10 ^ exponent)) :
    nearestWordOfDecimal digits exponent = magnitude.word := by
  obtain ⟨low, high⟩ := canonical.bounds magnitude positive _ covers
  have tenPower (shift : ℤ) : (0 : ℚ) < 10 ^ shift := zpow_pos (by norm_num) shift
  have someDigits : digits ≠ 0 := by
    rintro rfl
    rw [Nat.cast_zero, zero_mul] at low
    exact absurd low (not_le.mpr (zpow_pos (by norm_num) _))
  have notHuge : ¬ 400 < exponent := by
    intro huge
    have : (2 : ℚ) ^ (1024 : ℤ) < digits * 10 ^ exponent := by
      calc (2 : ℚ) ^ (1024 : ℤ) < 2 ^ (1200 : ℤ) :=
            zpow_lt_zpow_right₀ (by norm_num) (by norm_num)
        _ ≤ 10 ^ (400 : ℤ) := two_zpow_le_ten_pow
        _ ≤ 10 ^ exponent := zpow_le_zpow_right₀ (by norm_num) huge.le
        _ ≤ digits * 10 ^ exponent :=
          le_mul_of_one_le_left (tenPower _).le
            (by exact_mod_cast Nat.one_le_iff_ne_zero.mpr someDigits)
    exact absurd high (not_le.mpr this)
  have notTiny : ¬ exponent < -400 - (digits.log2 : ℤ) := by
    intro tiny
    have : (digits : ℚ) * 10 ^ exponent < 2 ^ (-1075 : ℤ) := by
      calc (digits : ℚ) * 10 ^ exponent < 10 ^ ((digits.log2 : ℤ) + 1) * 10 ^ exponent := by
            refine mul_lt_mul_of_pos_right ?_ (tenPower _)
            have binary : (digits : ℚ) < 2 ^ (digits.log2 + 1) := by
              exact_mod_cast Nat.lt_log2_self (n := digits)
            refine lt_of_lt_of_le binary ?_
            rw [show ((digits.log2 : ℤ) + 1) = ((digits.log2 + 1 : Nat) : ℤ) by push_cast; rfl,
              zpow_natCast]
            exact pow_le_pow_left₀ (by norm_num) (by norm_num) _
        _ = 10 ^ ((digits.log2 : ℤ) + 1 + exponent) := (zpow_add₀ (by norm_num) _ _).symm
        _ ≤ 10 ^ (-400 : ℤ) := zpow_le_zpow_right₀ (by norm_num) (by omega)
        _ ≤ 2 ^ (-1200 : ℤ) := by
          rw [zpow_neg, zpow_neg]
          exact inv_anti₀ (zpow_pos (by norm_num) _) two_zpow_le_ten_pow
        _ < 2 ^ (-1075 : ℤ) := zpow_lt_zpow_right₀ (by norm_num) (by norm_num)
    exact absurd low (not_le.mpr this)
  have finite : magnitude.word ≤ Binary.infinityWord := by
    have mantissaLt := canonical.mantissa_lt
    have exponentLe := canonical.exponent_le
    have limit : Binary.infinityWord = 2047 * 2 ^ 52 := rfl
    simp only [Binary.word, Binary.leastExponent]
    omega
  unfold nearestWordOfDecimal
  rw [if_neg someDigits, if_neg notHuge, if_neg notTiny,
    nearestWord_of_covers _ _ (by positivity) magnitude canonical positive]
  · exact min_eq_right finite
  · rw [decimal_fraction]
    exact covers

/-! ### The test for the range -/

section

variable (digits : Nat) (grid : ℤ) (count : Nat) (exponent : ℤ)

/-- What two scaled numbers are multiplied with to become whole. -/
def commonScale : ℚ := 10 ^ (-grid).toNat * 2 ^ (-exponent).toNat

theorem commonScale_pos : 0 < commonScale grid exponent := by
  unfold commonScale
  positivity

theorem decimal_mul_scale :
    (digits : ℚ) * 10 ^ grid * commonScale grid exponent =
      ((digits * 10 ^ grid.toNat * 2 ^ (-exponent).toNat : Nat) : ℚ) := by
  push_cast
  rw [commonScale, ← zpow_mul_toNat 10 (by norm_num) grid]
  ring

theorem binary_mul_scale :
    (count : ℚ) * 2 ^ exponent * commonScale grid exponent =
      ((count * 2 ^ exponent.toNat * 10 ^ (-grid).toNat : Nat) : ℚ) := by
  push_cast
  rw [commonScale, ← zpow_mul_toNat 2 (by norm_num) exponent]
  ring

theorem compareScaled_eq_gt_iff :
    compareScaled digits grid count exponent = .gt ↔
      (count : ℚ) * 2 ^ exponent < digits * 10 ^ grid := by
  rw [compareScaled, compare_gt_iff_gt, ← Nat.cast_lt (α := ℚ),
    ← decimal_mul_scale, ← binary_mul_scale]
  exact mul_lt_mul_iff_left₀ (commonScale_pos grid exponent)

theorem compareScaled_eq_lt_iff :
    compareScaled digits grid count exponent = .lt ↔
      (digits : ℚ) * 10 ^ grid < count * 2 ^ exponent := by
  rw [compareScaled, compare_lt_iff_lt, ← Nat.cast_lt (α := ℚ),
    ← decimal_mul_scale, ← binary_mul_scale]
  exact mul_lt_mul_iff_left₀ (commonScale_pos grid exponent)

theorem compareScaled_eq_eq_iff :
    compareScaled digits grid count exponent = .eq ↔
      (digits : ℚ) * 10 ^ grid = count * 2 ^ exponent := by
  rw [compareScaled, compare_eq_iff_eq, ← Nat.cast_inj (R := ℚ),
    ← decimal_mul_scale, ← binary_mul_scale]
  exact mul_left_inj' (commonScale_pos grid exponent).ne'

end

/-- A decimal number that is admitted lies in the range. -/
theorem Binary.covers_of_admits (magnitude : Binary) (decimal : Decimal)
    (admitted : magnitude.admits decimal = true) : magnitude.Covers decimal.value := by
  unfold Binary.admits at admitted
  simp only [Bool.and_eq_true, Bool.or_eq_true, beq_iff_eq] at admitted
  obtain ⟨low, high⟩ := admitted
  have lowEnd : (4 * magnitude.mantissa - if (magnitude.mantissa == 2 ^ 52 &&
      decide (Binary.leastExponent < magnitude.exponent)) = true then 1 else 2) =
      magnitude.lowQuarters := rfl
  simp only [Bool.and_eq_true, beq_iff_eq] at lowEnd
  rw [lowEnd] at low
  rw [compareScaled_eq_gt_iff, compareScaled_eq_eq_iff] at low
  rw [compareScaled_eq_lt_iff, compareScaled_eq_eq_iff] at high
  unfold Decimal.value
  refine ⟨?_, ?_, ?_⟩
  · rcases low with above | ⟨-, atEnd⟩
    · exact above.le
    · exact atEnd.symm.le
  · rcases high with below | ⟨-, atEnd⟩
    · exact below.le
    · exact atEnd.le
  · intro odd
    constructor
    · rcases low with above | ⟨even, -⟩
      · exact above.ne
      · omega
    · rcases high with below | ⟨even, -⟩
      · exact below.ne
      · omega

/-- A decimal number that is the magnitude itself is admitted. -/
theorem Binary.admits_of_value_eq (magnitude : Binary) (positive : 0 < magnitude.mantissa)
    (decimal : Decimal) (same : decimal.value = magnitude.value) :
    magnitude.admits decimal = true := by
  have quarter : (0 : ℚ) < 2 ^ (magnitude.exponent - 2) := zpow_pos (by norm_num) _
  have isFour : decimal.value = (4 * magnitude.mantissa : Nat) * 2 ^ (magnitude.exponent - 2) := by
    have split : (2 : ℚ) ^ magnitude.exponent = 4 * 2 ^ (magnitude.exponent - 2) := by
      rw [show (4 : ℚ) = 2 ^ (2 : ℤ) by norm_num, ← zpow_add₀ (by norm_num)]
      congr 1
      ring
    rw [same, Binary.value, split]
    push_cast
    ring
  unfold Binary.admits
  simp only [Bool.and_eq_true, Bool.or_eq_true, beq_iff_eq]
  constructor
  · left
    rw [compareScaled_eq_gt_iff]
    refine lt_of_lt_of_eq ?_ isFour.symm
    refine mul_lt_mul_of_pos_right (Nat.cast_lt.mpr ?_) quarter
    split <;> omega
  · left
    rw [compareScaled_eq_lt_iff]
    refine lt_of_eq_of_lt isFour ?_
    exact mul_lt_mul_of_pos_right (Nat.cast_lt.mpr (by omega)) quarter

/-! ### The search -/

/-- What a grid offers is admitted. -/
theorem Binary.admits_of_onGrid (magnitude : Binary) (grid : ℤ) (decimal : Decimal)
    (found : magnitude.onGrid? grid = some decimal) : magnitude.admits decimal = true := by
  unfold Binary.onGrid? at found
  dsimp only at found
  split at found
  case isTrue admitted =>
    injection found with same
    exact same ▸ admitted
  case isFalse =>
    generalize (if roundHalfEven _ _ = _ then _ else _ : Nat) = farther at found
    split at found
    case isTrue admitted =>
      injection found with same
      exact same ▸ admitted
    case isFalse => cases found

theorem Binary.admits_of_searchGrids (magnitude : Binary) (decimal : Decimal) (grids : Nat)
    (grid : ℤ) (found : magnitude.searchGrids grids grid = some decimal) :
    magnitude.admits decimal = true := by
  induction grids generalizing grid with
  | zero => cases found
  | succ grids inductionHypothesis =>
    rw [Binary.searchGrids] at found
    split at found
    case h_1 offered isOffered =>
      injection found with same
      exact same ▸ magnitude.admits_of_onGrid grid offered isOffered
    case h_2 => exact inductionHypothesis (grid - 1) found

/-- The search ends with a find if one of the grids that it looks at offers one. -/
theorem Binary.searchGrids_isSome (magnitude : Binary) (good : ℤ)
    (offers : (magnitude.onGrid? good).isSome) (grids : Nat) (grid : ℤ) (below : good ≤ grid)
    (reached : grid - good < grids) : (magnitude.searchGrids grids grid).isSome := by
  induction grids generalizing grid with
  | zero => omega
  | succ grids inductionHypothesis =>
    rw [Binary.searchGrids]
    split
    case h_1 => rfl
    case h_2 nothing =>
      have other : good ≠ grid := by
        rintro rfl
        rw [nothing] at offers
        cases offers
      exact inductionHypothesis (grid - 1) (by omega) (by omega)

/-- Every finite magnitude is a point of the grid of `10 ^ (-1074)`. -/
theorem Binary.onGrid_finest (magnitude : Binary) (canonical : magnitude.Canonical)
    (positive : 0 < magnitude.mantissa) :
    (magnitude.onGrid? Binary.leastExponent).isSome := by
  have least : (-1074 : ℤ) ≤ magnitude.exponent := canonical.least_le
  obtain ⟨point, isPoint⟩ : ∃ point : Nat,
      (magnitude.inUnits Binary.leastExponent).1 =
        point * (magnitude.inUnits Binary.leastExponent).2 := by
    obtain ⟨spare, places⟩ : ∃ spare, (-Binary.leastExponent).toNat =
        (-magnitude.exponent).toNat + spare :=
      Nat.exists_eq_add_of_le (by show (-magnitude.exponent).toNat ≤ 1074; omega)
    have coarsest : Binary.leastExponent.toNat = 0 := rfl
    refine ⟨magnitude.mantissa * 2 ^ magnitude.exponent.toNat *
      (5 ^ (-magnitude.exponent).toNat * 10 ^ spare), ?_⟩
    simp only [Binary.inUnits, places, coarsest, pow_zero, mul_one]
    rw [pow_add, show (10 : Nat) ^ (-magnitude.exponent).toNat =
      5 ^ (-magnitude.exponent).toNat * 2 ^ (-magnitude.exponent).toNat from mul_pow 5 2 _]
    ring
  have unitPositive : 0 < (magnitude.inUnits Binary.leastExponent).2 := by
    simp only [Binary.inUnits]
    positivity
  have nearer : roundHalfEven (magnitude.inUnits Binary.leastExponent).1
      (magnitude.inUnits Binary.leastExponent).2 = point := by
    rw [isPoint]
    apply roundHalfEven_eq _ _ _ unitPositive
    · nlinarith
    · nlinarith
    · intro _
      constructor <;> nlinarith
  have same : Decimal.value ⟨point, Binary.leastExponent⟩ = magnitude.value := by
    have whole : (point : ℚ) * (magnitude.inUnits Binary.leastExponent).2 =
        (magnitude.inUnits Binary.leastExponent).1 := by exact_mod_cast isPoint.symm
    have scale := commonScale_pos Binary.leastExponent magnitude.exponent
    refine mul_right_cancel₀ scale.ne' ?_
    rw [Decimal.value, Binary.value, decimal_mul_scale, binary_mul_scale]
    have coarsest : Binary.leastExponent.toNat = 0 := rfl
    simp only [Binary.inUnits, coarsest, pow_zero, mul_one] at whole ⊢
    exact_mod_cast whole
  have admitted := magnitude.admits_of_value_eq positive _ same
  unfold Binary.onGrid?
  simp only [nearer, admitted, if_true, Option.isSome_some]

theorem Binary.coarseGrid_ge (magnitude : Binary) (canonical : magnitude.Canonical) :
    Binary.leastExponent ≤ magnitude.coarseGrid := by
  have least : (-1074 : ℤ) ≤ magnitude.exponent := canonical.least_le
  unfold Binary.coarseGrid Binary.leastExponent
  dsimp only
  split <;> omega

/-- The digits of a magnitude lie in its range, so they read back. -/
theorem Binary.covers_shortest (magnitude : Binary) (canonical : magnitude.Canonical)
    (positive : 0 < magnitude.mantissa) : magnitude.Covers magnitude.shortest.value := by
  have start := magnitude.coarseGrid_ge canonical
  have least : Binary.leastExponent = -1074 := rfl
  have found := magnitude.searchGrids_isSome Binary.leastExponent
    (magnitude.onGrid_finest canonical positive) (magnitude.coarseGrid + 1075).toNat
    magnitude.coarseGrid start (by omega)
  obtain ⟨decimal, isFound⟩ := Option.isSome_iff_exists.mp found
  have same : magnitude.shortest = decimal := by
    unfold Binary.shortest
    simp only [isFound, Option.getD_some]
  rw [same]
  exact magnitude.covers_of_admits decimal (magnitude.admits_of_searchGrids decimal _ _ isFound)

theorem Binary.shortest_digits_pos (magnitude : Binary) (canonical : magnitude.Canonical)
    (positive : 0 < magnitude.mantissa) : 0 < magnitude.shortest.digits := by
  obtain ⟨low, -⟩ :=
    canonical.bounds magnitude positive _ (magnitude.covers_shortest canonical positive)
  rcases Nat.eq_zero_or_pos magnitude.shortest.digits with zero | some
  · rw [Decimal.value, zero, Nat.cast_zero, zero_mul] at low
    exact absurd low (not_le.mpr (zpow_pos (by norm_num) _))
  · exact some

end MarketSignal
