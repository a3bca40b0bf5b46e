/-
This file proves how floating-point numbers are compared and added, as far as the number that is
none is concerned. That number compares with nothing; all others stand in one line, in which the two
zeros share a place. A sum of two other numbers is none only if they are opposite infinities.
-/
import MarketSignal.Proofs.Number.Word

namespace MarketSignal

open Float.Model Float.Model.UnpackedFloat

/-- A number unpacked. -/
abbrev unpacked (number : Float) : UnpackedFloat := number.toModel.unpack

/-! ### The number that is none -/

theorem isNotANumber_iff (number : Float) :
    isNotANumber number = true ↔ unpacked number = .notANumber := by
  show (!((unpacked number).compare (unpacked number) == some .eq)) = true ↔ _
  constructor
  · intro differs
    by_contra proper
    rw [UnpackedFloat_compare_self _ proper] at differs
    cases differs
  · intro none_
    rw [none_]
    rfl

theorem proper_iff (number : Float) :
    isNotANumber number = false ↔ unpacked number ≠ .notANumber := by
  rw [← Bool.not_eq_true, isNotANumber_iff]

/-! ### Comparing -/

theorem compare_notANumber_left (other : UnpackedFloat) :
    UnpackedFloat.compare .notANumber other = none := by
  cases other <;> rfl

theorem compare_notANumber_right (other : UnpackedFloat) :
    UnpackedFloat.compare other .notANumber = none := by
  cases other <;> rfl

/-- Numbers that are not the one that is none compare, and the other way round as well. -/
theorem compare_swap (left right : UnpackedFloat) (leftProper : left ≠ .notANumber)
    (rightProper : right ≠ .notANumber) :
    ∃ order, left.compare right = some order ∧ right.compare left = some order.swap := by
  cases left with
  | notANumber => exact absurd rfl leftProper
  | infinity leftSign =>
    cases right with
    | notANumber => exact absurd rfl rightProper
    | infinity rightSign => cases leftSign <;> cases rightSign <;> exact ⟨_, rfl, rfl⟩
    | zero rightSign => cases leftSign <;> exact ⟨_, rfl, rfl⟩
    | finite rightSign => cases leftSign <;> exact ⟨_, rfl, rfl⟩
  | zero leftSign =>
    cases right with
    | notANumber => exact absurd rfl rightProper
    | infinity rightSign => cases rightSign <;> exact ⟨_, rfl, rfl⟩
    | zero rightSign => exact ⟨_, rfl, rfl⟩
    | finite rightSign => cases rightSign <;> exact ⟨_, rfl, rfl⟩
  | finite leftSign leftMantissa leftExponent leftPositive =>
    cases right with
    | notANumber => exact absurd rfl rightProper
    | infinity rightSign => cases rightSign <;> cases leftSign <;> exact ⟨_, rfl, rfl⟩
    | zero rightSign => cases leftSign <;> exact ⟨_, rfl, rfl⟩
    | finite rightSign rightMantissa rightExponent rightPositive =>
      -- Of one sign the exponents decide, and then the mantissas.
      have magnitudes : (compare rightExponent leftExponent).then
            (compare rightMantissa leftMantissa) =
          ((compare leftExponent rightExponent).then
            (compare leftMantissa rightMantissa)).swap := by
        rw [Ordering.swap_then, Int.compare_swap, Nat.compare_swap]
      cases leftSign with
      | positive =>
        cases rightSign with
        | positive => exact ⟨_, rfl, congrArg some magnitudes⟩
        | negative => exact ⟨_, rfl, rfl⟩
      | negative =>
        cases rightSign with
        | positive => exact ⟨_, rfl, rfl⟩
        | negative => exact ⟨_, rfl, congrArg some (congrArg Ordering.swap magnitudes)⟩

theorem lt_iff (left right : Float) :
    left < right ↔ (unpacked left).compare (unpacked right) = some .lt := by
  show decide (((unpacked left).compare (unpacked right) == some .lt) = true) = true ↔ _
  rw [decide_eq_true_iff, beq_iff_eq]

theorem le_iff (left right : Float) :
    left ≤ right ↔ ((unpacked left).compare (unpacked right)).any (·.isLE) = true := by
  show decide (((unpacked left).compare (unpacked right)).any (·.isLE) = true) = true ↔ _
  rw [decide_eq_true_iff]

/-- A number that does not exceed a limit lies under it, if both are numbers. -/
theorem le_of_not_lt {limit number : Float} (limitProper : isNotANumber limit = false)
    (proper : isNotANumber number = false) (within : ¬ number < limit) : limit ≤ number := by
  obtain ⟨order, isOrder, isSwap⟩ := compare_swap (unpacked number) (unpacked limit)
    ((proper_iff number).mp proper) ((proper_iff limit).mp limitProper)
  rw [lt_iff, isOrder] at within
  rw [le_iff, isSwap]
  cases order
  · exact absurd rfl within
  · rfl
  · rfl

theorem not_lt_of_isNotANumber {number : Float} (none_ : isNotANumber number = true)
    (other : Float) : ¬ number < other := by
  rw [lt_iff, (isNotANumber_iff number).mp none_, compare_notANumber_left]
  exact nofun

theorem not_le_of_isNotANumber {number : Float} (none_ : isNotANumber number = true)
    (other : Float) : ¬ other ≤ number := by
  rw [le_iff, (isNotANumber_iff number).mp none_, compare_notANumber_right]
  exact Bool.false_ne_true

/-! ### All numbers in a line -/

/-- Where a number stands among all others: below or above zero and how far, then its exponent, then
its mantissa. Below zero the last two count the other way. -/
def standing : UnpackedFloat → ℤ ×ₗ ℤ ×ₗ ℤ
  | .infinity .negative => toLex (-2, toLex (0, 0))
  | .finite .negative mantissa exponent _ => toLex (-1, toLex (-exponent, -mantissa))
  | .zero _ => toLex (0, toLex (0, 0))
  | .finite .positive mantissa exponent _ => toLex (1, toLex (exponent, mantissa))
  | .infinity .positive => toLex (2, toLex (0, 0))
  | .notANumber => toLex (0, toLex (0, 0))

theorem compare_lt_iff (left right : UnpackedFloat) (leftProper : left ≠ .notANumber)
    (rightProper : right ≠ .notANumber) :
    left.compare right = some .lt ↔ standing left < standing right := by
  cases left with
  | notANumber => exact absurd rfl leftProper
  | infinity leftSign =>
    cases right with
    | notANumber => exact absurd rfl rightProper
    | infinity rightSign => cases leftSign <;> cases rightSign <;> decide
    | zero => cases leftSign <;> simp [UnpackedFloat.compare, standing, Prod.Lex.toLex_lt_toLex]
    | finite rightSign =>
      cases leftSign <;> cases rightSign <;>
        simp [UnpackedFloat.compare, standing, Prod.Lex.toLex_lt_toLex]
  | zero leftSign =>
    cases right with
    | notANumber => exact absurd rfl rightProper
    | infinity rightSign =>
      cases rightSign <;> simp [UnpackedFloat.compare, standing, Prod.Lex.toLex_lt_toLex]
    | zero => simp [UnpackedFloat.compare, standing]
    | finite rightSign =>
      cases rightSign <;> simp [UnpackedFloat.compare, standing, Prod.Lex.toLex_lt_toLex]
  | finite leftSign =>
    cases right with
    | notANumber => exact absurd rfl rightProper
    | infinity rightSign =>
      cases leftSign <;> cases rightSign <;>
        simp [UnpackedFloat.compare, standing, Prod.Lex.toLex_lt_toLex]
    | zero => cases leftSign <;> simp [UnpackedFloat.compare, standing, Prod.Lex.toLex_lt_toLex]
    | finite rightSign =>
      -- Of one sign the exponents decide, and then the mantissas.
      cases leftSign <;> cases rightSign <;>
        simp [UnpackedFloat.compare, standing, Prod.Lex.toLex_lt_toLex, Ordering.then_eq_lt,
          Ordering.swap_then, compare_lt_iff_lt, compare_gt_iff_gt]

/-- Where a number stands among all others. -/
def rank (number : Float) : ℤ ×ₗ ℤ ×ₗ ℤ := standing (unpacked number)

section

variable {left middle right : Float} (leftProper : isNotANumber left = false)
  (middleProper : isNotANumber middle = false) (rightProper : isNotANumber right = false)

include leftProper rightProper

theorem lt_iff_rank : left < right ↔ rank left < rank right := by
  rw [lt_iff]
  exact compare_lt_iff _ _ ((proper_iff left).mp leftProper) ((proper_iff right).mp rightProper)

theorem not_lt_iff_le : ¬ left < right ↔ right ≤ left := by
  refine ⟨le_of_not_lt rightProper leftProper, fun within below => ?_⟩
  obtain ⟨order, isOrder, isSwap⟩ := compare_swap (unpacked left) (unpacked right)
    ((proper_iff left).mp leftProper) ((proper_iff right).mp rightProper)
  rw [lt_iff, isOrder] at below
  rw [le_iff, isSwap] at within
  cases below
  exact absurd within (by decide)

theorem le_iff_rank : left ≤ right ↔ rank left ≤ rank right := by
  rw [← not_lt_iff_le rightProper leftProper, lt_iff_rank rightProper leftProper, not_lt]

include middleProper

theorem proper_le_trans (first : left ≤ middle) (second : middle ≤ right) : left ≤ right := by
  rw [le_iff_rank leftProper middleProper] at first
  rw [le_iff_rank middleProper rightProper] at second
  rw [le_iff_rank leftProper rightProper]
  exact first.trans second

theorem proper_lt_of_le_of_lt (first : left ≤ middle) (second : middle < right) :
    left < right := by
  rw [le_iff_rank leftProper middleProper] at first
  rw [lt_iff_rank middleProper rightProper] at second
  rw [lt_iff_rank leftProper rightProper]
  exact first.trans_lt second

end

/-! ### The infinities -/

/-- Infinity below all other numbers. -/
def negativeInfinity : Float := floatOfWord true Binary.infinityWord

theorem unpacked_infinity : unpacked infinity = .infinity .positive := by rfl

theorem unpacked_negativeInfinity : unpacked negativeInfinity = .infinity .negative := by rfl

theorem unpacked_injective (left right : Float) (same : unpacked left = unpacked right) :
    left = right := by
  obtain ⟨⟨left, leftValid⟩⟩ := left
  obtain ⟨⟨right, rightValid⟩⟩ := right
  have sameBits : left.toBitVec = right.toBitVec :=
    (unpack_inj_of_valid leftValid rightValid).mp same
  cases UInt64.toBitVec_inj.mp sameBits
  rfl

theorem eq_infinity_iff (number : Float) :
    number = infinity ↔ unpacked number = .infinity .positive :=
  ⟨fun same => same ▸ unpacked_infinity,
    fun same => unpacked_injective _ _ (same.trans unpacked_infinity.symm)⟩

theorem eq_negativeInfinity_iff (number : Float) :
    number = negativeInfinity ↔ unpacked number = .infinity .negative :=
  ⟨fun same => same ▸ unpacked_negativeInfinity,
    fun same => unpacked_injective _ _ (same.trans unpacked_negativeInfinity.symm)⟩

/-- Nothing lies above infinity. -/
theorem not_infinity_lt (number : Float) : ¬ infinity < number := by
  rw [lt_iff, unpacked_infinity]
  cases unpacked number with
  | infinity sign => cases sign <;> exact nofun
  | notANumber => exact nofun
  | zero => exact nofun
  | finite => exact nofun

/-! ### Adding -/

theorem normalize_proper (spec : Format) (mantissa : Int) (exponent : Int) (zeroSign : Sign) :
    UnpackedFloat.normalize spec mantissa exponent zeroSign ≠ .notANumber := by
  have rounded (sign : Sign) (mantissa : Nat) (exponent : Int) (accuracy : Accuracy) :
      roundWithAccuracy spec sign mantissa exponent accuracy ≠ .notANumber := by
    unfold roundWithAccuracy
    dsimp only
    split <;> exact nofun
  unfold UnpackedFloat.normalize UnpackedFloat.round
  dsimp only
  split
  · exact rounded _ _ _ _
  · exact nofun
  · exact rounded _ _ _ _

/-- Packing makes the number that is none of nothing else. -/
theorem unpack_pack_proper (number : UnpackedFloat) (proper : number ≠ .notANumber) :
    UnpackedFloat.unpack Format.binary64 (UnpackedFloat.pack Format.binary64 number) ≠
      .notANumber := by
  have fields (sign : Sign) (exponent : BitVec 11) (fraction : BitVec 52)
      (small : exponent = -1#11 → fraction = 0#52) :
      UnpackedFloat.unpack Format.binary64
        (packComponents Format.binary64 sign exponent fraction) ≠ .notANumber := by
    unfold UnpackedFloat.unpack
    simp only [unpackExponent_packComponents, unpackMantissa_packComponents]
    split
    case isTrue allOnes =>
      rw [if_pos (small allOnes)]
      exact nofun
    case isFalse =>
      split
      · split <;> exact nofun
      · exact nofun
  cases number with
  | notANumber => exact absurd rfl proper
  | infinity sign => exact fields sign _ _ fun _ => rfl
  | zero sign => exact fields sign _ _ fun allOnes => absurd allOnes (by decide)
  | finite sign mantissa exponent positive =>
    unfold UnpackedFloat.pack
    dsimp only
    split
    · exact fields sign _ _ fun _ => rfl
    case isFalse fits =>
      split
      · refine fields sign _ _ fun allOnes => absurd (congrArg BitVec.toNat allOnes) ?_
        rw [BitVec.toNat_ofNat]
        show _ % 2 ^ 11 ≠ 2047
        have limit : ¬ 2 ^ 11 ≤ _ + 1 := fits
        omega
      · exact fields sign _ _ fun allOnes => absurd allOnes (by decide)

theorem add_notANumber_iff (left right : UnpackedFloat) :
    UnpackedFloat.add Format.binary64 left right = .notANumber ↔
      left = .notANumber ∨ right = .notANumber ∨
        (left = .infinity .positive ∧ right = .infinity .negative) ∨
        (left = .infinity .negative ∧ right = .infinity .positive) := by
  cases left with
  | notANumber => exact iff_of_true (by cases right <;> rfl) (Or.inl rfl)
  | infinity leftSign =>
    cases right with
    | notANumber => exact iff_of_true rfl (Or.inr (Or.inl rfl))
    | infinity rightSign => cases leftSign <;> cases rightSign <;> simp [UnpackedFloat.add]
    | zero => simp [UnpackedFloat.add]
    | finite => simp [UnpackedFloat.add]
  | zero leftSign =>
    cases right with
    | notANumber => exact iff_of_true rfl (Or.inr (Or.inl rfl))
    | infinity => simp [UnpackedFloat.add]
    | zero rightSign => cases leftSign <;> cases rightSign <;> simp [UnpackedFloat.add]
    | finite => simp [UnpackedFloat.add]
  | finite leftSign leftMantissa leftExponent leftPositive =>
    cases right with
    | notANumber => exact iff_of_true rfl (Or.inr (Or.inl rfl))
    | infinity => simp [UnpackedFloat.add]
    | zero => simp [UnpackedFloat.add]
    | finite rightSign rightMantissa rightExponent rightPositive =>
      exact iff_of_false (normalize_proper _ _ _ _) (by simp)

/-- One number is infinite and the other the opposite infinity. -/
def Opposite (left right : Float) : Prop :=
  (left = infinity ∧ right = negativeInfinity) ∨ (left = negativeInfinity ∧ right = infinity)

/-- A sum is the number that is none if one of its terms is, or if they are opposite infinities. -/
theorem isNotANumber_add_iff (left right : Float) :
    isNotANumber (left + right) = true ↔
      isNotANumber left = true ∨ isNotANumber right = true ∨ Opposite left right := by
  simp only [isNotANumber_iff, Opposite, eq_infinity_iff, eq_negativeInfinity_iff]
  rw [← add_notANumber_iff]
  show UnpackedFloat.unpack Format.binary64 (UnpackedFloat.pack Format.binary64
    (UnpackedFloat.add Format.binary64 (unpacked left) (unpacked right))) = .notANumber ↔ _
  constructor
  · intro none_
    by_contra proper
    exact unpack_pack_proper _ proper none_
  · intro none_
    rw [none_]
    exact unpack_packedNaN

end MarketSignal
