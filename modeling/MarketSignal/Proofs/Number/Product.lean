/-
This file proves when a product of floating-point numbers is a number. An operand that is none makes
the product none, and so does an infinity with a zero; a finite operand other than zero does no harm
to the other one. The powers of two by which waits are doubled are such operands.
-/
import MarketSignal.Proofs.Number.Order
import MarketSignal.Proofs.Number.Rounding

namespace MarketSignal

open Float.Model Float.Model.UnpackedFloat

/-! ### Words of finite numbers -/

theorem toBits_floatOfWord (negative : Bool) (word : Nat) (proper : word ≤ Binary.infinityWord) :
    (floatOfWord negative word).toBits.toNat = if negative then 2 ^ 63 + word else word := by
  have limit : Binary.infinityWord = 2047 * 2 ^ 52 := rfl
  have bits : (UInt64.ofNat (if negative = true then 2 ^ 63 + word else word)).toNat =
      if negative then 2 ^ 63 + word else word := by
    rw [UInt64.toNat_ofNat']
    split <;> omega
  have back : (floatOfWord negative word).toBits =
      UInt64.ofNat (if negative = true then 2 ^ 63 + word else word) := by
    refine toBits_ofBits _ ?_
    rw [bits]
    split <;> omega
  rw [back, bits]

/-- A word whose whole part counts at least one, but not as much as that of infinity, stands for a
finite number other than zero. -/
theorem unpacked_floatOfWord (negative : Bool) (word : Nat) (normal : 2 ^ 52 ≤ word)
    (finite : word < Binary.infinityWord) :
    ∃ sign mantissa exponent positive,
      unpacked (floatOfWord negative word) = .finite sign mantissa exponent positive := by
  have limit : Binary.infinityWord = 2047 * 2 ^ 52 := rfl
  have bits := toBits_floatOfWord negative word finite.le
  have field : (exponentField (floatOfWord negative word).toBits.toBitVec).toNat =
      word / 2 ^ 52 := by
    rw [exponentField_toNat, UInt64.toNat_toBitVec, bits]
    split <;> omega
  show ∃ sign mantissa exponent positive,
    UnpackedFloat.unpack Format.binary64 (floatOfWord negative word).toBits.toBitVec = _
  unfold UnpackedFloat.unpack
  dsimp only
  split
  case isTrue allOnes =>
    have high : (exponentField (floatOfWord negative word).toBits.toBitVec).toNat = 2047 :=
      congrArg BitVec.toNat allOnes
    omega
  case isFalse =>
    split
    case isTrue noExponent =>
      have low : (exponentField (floatOfWord negative word).toBits.toBitVec).toNat = 0 :=
        congrArg BitVec.toNat noExponent
      omega
    case isFalse =>
      refine ⟨_, _, _, ?_, rfl⟩
      rw [leadingBit_toNat]
      exact Nat.add_pos_left (Nat.two_pow_pos 52) _

/-! ### Multiplying -/

theorem mul_proper (left : UnpackedFloat) (leftProper : left ≠ .notANumber) (sign : Sign)
    (mantissa : Nat) (exponent : Int) (positive : 0 < mantissa) :
    UnpackedFloat.mul Format.binary64 left (.finite sign mantissa exponent positive) ≠
      .notANumber := by
  cases left with
  | notANumber => exact absurd rfl leftProper
  | infinity => exact nofun
  | zero => exact nofun
  | finite =>
    unfold UnpackedFloat.mul roundWithAccuracy
    dsimp only
    split <;> exact nofun

/-- A number times a finite one other than zero is a number. -/
theorem isNotANumber_mul {left right : Float} (leftProper : isNotANumber left = false)
    {sign : Sign} {mantissa : Nat} {exponent : Int} {positive : 0 < mantissa}
    (finite : unpacked right = .finite sign mantissa exponent positive) :
    isNotANumber (left * right) = false := by
  rw [proper_iff] at leftProper ⊢
  show UnpackedFloat.unpack Format.binary64 (UnpackedFloat.pack Format.binary64
    (UnpackedFloat.mul Format.binary64 (unpacked left) (unpacked right))) ≠ .notANumber
  rw [finite]
  exact unpack_pack_proper _ (mul_proper _ leftProper _ _ _ _)

/-- A number times a power of two is a number. -/
theorem isNotANumber_mul_two_pow {value factor : Float} (proper : isNotANumber value = false)
    (places : Nat) (early : places < 1024) (isPower : floatOfInt? (2 ^ places) = some factor) :
    isNotANumber (value * factor) = false := by
  have magnitude : ((2 : Int) ^ places).natAbs = 2 ^ places := Int.natAbs_pow 2 places
  have limit : Binary.infinityWord = 2047 * 2 ^ 52 := rfl
  unfold floatOfInt? at isPower
  dsimp only at isPower
  rw [magnitude, nearestWord_two_pow places early, if_pos (by omega)] at isPower
  cases isPower
  obtain ⟨sign, mantissa, exponent, positive, finite⟩ := unpacked_floatOfWord
    (decide ((2 : Int) ^ places < 0)) ((places + 1023) * 2 ^ 52) (by omega) (by omega)
  exact isNotANumber_mul proper finite

end MarketSignal
