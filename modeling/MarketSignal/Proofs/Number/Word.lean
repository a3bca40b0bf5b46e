/-
This file ties the machine's floating-point numbers to the words that the exact arithmetic works
on. A number is its sixty-four bits: a sign, an exponent field and a fraction field. Unpacking the
bits and packing them again changes nothing, because the only bits that do not stand for
themselves, those of the numbers that are none, have one fixed form.

From this follow the two facts that the rest builds on. A number that is taken apart into a sign
and a magnitude is put together again from the word of the magnitude, and a word that is put
together is taken apart into what it was made from.
-/
import Mathlib
import MarketSignal.Number.Binary

namespace MarketSignal

open Float.Model Float.Model.UnpackedFloat

/-! ### The three fields of sixty-four bits -/

/-- The fraction field. -/
abbrev fractionField (bits : BitVec 64) : BitVec 52 := @unpackMantissa Format.binary64 bits

/-- The exponent field. -/
abbrev exponentField (bits : BitVec 64) : BitVec 11 := @unpackExponent Format.binary64 bits

/-- The sign field. -/
abbrev signField (bits : BitVec 64) : BitVec 1 := @unpackSign Format.binary64 bits

theorem fractionField_toNat (bits : BitVec 64) :
    (fractionField bits).toNat = bits.toNat % 2 ^ 52 := by
  simp [fractionField, unpackMantissa, BitVec.extractLsb]

theorem exponentField_toNat (bits : BitVec 64) :
    (exponentField bits).toNat = bits.toNat / 2 ^ 52 % 2 ^ 11 := by
  simp [exponentField, unpackExponent, BitVec.extractLsb, Nat.shiftRight_eq_div_pow]

theorem signField_toNat (bits : BitVec 64) : (signField bits).toNat = bits.toNat / 2 ^ 63 := by
  have bound := bits.isLt
  simp [signField, unpackSign, BitVec.extractLsb, Nat.shiftRight_eq_div_pow]
  omega

theorem packComponents_toNat (sign : Sign) (exponent : BitVec 11) (fraction : BitVec 52) :
    (packComponents Format.binary64 sign exponent fraction).toNat =
      sign.toBitVec.toNat * 2 ^ 63 + exponent.toNat * 2 ^ 52 + fraction.toNat := by
  have exponentBound := exponent.isLt
  have fractionBound := fraction.isLt
  simp only [packComponents, BitVec.toNat_append]
  rw [← Nat.shiftLeft_add_eq_or_of_lt exponentBound,
    ← Nat.shiftLeft_add_eq_or_of_lt fractionBound]
  simp only [Nat.shiftLeft_eq]
  omega

theorem toBitVec_ofBitVec (sign : BitVec 1) :
    (Sign.ofBitVec sign).toBitVec.toNat = sign.toNat := by
  obtain zero | one := BitVec.eq_zero_or_eq_one sign
  · rw [zero]; rfl
  · rw [one]; rfl

/-- The bits are put together again from their fields. -/
theorem packComponents_fields (bits : BitVec 64) :
    packComponents Format.binary64 (Sign.ofBitVec (signField bits)) (exponentField bits)
      (fractionField bits) = bits := by
  have bound := bits.isLt
  apply BitVec.eq_of_toNat_eq
  rw [packComponents_toNat, toBitVec_ofBitVec, signField_toNat, exponentField_toNat,
    fractionField_toNat]
  omega

/-! ### Unpacking and packing -/

theorem log2_eq_of_bounds (value place : Nat) (low : 2 ^ place ≤ value)
    (high : value < 2 ^ (place + 1)) : value.log2 = place := by
  rw [Nat.log2_eq_iff (by have := Nat.two_pow_pos place; omega)]
  exact ⟨low, high⟩

/-- With the implicit leading bit a fraction has exactly fifty-three places. -/
theorem leadingBit_toNat (fraction : BitVec 52) :
    (1#1 ++ fraction).toNat = 2 ^ 52 + fraction.toNat := by
  rw [BitVec.toNat_append, ← Nat.shiftLeft_add_eq_or_of_lt fraction.isLt]
  rfl

/-- A number above the subnormal ones is packed into its own fields. -/
theorem pack_normal (sign : Sign) (exponent : BitVec 11) (fraction : BitVec 52)
    (notAllOnes : exponent.toNat ≠ 2047) (notZero : exponent.toNat ≠ 0)
    (positive : 0 < (1#1 ++ fraction).toNat) :
    UnpackedFloat.pack Format.binary64
        (.finite sign (1#1 ++ fraction).toNat ((exponent.toNat : Int) - (1023 + 52)) positive) =
      packComponents Format.binary64 sign exponent fraction := by
  have exponentBound : exponent.toNat < 2 ^ 11 := exponent.isLt
  have fractionBound : fraction.toNat < 2 ^ 52 := fraction.isLt
  have full : (1#1 ++ fraction).toNat.log2 + 1 = Format.binary64.mantissaBits := by
    rw [leadingBit_toNat, log2_eq_of_bounds _ 52 (by omega) (by omega)]
    rfl
  have bias : (Format.binary64.exponentBias : Int) = 1023 := rfl
  have biased : ((exponent.toNat : Int) - (1023 + 52) + 1023 + (52 : Nat)).toNat =
      exponent.toNat := by omega
  simp only [UnpackedFloat.pack, bias, biased]
  rw [if_neg (by show ¬ 2 ^ 11 ≤ exponent.toNat + 1; omega), if_pos full]
  apply BitVec.eq_of_toNat_eq
  rw [packComponents_toNat, packComponents_toNat, BitVec.toNat_ofNat, BitVec.toNat_ofNat,
    leadingBit_toNat]
  omega

/-- A subnormal number is packed into its own fields. -/
theorem pack_subnormal (sign : Sign) (fraction : BitVec 52) (positive : 0 < fraction.toNat) :
    UnpackedFloat.pack Format.binary64 (.finite sign fraction.toNat (-1074) positive) =
      packComponents Format.binary64 sign 0 fraction := by
  have fractionBound : fraction.toNat < 2 ^ 52 := fraction.isLt
  have short : ¬ fraction.toNat.log2 + 1 = Format.binary64.mantissaBits := by
    intro full
    have place : 52 ≤ fraction.toNat.log2 := by
      have : Format.binary64.mantissaBits = 53 := rfl
      omega
    have := (Nat.le_log2 (by omega)).mp place
    omega
  simp only [UnpackedFloat.pack]
  rw [if_neg (by decide), if_neg short, BitVec.ofNat_toNat, BitVec.setWidth_eq]
  rfl

theorem pack_unpack (bits : BitVec 64) (valid : Format.binary64.Valid bits) :
    UnpackedFloat.pack Format.binary64 (UnpackedFloat.unpack Format.binary64 bits) = bits := by
  have fields := packComponents_fields bits
  unfold UnpackedFloat.unpack
  dsimp only
  split
  case isTrue allOnes =>
    split
    case isTrue noFraction =>
      have fieldsHere := fields
      rw [show exponentField bits = _ from allOnes,
        show fractionField bits = _ from noFraction] at fieldsHere
      exact fieldsHere
    case isFalse someFraction => exact (valid.eq_packedNaN allOnes someFraction).symm
  case isFalse notAllOnes =>
    have belowAllOnes : (exponentField bits).toNat ≠ 2047 :=
      fun equal => notAllOnes (BitVec.eq_of_toNat_eq equal)
    split
    case isTrue noExponent =>
      have exponentZero : exponentField bits = 0 := noExponent
      rw [exponentZero] at fields
      split
      case isTrue noFraction =>
        rw [show fractionField bits = _ from noFraction] at fields
        exact fields
      case isFalse someFraction =>
        have positive : 0 < (fractionField bits).toNat :=
          Nat.pos_of_ne_zero fun zero => someFraction (BitVec.eq_of_toNat_eq zero)
        have least : ((exponentField bits).toNat : Int) - (1023 + 52) + 1 = -1074 := by
          rw [exponentZero]; rfl
        refine Eq.trans ?_ fields
        rw [← pack_subnormal _ _ positive]
        refine congrArg (UnpackedFloat.pack Format.binary64) ?_
        rw [UnpackedFloat.finite.injEq]
        exact ⟨rfl, rfl, least⟩
    case isFalse someExponent =>
      have aboveZero : (exponentField bits).toNat ≠ 0 :=
        fun equal => someExponent (BitVec.eq_of_toNat_eq equal)
      exact (pack_normal _ _ _ belowAllOnes aboveZero _).trans fields

theorem ofBits_toBits (number : Float) : Float.ofBits number.toBits = number := by
  obtain ⟨⟨bits, valid⟩⟩ := number
  have same := pack_unpack bits.toBitVec valid
  simp only [Float.ofBits, Float.toBits, Float.Model.ofBits, Float.Model.pack, same]

/-- Bits survive as bits unless they are those of a number that is none. -/
theorem toBits_ofBits (bits : UInt64)
    (proper : bits.toNat % 2 ^ 63 ≤ Binary.infinityWord) : (Float.ofBits bits).toBits = bits := by
  have valid : Format.binary64.Valid bits.toBitVec := by
    constructor
    intro allOnes someFraction
    refine absurd (BitVec.eq_of_toNat_eq ?_) someFraction
    have exponentHigh : (exponentField bits.toBitVec).toNat = 2047 := congrArg BitVec.toNat allOnes
    rw [exponentField_toNat, UInt64.toNat_toBitVec] at exponentHigh
    have fraction := fractionField_toNat bits.toBitVec
    rw [UInt64.toNat_toBitVec] at fraction
    have limit : Binary.infinityWord = 2047 * 2 ^ 52 := rfl
    show (fractionField bits.toBitVec).toNat = 0
    omega
  have same := pack_unpack bits.toBitVec valid
  simp only [Float.ofBits, Float.toBits, Float.Model.ofBits, Float.Model.pack, same]

/-! ### Numbers and their words -/

/-- The words of the finite magnitudes are those of the mantissas that fill their places, and of the
smaller ones at the least exponent. -/
structure Binary.Canonical (magnitude : Binary) : Prop where
  mantissa_lt : magnitude.mantissa < 2 ^ 53
  least_le : Binary.leastExponent ≤ magnitude.exponent
  exponent_le : magnitude.exponent ≤ 971
  full : magnitude.exponent = Binary.leastExponent ∨ 2 ^ 52 ≤ magnitude.mantissa

theorem Binary.word_ofWord (word : Nat) : (Binary.ofWord word).word = word := by
  unfold Binary.ofWord Binary.word
  split
  · simp
  · simp only [Binary.leastExponent]
    omega

theorem Binary.canonical_ofWord (word : Nat) (finite : word < Binary.infinityWord) :
    (Binary.ofWord word).Canonical := by
  have limit : Binary.infinityWord = 2047 * 2 ^ 52 := rfl
  unfold Binary.ofWord
  split
  · refine ⟨?_, le_rfl, ?_, Or.inl rfl⟩
    · show word < 2 ^ 53
      omega
    · show Binary.leastExponent ≤ 971
      decide
  · refine ⟨?_, ?_, ?_, Or.inr ?_⟩
    · show 2 ^ 52 + word % 2 ^ 52 < 2 ^ 53
      omega
    · show Binary.leastExponent ≤ (word / 2 ^ 52 : Nat) - 1 + Binary.leastExponent
      omega
    · show (word / 2 ^ 52 : Nat) - 1 + Binary.leastExponent ≤ 971
      simp only [Binary.leastExponent]
      omega
    · show 2 ^ 52 ≤ 2 ^ 52 + word % 2 ^ 52
      omega

/-- A number is its sign and its word. -/
theorem eq_floatOfWord (number : Float) :
    number =
      floatOfWord (decide (2 ^ 63 ≤ number.toBits.toNat)) (number.toBits.toNat % 2 ^ 63) := by
  have bound := number.toBits.toNat_lt
  have sum : (if decide (2 ^ 63 ≤ number.toBits.toNat) = true then
      2 ^ 63 + number.toBits.toNat % 2 ^ 63 else number.toBits.toNat % 2 ^ 63) =
      number.toBits.toNat := by
    simp only [decide_eq_true_eq]
    split <;> omega
  rw [floatOfWord, sum, UInt64.ofNat_toNat, ofBits_toBits]

/-- A finite number is put together again from its sign and its magnitude. -/
theorem eq_of_shape_finite (number : Float) (negative : Bool) (magnitude : Binary)
    (shape : Shape.ofFloat number = .finite negative magnitude) :
    number = floatOfWord negative magnitude.word ∧ magnitude.Canonical := by
  unfold Shape.ofFloat at shape
  dsimp only at shape
  split at shape
  case isTrue finite =>
    injection shape with sameSign sameMagnitude
    subst sameSign sameMagnitude
    rw [Binary.word_ofWord]
    exact ⟨eq_floatOfWord number, Binary.canonical_ofWord _ finite⟩
  case isFalse notFinite => split at shape <;> cases shape

theorem eq_of_shape_infinite (number : Float) (negative : Bool)
    (shape : Shape.ofFloat number = .infinite negative) :
    number = floatOfWord negative Binary.infinityWord := by
  unfold Shape.ofFloat at shape
  dsimp only at shape
  split at shape
  case isTrue finite => cases shape
  case isFalse notFinite =>
    split at shape
    case isTrue infinite =>
      injection shape with sameSign
      subst sameSign
      rw [← infinite]
      exact eq_floatOfWord number
    case isFalse notInfinite => cases shape

/-- There is only one number that is none. -/
theorem eq_of_shape_notANumber (number : Float) (shape : Shape.ofFloat number = .notANumber) :
    number = notANumber := by
  have limit : Binary.infinityWord = 2047 * 2 ^ 52 := rfl
  have above : Binary.infinityWord < number.toBits.toNat % 2 ^ 63 := by
    unfold Shape.ofFloat at shape
    dsimp only at shape
    split at shape
    · cases shape
    · split at shape
      · cases shape
      · omega
  obtain ⟨⟨bits, valid⟩⟩ := number
  have boundBits := bits.toNat_lt
  simp only [Float.toBits] at above
  have allOnes : exponentField bits.toBitVec = -1#11 := by
    apply BitVec.eq_of_toNat_eq
    rw [exponentField_toNat, UInt64.toNat_toBitVec]
    show bits.toNat / 2 ^ 52 % 2 ^ 11 = 2047
    omega
  have someFraction : fractionField bits.toBitVec ≠ 0#52 := by
    intro zero
    have noFraction := congrArg BitVec.toNat zero
    rw [fractionField_toNat, UInt64.toNat_toBitVec] at noFraction
    have : bits.toNat % 2 ^ 52 = 0 := noFraction
    omega
  have fixed : bits.toBitVec = packedNaN Format.binary64 := valid.eq_packedNaN allOnes someFraction
  have same : bits = notANumber.toBits := by
    apply UInt64.toBitVec_inj.mp
    rw [fixed]
    decide
  show Float.ofModel ⟨bits, valid⟩ = notANumber
  rw [← ofBits_toBits (Float.ofModel ⟨bits, valid⟩), ← ofBits_toBits notANumber]
  exact congrArg Float.ofBits same

/-! ### Telling the number that is none from the others -/

theorem UnpackedFloat_compare_self (unpacked : UnpackedFloat) (proper : unpacked ≠ .notANumber) :
    unpacked.compare unpacked = some .eq := by
  cases unpacked with
  | infinity sign => cases sign <;> rfl
  | notANumber => exact absurd rfl proper
  | zero sign => rfl
  | finite sign mantissa exponent positive =>
    cases sign <;> simp [UnpackedFloat.compare]

theorem isNotANumber_floatOfWord (negative : Bool) (word : Nat)
    (proper : word ≤ Binary.infinityWord) : isNotANumber (floatOfWord negative word) = false := by
  have limit : Binary.infinityWord = 2047 * 2 ^ 52 := rfl
  have signed : ∃ bits : UInt64, floatOfWord negative word = Float.ofBits bits ∧
      bits.toNat % 2 ^ 63 = word := by
    refine ⟨_, rfl, ?_⟩
    rw [UInt64.toNat_ofNat']
    cases negative
    · simp only [Bool.false_eq_true, if_false]
      omega
    · simp only [if_true]
      omega
  obtain ⟨bits, isBits, isWord⟩ := signed
  have back : (Float.ofBits bits).toBits = bits := toBits_ofBits bits (by omega)
  rw [isBits]
  have unpacked : (Float.ofBits bits).toModel.unpack ≠ .notANumber := by
    show UnpackedFloat.unpack Format.binary64 (Float.ofBits bits).toBits.toBitVec ≠ _
    rw [back]
    unfold UnpackedFloat.unpack
    dsimp only
    split
    case isTrue allOnes =>
      have exponentHigh : (exponentField bits.toBitVec).toNat = 2047 :=
        congrArg BitVec.toNat allOnes
      rw [exponentField_toNat, UInt64.toNat_toBitVec] at exponentHigh
      have fraction := fractionField_toNat bits.toBitVec
      rw [UInt64.toNat_toBitVec] at fraction
      have noFraction : @unpackMantissa Format.binary64 bits.toBitVec = 0#52 := by
        apply BitVec.eq_of_toNat_eq
        show (fractionField bits.toBitVec).toNat = 0
        omega
      rw [if_pos noFraction]
      exact fun impossible => UnpackedFloat.noConfusion impossible
    case isFalse notAllOnes =>
      split
      · split <;> exact fun impossible => UnpackedFloat.noConfusion impossible
      · exact fun impossible => UnpackedFloat.noConfusion impossible
  have equal : (Float.ofBits bits == Float.ofBits bits) = true := by
    show ((Float.ofBits bits).toModel.unpack.compare (Float.ofBits bits).toModel.unpack ==
      some .eq) = true
    rw [UnpackedFloat_compare_self _ unpacked]
    rfl
  rw [isNotANumber, equal]
  rfl

end MarketSignal
