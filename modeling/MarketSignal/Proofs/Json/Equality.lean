/-
This file proves that values which are equal in comparisons are alike in what an evaluation sees of
them: both are null or neither is, both count as true or neither does, both are the same text or
neither is one, and both hold a whole number that is too long to write or neither does.

Equality crosses the kinds of numbers, so two facts about floating-point numbers carry the proofs:
a number that equals a whole one is zero exactly if that is, and no floating-point number equals a
whole number of so many digits.
-/
import MarketSignal.Json.Writer
import MarketSignal.Proofs.Draft.Issuing
import MarketSignal.Proofs.Json.Parts
import MarketSignal.Proofs.Number.Order
import MarketSignal.Proofs.Signal.Score

namespace MarketSignal

open Float.Model Float.Model.UnpackedFloat

/-! ### Numbers that are zero -/

theorem beq_iff (left right : Float) :
    (left == right) = true ↔ (unpacked left).compare (unpacked right) = some .eq := by
  show ((unpacked left).compare (unpacked right) == some .eq) = true ↔ _
  rw [beq_iff_eq]

/-- Only the two zeros compare as equal to a zero. -/
theorem compare_zero_iff (sign : Sign) (other : UnpackedFloat) :
    UnpackedFloat.compare (.zero sign) other = some .eq ↔ ∃ sign, other = .zero sign := by
  cases other with
  | zero other => exact iff_of_true rfl ⟨other, rfl⟩
  | notANumber => exact iff_of_false nofun nofun
  | infinity other => cases other <;> exact iff_of_false nofun nofun
  | finite other => cases other <;> exact iff_of_false nofun nofun

theorem compare_swap_eq {left right : UnpackedFloat} (same : left.compare right = some .eq) :
    right.compare left = some .eq := by
  have leftProper : left ≠ .notANumber := by
    rintro rfl
    rw [compare_notANumber_left] at same
    cases same
  have rightProper : right ≠ .notANumber := by
    rintro rfl
    rw [compare_notANumber_right] at same
    cases same
  obtain ⟨order, isOrder, isSwap⟩ := compare_swap left right leftProper rightProper
  rw [same] at isOrder
  cases isOrder
  exact isSwap

theorem beq_zero_iff (number : Float) :
    (number == 0) = true ↔ ∃ sign, unpacked number = .zero sign := by
  rw [beq_iff]
  exact ⟨fun same => (compare_zero_iff _ _).mp (compare_swap_eq same),
    fun isZero => compare_swap_eq ((compare_zero_iff _ _).mpr isZero)⟩

theorem beq_zero_of_beq {left right : Float} (same : (left == right) = true) :
    (left == 0) = (right == 0) := by
  rw [beq_iff] at same
  rw [Bool.eq_iff_iff, beq_zero_iff, beq_zero_iff]
  constructor
  · rintro ⟨sign, isZero⟩
    rw [isZero] at same
    exact (compare_zero_iff _ _).mp same
  · rintro ⟨sign, isZero⟩
    replace same := compare_swap_eq same
    rw [isZero] at same
    exact (compare_zero_iff _ _).mp same

theorem unpacked_zero (negative : Bool) :
    ∃ sign, unpacked (floatOfWord negative 0) = .zero sign := by
  cases negative
  · exact ⟨.positive, rfl⟩
  · exact ⟨.negative, rfl⟩

/-- A finite number is zero exactly if its mantissa is. -/
theorem beq_zero_of_shape {number : Float} {negative : Bool} {magnitude : Binary}
    (shape : Shape.ofFloat number = .finite negative magnitude) :
    (number == 0) = true ↔ magnitude.mantissa = 0 := by
  obtain ⟨isNumber, canonical⟩ := eq_of_shape_finite number negative magnitude shape
  rw [beq_zero_iff]
  constructor
  · rintro ⟨sign, isZero⟩
    have zeroWord (other : Bool) (same : unpacked number = unpacked (floatOfWord other 0)) :
        magnitude.mantissa = 0 := by
      rw [unpacked_injective _ _ same] at shape
      cases other
      · cases shape.symm.trans (show Shape.ofFloat (floatOfWord false 0) = _ by rfl)
        rfl
      · cases shape.symm.trans (show Shape.ofFloat (floatOfWord true 0) = _ by rfl)
        rfl
    cases sign with
    | positive => exact zeroWord false isZero
    | negative => exact zeroWord true isZero
  · intro noMantissa
    have least : magnitude.exponent = Binary.leastExponent := by
      rcases canonical.full with least | full
      · exact least
      · omega
    have noWord : magnitude.word = 0 := by
      rw [Binary.word, noMantissa, least, Int.sub_self]
      rfl
    rw [isNumber, noWord]
    exact unpacked_zero negative

/-- A number that equals a whole one is zero exactly if that is. -/
theorem beq_zero_of_wholeValue? {number : Float} {whole : Int}
    (isWhole : wholeValue? number = some whole) : (number == 0) = true ↔ whole = 0 := by
  unfold wholeValue? at isWhole
  split at isWhole
  case h_2 => cases isWhole
  case h_1 negative magnitude shape =>
    split at isWhole
    case isFalse => cases isWhole
    case isTrue noFraction =>
      rw [beq_zero_of_shape shape]
      have floorZero : whole = 0 ↔ magnitude.floor = 0 := by
        cases negative <;> cases isWhole <;> simp
      rw [floorZero, Binary.floor]
      have divides : 2 ^ (-magnitude.exponent).toNat ∣ magnitude.mantissa :=
        Nat.dvd_of_mod_eq_zero (beq_iff_eq.mp noFraction)
      constructor
      · intro noMantissa
        rw [noMantissa, Nat.zero_mul, Nat.zero_div]
      · intro noFloor
        have below := (Nat.div_eq_zero_iff_lt (Nat.two_pow_pos _)).mp noFloor
        have scaled : magnitude.mantissa * 2 ^ magnitude.exponent.toNat = 0 :=
          Nat.eq_zero_of_dvd_of_lt (divides.mul_right _) below
        exact (Nat.mul_eq_zero.mp scaled).resolve_right (Nat.two_pow_pos _).ne'

theorem natAbs_wholeValue_lt {number : Float} {whole : Int}
    (isWhole : wholeValue? number = some whole) : whole.natAbs < 2 ^ 1024 := by
  suffices truncates : truncated? number = some whole from natAbs_truncated_lt truncates
  unfold wholeValue? at isWhole
  unfold truncated?
  split at isWhole
  case h_2 => cases isWhole
  case h_1 negative magnitude shape =>
    split at isWhole
    · exact isWhole
    · cases isWhole

/-! ### Numbers that are too long -/

theorem exceedsDigitLimit_iff (whole : Int) :
    exceedsDigitLimit whole = true ↔ 10 ^ digitLimit ≤ whole.natAbs := decide_eq_true_iff

/-- A whole number that is too long equals no floating-point number. -/
theorem not_exceedsDigitLimit_of_lt {whole : Int} (bounded : whole.natAbs < 2 ^ 1024) :
    exceedsDigitLimit whole = false := by
  have limit : (2 : Nat) ^ 1024 ≤ 10 ^ digitLimit := by decide +kernel
  rw [← Bool.not_eq_true, exceedsDigitLimit_iff]
  omega

/-! ### Equal values -/

namespace Json

/-- How two values come to be equal. -/
inductive Equal : Json → Json → Prop where
  | null : Equal .null .null
  | text (text : String) : Equal (.str text) (.str text)
  | whole {left right : Json} (number : Int) (isLeft : left.wholeNumber? = some number)
      (isRight : right.wholeNumber? = some number) : Equal left right
  | float {left right : Float} (same : (left == right) = true) : Equal (.float left) (.float right)
  | list {lefts rights : List Json} (same : sameItems lefts rights = true) :
      Equal (.arr lefts) (.arr rights)
  | object {lefts rights : List (String × Json)} (long : lefts.length = rights.length)
      (same : sameMembers lefts rights = true) : Equal (.obj lefts) (.obj rights)

theorem equal_of_same {left right : Json} (same : left.same right = true) : left.Equal right := by
  cases left <;> cases right
  case null.null => exact .null
  case str.str text other =>
    rw [Json.same, beq_iff_eq] at same
    exact same ▸ .text text
  case float.float =>
    rw [Json.same] at same
    exact .float same
  case arr.arr =>
    rw [Json.same] at same
    exact .list same
  case obj.obj =>
    rw [Json.same, Bool.and_eq_true, beq_iff_eq] at same
    exact .object same.1 same.2
  -- what is left is compared as whole numbers
  all_goals
    unfold Json.same at same
    split at same
    case h_1 number other isLeft isRight =>
      cases beq_iff_eq.mp same
      exact .whole number isLeft isRight
    case h_2 => cases same

theorem truthy_of_wholeNumber? {value : Json} {number : Int}
    (isNumber : value.wholeNumber? = some number) : value.truthy = true ↔ number ≠ 0 := by
  cases value with
  | bool truth => cases truth <;> cases isNumber <;> decide
  | int whole =>
    cases isNumber
    exact bne_iff_ne
  | float number =>
    have isZero := beq_zero_of_wholeValue? isNumber
    rw [truthy, Bool.not_eq_true', ← Bool.not_eq_true, isZero]
  | null | str | arr | obj => cases isNumber

theorem truthy_of_equal {left right : Json} (equal : left.Equal right) :
    left.truthy = right.truthy := by
  cases equal with
  | null | text => rfl
  | whole number isLeft isRight =>
    rw [Bool.eq_iff_iff, truthy_of_wholeNumber? isLeft, truthy_of_wholeNumber? isRight]
  | float same => rw [truthy, truthy, beq_zero_of_beq same]
  | @list lefts rights same =>
    cases lefts <;> cases rights
    case nil.nil | cons.cons => rfl
    all_goals cases same
  | @object lefts rights long =>
    cases lefts <;> cases rights
    case nil.nil | cons.cons => rfl
    all_goals cases long

theorem isNull_of_equal {left right : Json} (equal : left.Equal right) :
    left.isNull = right.isNull := by
  cases equal with
  | whole number isLeft isRight =>
    have notNull {value : Json} (isNumber : value.wholeNumber? = some number) :
        value.isNull = false := by
      cases value
      case null => cases isNumber
      all_goals rfl
    rw [notNull isLeft, notNull isRight]
  | _ => rfl

theorem eq_str_of_equal {left right : Json} (equal : left.Equal right) (text : String) :
    left = .str text ↔ right = .str text := by
  cases equal with
  | whole number isLeft isRight =>
    refine iff_of_false ?_ ?_
    · rintro rfl
      cases isLeft
    · rintro rfl
      cases isRight
  | _ => simp

theorem long_of_wholeNumber? {value : Json} {number : Int}
    (isNumber : value.wholeNumber? = some number) :
    value.hasLongNumber = exceedsDigitLimit number := by
  cases value with
  | bool truth =>
    cases truth <;> cases isNumber <;> decide +kernel
  | int whole =>
    cases isNumber
    rfl
  | float => exact (not_exceedsDigitLimit_of_lt (natAbs_wholeValue_lt isNumber)).symm
  | null | str | arr | obj => cases isNumber

theorem long_of_mem {members : List (String × Json)} {entry : String × Json}
    (present : entry ∈ members) (long : entry.2.hasLongNumber = true) :
    anyLongMember members = true := by
  by_contra short
  rw [Bool.not_eq_true, anyLongMember_eq_false_iff] at short
  exact absurd long (by rw [short entry present]; exact Bool.false_ne_true)

mutual

/-- What holds a number that is too long equals nothing that does not. -/
theorem long_of_same (left right : Json) (same : left.same right = true)
    (long : left.hasLongNumber = true) : right.hasLongNumber = true :=
  match left, equal_of_same same with
  | _, .whole number isLeft isRight => by
    rw [long_of_wholeNumber? isRight, ← long_of_wholeNumber? isLeft]
    exact long
  | .arr lefts, .list sameItems => longItem_of_same lefts _ sameItems long
  | .obj lefts, .object _ sameMembers => longMember_of_same lefts _ sameMembers long

theorem longItem_of_same (lefts rights : List Json) (same : sameItems lefts rights = true)
    (long : anyLongItem lefts = true) : anyLongItem rights = true :=
  match lefts, rights with
  | left :: lefts, right :: rights => by
    rw [sameItems, Bool.and_eq_true] at same
    rw [anyLongItem, Bool.or_eq_true] at long ⊢
    exact long.imp (long_of_same left right same.1) (longItem_of_same lefts rights same.2)

theorem longMember_of_same (lefts members : List (String × Json))
    (same : sameMembers lefts members = true) (long : anyLongMember lefts = true) :
    anyLongMember members = true :=
  match lefts with
  | (name, left) :: lefts => by
    rw [sameMembers, Bool.and_eq_true] at same
    rw [anyLongMember, Bool.or_eq_true] at long
    obtain ⟨here, behind⟩ := same
    split at here
    case h_2 => cases here
    case h_1 other found =>
      rcases long with longHere | longBehind
      · exact long_of_mem (Entries.mem_of_get? _ _ _ found) (long_of_same left other here longHere)
      · exact longMember_of_same lefts members behind longBehind

end

/-! ### Values that agree -/

/-- Two values are the same, or each is equal to the other. -/
def Agrees (left right : Json) : Prop :=
  left = right ∨ left.same right = true ∧ right.same left = true

namespace Agrees

variable {left right : Json} (agrees : left.Agrees right)

include agrees

theorem isNull : left.isNull = right.isNull := by
  rcases agrees with rfl | ⟨same, -⟩
  · rfl
  · exact isNull_of_equal (equal_of_same same)

theorem truthy : left.truthy = right.truthy := by
  rcases agrees with rfl | ⟨same, -⟩
  · rfl
  · exact truthy_of_equal (equal_of_same same)

theorem eq_str_iff (text : String) : left = .str text ↔ right = .str text := by
  rcases agrees with rfl | ⟨same, -⟩
  · rfl
  · exact eq_str_of_equal (equal_of_same same) text

theorem hasLongNumber : left.hasLongNumber = right.hasLongNumber := by
  rcases agrees with rfl | ⟨same, back⟩
  · rfl
  · exact Bool.eq_iff_iff.mpr ⟨long_of_same left right same, long_of_same right left back⟩

end Agrees

end Json

end MarketSignal
