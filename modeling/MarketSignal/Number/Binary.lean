/-
A finite floating-point number is a whole number times a power of two. Everything that must be
exact about such numbers, rounding a fraction to the nearest of them above all, is done here on
whole numbers, and the machine's number is only taken apart and put together at the edges.

A magnitude is stored as a word: the whole part of a word divided by `2 ^ 52` counts the power of
two, and its remainder the position between two powers. Because a mantissa that overflows carries
into the count, the word of a rounded number is one sum, with no case for the carry.
-/
namespace MarketSignal

-- The powers are the computable ones of the numbers themselves, whatever else is imported.
attribute [local instance (2000)] instPowNat

/-- The magnitude `mantissa * 2 ^ exponent`. -/
structure Binary where
  mantissa : Nat
  exponent : Int
deriving DecidableEq, Repr

namespace Binary

/-- The least exponent of all: every finite magnitude is a multiple of `2 ^ (-1074)`. -/
def leastExponent : Int := -1074

/-- The word of the magnitude above all finite ones. -/
def infinityWord : Nat := 2047 * 2 ^ (52 : Nat)

/-- The magnitude that a word below `infinityWord` stands for. -/
def ofWord (word : Nat) : Binary :=
  if word < 2 ^ (52 : Nat) then ⟨word, leastExponent⟩
  else
    ⟨2 ^ (52 : Nat) + word % 2 ^ (52 : Nat),
      (word / 2 ^ (52 : Nat) : Nat) - 1 + leastExponent⟩

/-- The word of a magnitude. -/
def word (magnitude : Binary) : Nat :=
  (magnitude.exponent - leastExponent).toNat * 2 ^ (52 : Nat) + magnitude.mantissa

/-- Whether a magnitude has no fraction. -/
def isWhole (magnitude : Binary) : Bool :=
  magnitude.mantissa % 2 ^ (-magnitude.exponent).toNat == 0

/-- The whole part of a magnitude. -/
def floor (magnitude : Binary) : Nat :=
  magnitude.mantissa * 2 ^ magnitude.exponent.toNat / 2 ^ (-magnitude.exponent).toNat

end Binary

/-! ### Rounding a fraction -/

/-- The quotient of two numbers rounded to a whole number, a tie to the even neighbour. -/
def roundHalfEven (numerator denominator : Nat) : Nat :=
  let quotient := numerator / denominator
  let twice := 2 * (numerator % denominator)
  if twice < denominator ∨ (twice = denominator ∧ quotient % 2 = 0) then quotient
  else quotient + 1

/-- The exponent at which a fraction is rounded: the least one that keeps the quotient below
`2 ^ 53`. The logarithms give it up to one, and the quotient itself decides. -/
def roundingExponent (numerator denominator : Nat) : Int :=
  let estimate :=
    max Binary.leastExponent ((numerator.log2 : Int) - (denominator.log2 : Int) - 53)
  if 2 ^ (53 : Nat) ≤ numerator * 2 ^ (-estimate).toNat / (denominator * 2 ^ estimate.toNat) then
    estimate + 1
  else estimate

/-- The word of the magnitude nearest to a fraction, a tie to the even mantissa. A fraction beyond
the largest finite magnitude gives a word of at least `Binary.infinityWord`. -/
def nearestWord (numerator denominator : Nat) : Nat :=
  if numerator = 0 then 0
  else
    let exponent := roundingExponent numerator denominator
    Binary.word
      ⟨roundHalfEven (numerator * 2 ^ (-exponent).toNat) (denominator * 2 ^ exponent.toNat),
        exponent⟩

/-- The word nearest to `digits * 10 ^ exponent`. An exponent far out of range is answered without
the power: the digits hold fewer powers of ten than they have binary places. -/
def nearestWordOfDecimal (digits : Nat) (exponent : Int) : Nat :=
  if digits = 0 then 0
  else if 400 < exponent then Binary.infinityWord
  else if exponent < -400 - (digits.log2 : Int) then 0
  else
    min Binary.infinityWord
      (nearestWord (digits * 10 ^ exponent.toNat) (10 ^ (-exponent).toNat))

/-! ### The machine's numbers -/

/-- What a floating-point number is, taken apart. -/
inductive Shape where
  | notANumber
  | infinite (negative : Bool)
  | finite (negative : Bool) (magnitude : Binary)
deriving DecidableEq, Repr

/-- A floating-point number taken apart. -/
def Shape.ofFloat (number : Float) : Shape :=
  let bits := number.toBits.toNat
  let negative := decide (2 ^ (63 : Nat) ≤ bits)
  let word := bits % 2 ^ (63 : Nat)
  if word < Binary.infinityWord then .finite negative (Binary.ofWord word)
  else if word = Binary.infinityWord then .infinite negative
  else .notANumber

/-- The floating-point number with the given sign and word. -/
def floatOfWord (negative : Bool) (word : Nat) : Float :=
  Float.ofBits (UInt64.ofNat (if negative then 2 ^ (63 : Nat) + word else word))

/-- The number nearest to `digits * 10 ^ exponent`, with a sign. -/
def floatOfDecimal (negative : Bool) (digits : Nat) (exponent : Int) : Float :=
  floatOfWord negative (nearestWordOfDecimal digits exponent)

/-- Infinity, the number above all others. -/
def infinity : Float := floatOfWord false Binary.infinityWord

/-- The number that is none, and differs from itself. -/
def notANumber : Float := floatOfWord false (Binary.infinityWord + 2 ^ (51 : Nat))

/-- Whether a number is the one that is none. -/
def isNotANumber (number : Float) : Bool := !(number == number)

/-- The number nearest to a whole number, unless that lies beyond all finite ones. -/
def floatOfInt? (value : Int) : Option Float :=
  let word := nearestWord value.natAbs 1
  if word < Binary.infinityWord then some (floatOfWord (decide (value < 0)) word) else none

/-- The whole number toward zero from a finite number. -/
def truncated? (number : Float) : Option Int :=
  match Shape.ofFloat number with
  | .finite negative magnitude =>
    some (if negative then -(magnitude.floor : Int) else magnitude.floor)
  | _ => none

/-- The whole number that a floating-point number equals exactly, if there is one. -/
def wholeValue? (number : Float) : Option Int :=
  match Shape.ofFloat number with
  | .finite negative magnitude =>
    if magnitude.isWhole then
      some (if negative then -(magnitude.floor : Int) else magnitude.floor)
    else none
  | _ => none

end MarketSignal
