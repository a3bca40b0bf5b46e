/-
Numbers with as many places as are asked for. A number with a fixed number of places is the nearest
of those with so many, a tie going to the even last digit; it is written with its point in place,
or with one digit before the point and a power of ten. The general form takes whichever of the two
suits the size of the number, and leaves out the zeros at the end.
-/
import MarketSignal.Number.Layout

namespace MarketSignal

/-- A fraction behind its point. Without places the point is left out unless it is wanted. -/
def pointed (wanted : Bool) (fraction : List Char) : List Char :=
  if fraction.isEmpty && !wanted then [] else '.' :: fraction

/-- Digits without the zeros at the end of their fraction, and without a point that nothing
follows. -/
def withoutFinalZeros (text : List Char) : List Char :=
  if text.contains '.' then
    (((text.reverse.dropWhile fun c => c == '0').dropWhile fun c => c == '.')).reverse
  else text

namespace Binary

/-- A magnitude with a number of places behind the point. -/
def withPlaces (wanted : Bool) (places : Nat) (magnitude : Binary) : List Char :=
  let (numerator, denominator) := magnitude.inUnits (-(places : Int))
  let digits := digitsOfNat (roundHalfEven numerator denominator)
  let padded := List.replicate (places + 1 - digits.length) '0' ++ digits
  let (whole, fraction) := padded.splitAt (padded.length - places)
  whole ++ pointed wanted fraction

/-- The digits of a magnitude, as many as told, and the power of ten of the first one. -/
def leadingDigits (count : Nat) (magnitude : Binary) : List Char × Int :=
  if magnitude.mantissa = 0 then (List.replicate count '0', 0)
  else
    let decimal := magnitude.significant count
    let digits := digitsOfNat decimal.digits
    (digits ++ List.replicate (count - digits.length) '0',
      (digits.length : Int) - 1 + decimal.exponent)

/-- A magnitude with one digit before the point and a number of places behind it, and its power of
ten. -/
def withPower (wanted : Bool) (places : Nat) (magnitude : Binary) : List Char × List Char :=
  let (digits, place) := magnitude.leadingDigits (places + 1)
  (digits.take 1 ++ pointed wanted (digits.drop 1), Layout.power place)

/-- A magnitude with a number of significant digits, in the form that suits it. Zeros at the end
are kept if they are wanted. -/
def withDigits (wanted : Bool) (count : Nat) (magnitude : Binary) : List Char :=
  let place := (magnitude.leadingDigits count).2
  let (text, power) :=
    if -4 ≤ place ∧ place < count then
      (magnitude.withPlaces wanted (((count : Int) - 1 - place).toNat), [])
    else magnitude.withPower wanted (count - 1)
  (if wanted then text else withoutFinalZeros text) ++ power

end Binary

end MarketSignal
