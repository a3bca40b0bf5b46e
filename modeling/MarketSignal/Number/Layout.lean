/-
How the digits of a number are laid out. A number of moderate size has its point in place; others
are written with one digit before the point and a power of ten. Where the one ends and the other
begins, whether a whole number keeps a fraction of zero, and how the exceptional numbers are
spelled is all a matter of the layout, of which there are three.
-/
import MarketSignal.Number.Decimal

namespace MarketSignal

/-- The decimal digits of a whole number. -/
def digitsOfNat (value : Nat) : List Char := Nat.toDigits 10 value

/-- A whole number with its sign. -/
def digitsOfInt (value : Int) : List Char :=
  if value < 0 then '-' :: digitsOfNat value.natAbs else digitsOfNat value.natAbs

/-- The choices in writing a floating-point number. -/
structure Layout where
  /-- The powers of ten of a leading digit that is written in place lie from here … -/
  leastPlace : Int
  /-- … to below here. -/
  placeLimit : Int
  /-- What a whole number written in place ends with. -/
  wholeEnding : List Char
  /-- The text of infinity. -/
  infinity : List Char
  /-- The text of the number that is none. -/
  notANumber : List Char

namespace Layout

/-- Numbers in messages: in place from `0.0001` to below `10 ^ 16`, a whole number with `.0`. -/
def message : Layout := ⟨-4, 16, ['.', '0'], "inf".toList, "nan".toList⟩

/-- Numbers in documents: as in messages, but the exceptional numbers are spelled out. -/
def document : Layout := ⟨-4, 16, ['.', '0'], "Infinity".toList, "NaN".toList⟩

/-- Strengths of signals: six significant digits, so in place to below a million, and whole numbers
without a fraction. -/
def strength : Layout := ⟨-4, 6, [], "inf".toList, "nan".toList⟩

/-- The power of ten, with its sign and at least two digits. -/
def power (exponent : Int) : List Char :=
  let digits := digitsOfNat exponent.natAbs
  'e' :: (if exponent < 0 then '-' else '+') ::
    (if digits.length < 2 then '0' :: digits else digits)

/-- A magnitude, given its digits. -/
def magnitude (layout : Layout) (decimal : Decimal) : List Char :=
  let digits := digitsOfNat decimal.digits
  let place : Int := (digits.length : Int) - 1 + decimal.exponent
  if layout.leastPlace ≤ place ∧ place < layout.placeLimit then
    if 0 ≤ decimal.exponent then
      digits ++ List.replicate decimal.exponent.toNat '0' ++ layout.wholeEnding
    else if 0 ≤ place then
      digits.take (place + 1).toNat ++ '.' :: digits.drop (place + 1).toNat
    else
      '0' :: '.' :: List.replicate (-place - 1).toNat '0' ++ digits
  else
    match digits with
    | leading :: [] => leading :: power place
    | leading :: others => leading :: '.' :: others ++ power place
    | [] => power place

/-- A number, once it is decided which digits stand for a magnitude. -/
def write (layout : Layout) (digits : Binary → Decimal) (number : Float) : List Char :=
  match Shape.ofFloat number with
  | .notANumber => layout.notANumber
  | .infinite negative => if negative then '-' :: layout.infinity else layout.infinity
  | .finite negative value =>
    let text := if value.mantissa = 0 then '0' :: layout.wholeEnding else
      layout.magnitude (digits value)
    if negative then '-' :: text else text

end Layout

/-- A floating-point number with the fewest digits that read back, as messages show it. -/
def floatText (number : Float) : String :=
  String.ofList (Layout.message.write Binary.shortest number)

/-- The strength of a signal: a whole number in full, any other with six significant digits. -/
def strengthText (number : Float) : String :=
  match wholeValue? number with
  | some value => String.ofList (digitsOfInt value)
  | none => String.ofList (Layout.strength.write (Binary.significant · 6) number)

end MarketSignal
