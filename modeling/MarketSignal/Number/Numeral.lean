/-
Numbers in free text. The digits of any script are accepted, single underscores may stand between
digits, and white space around the number is passed over. Whole numbers and floating-point numbers
have a grammar each.
-/
import MarketSignal.Text.Blank
import MarketSignal.Text.Digit
import MarketSignal.Number.Binary

namespace MarketSignal

attribute [local instance (2000)] instPowNat

/-- The value of a run of decimal digits, after the value of those before. -/
def digitsValue (before : Nat) (digits : List Char) : Nat :=
  digits.foldl (fun value c => 10 * value + (c.toNat - 0x30)) before

/-- Whether a character is one of the ten common digits. -/
def isCommonDigit (c : Char) : Bool := decide (0x30 ≤ c.toNat ∧ c.toNat ≤ 0x39)

/-- Splits a text after its leading digits. -/
def spanDigits (text : List Char) : List Char × List Char :=
  (text.takeWhile isCommonDigit, text.dropWhile isCommonDigit)

/-- The most digits that a whole number may have as a text, in either direction. -/
def digitLimit : Nat := 4300

/-- Whether a whole number has more digits than may be written. -/
def exceedsDigitLimit (value : Int) : Bool := decide (10 ^ digitLimit ≤ value.natAbs)

namespace Numeral

/-- Digits of other scripts become common ones. -/
def commonDigits (text : List Char) : List Char :=
  text.map fun c =>
    match Text.digitValue? c with
    | some value => Char.ofNat (0x30 + value)
    | none => c

/-- Drops the underscores, unless one of them does not stand between two digits. -/
def withoutUnderscores? (before : Option Char) : List Char → Option (List Char)
  | [] => if before = some '_' then none else some []
  | c :: rest =>
    let afterDigit := (before.map isCommonDigit).getD false
    if c = '_' then
      if afterDigit then withoutUnderscores? (some c) rest else none
    else if before = some '_' && !isCommonDigit c then none
    else (withoutUnderscores? (some c) rest).map (c :: ·)

/-- The number's own characters: white space gone, digits common, underscores dropped. -/
def bare? (text : String) : Option (List Char) :=
  withoutUnderscores? none (commonDigits (Text.trimBy Text.isWhiteSpace text.toList))

/-- Takes a sign off; `true` stands for minus. -/
def splitSign : List Char → Bool × List Char
  | '-' :: rest => (true, rest)
  | '+' :: rest => (false, rest)
  | text => (false, text)

/-- A common capital letter becomes small. -/
def smallLetter (c : Char) : Char :=
  if 0x41 ≤ c.toNat ∧ c.toNat ≤ 0x5A then Char.ofNat (c.toNat + 0x20) else c

/-- The power of ten at the end of a number, which may be absent. -/
def exponent? : List Char → Option Int
  | [] => some 0
  | c :: rest =>
    if c = 'e' ∨ c = 'E' then
      let (negative, digits) := splitSign rest
      if digits.all isCommonDigit && !digits.isEmpty then
        let value : Int := digitsValue 0 digits
        some (if negative then -value else value)
      else none
    else none

/-- A number with an optional point and an optional power of ten, which needs a digit before or
behind the point. -/
def unsigned? (negative : Bool) (text : List Char) : Option Float :=
  let (whole, rest) := spanDigits text
  let (fraction, rest) :=
    match rest with
    | '.' :: following => spanDigits following
    | other => ([], other)
  if whole.isEmpty && fraction.isEmpty then none
  else
    (exponent? rest).map fun exponent =>
      floatOfDecimal negative (digitsValue 0 (whole ++ fraction)) (exponent - fraction.length)

end Numeral

/-- Reads a floating-point number, `inf`, `infinity` and `nan` in any case among them. -/
def floatOfText? (text : String) : Option Float :=
  (Numeral.bare? text).bind fun characters =>
    let (negative, rest) := Numeral.splitSign characters
    let small := rest.map Numeral.smallLetter
    if small = "inf".toList ∨ small = "infinity".toList then
      some (floatOfWord negative Binary.infinityWord)
    else if small = "nan".toList then some notANumber
    else Numeral.unsigned? negative rest

/-- Reads a whole number with an optional sign and at most `digitLimit` digits. -/
def intOfText? (text : String) : Option Int :=
  (Numeral.bare? text).bind fun characters =>
    let (negative, digits) := Numeral.splitSign characters
    if digits.isEmpty || !digits.all isCommonDigit || decide (digitLimit < digits.length) then none
    else
      let value : Int := digitsValue 0 digits
      some (if negative then -value else value)

end MarketSignal
