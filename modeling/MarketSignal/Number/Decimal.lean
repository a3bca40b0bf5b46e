/-
Floating-point numbers are written with the fewest digits that read back. A decimal grid is the
set of multiples of one power of ten; the numbers with few digits are the points of coarse grids.
So the search goes from coarse grids to fine ones and stops at the first grid with a point that
rounds to the number. Of a grid only the two neighbours of the number need to be looked at, since
what rounds to the number is an interval around it.
-/
import MarketSignal.Number.Binary

namespace MarketSignal

attribute [local instance (2000)] instPowNat

/-- The magnitude `digits * 10 ^ exponent`. -/
structure Decimal where
  digits : Nat
  exponent : Int
deriving DecidableEq, Repr

/-! ### The interval of a floating-point number -/

/-- Compares `digits * 10 ^ grid` with `count * 2 ^ exponent`. -/
def compareScaled (digits : Nat) (grid : Int) (count : Nat) (exponent : Int) : Ordering :=
  compare (digits * 10 ^ grid.toNat * 2 ^ (-exponent).toNat)
    (count * 2 ^ exponent.toNat * 10 ^ (-grid).toNat)

/-- Whether a decimal number rounds to a magnitude. The interval reaches half way to both
neighbours, a quarter below a power of two, where the gap is half as wide; its ends belong to it if
the mantissa is even, since ties go there. -/
def Binary.admits (magnitude : Binary) (decimal : Decimal) : Bool :=
  let count := 4 * magnitude.mantissa
  let narrow :=
    magnitude.mantissa == 2 ^ (52 : Nat) && decide (Binary.leastExponent < magnitude.exponent)
  let even := magnitude.mantissa % 2 == 0
  let against := fun bound =>
    compareScaled decimal.digits decimal.exponent bound (magnitude.exponent - 2)
  let low := against (count - if narrow then 1 else 2)
  let high := against (count + 2)
  (low == .gt || (even && low == .eq)) && (high == .lt || (even && high == .eq))

/-! ### The search -/

/-- A magnitude measured in units of `10 ^ grid`, as numerator and denominator. -/
def Binary.inUnits (magnitude : Binary) (grid : Int) : Nat × Nat :=
  (magnitude.mantissa * 2 ^ magnitude.exponent.toNat * 10 ^ (-grid).toNat,
    2 ^ (-magnitude.exponent).toNat * 10 ^ grid.toNat)

/-- The point of a grid that is nearest to a magnitude among those that round to it. -/
def Binary.onGrid? (magnitude : Binary) (grid : Int) : Option Decimal :=
  let (numerator, denominator) := magnitude.inUnits grid
  let below := numerator / denominator
  let nearer := roundHalfEven numerator denominator
  let farther := if nearer = below then below + 1 else below
  if magnitude.admits ⟨nearer, grid⟩ then some ⟨nearer, grid⟩
  else if magnitude.admits ⟨farther, grid⟩ then some ⟨farther, grid⟩
  else none

/-- Searches the given number of grids, each ten times finer than the one before. -/
def Binary.searchGrids (magnitude : Binary) : Nat → Int → Option Decimal
  | 0, _ => none
  | grids + 1, grid =>
    match magnitude.onGrid? grid with
    | some decimal => some decimal
    | none => magnitude.searchGrids grids (grid - 1)

/-- A grid so coarse that its first point lies beyond a magnitude: `10 ^ 3` exceeds `2 ^ 9`, and a
negative power of two needs less than a quarter as many places. -/
def Binary.coarseGrid (magnitude : Binary) : Int :=
  let bound := (magnitude.mantissa.log2 : Int) + 1 + magnitude.exponent
  if 0 ≤ bound then bound / 3 + 1 else bound / 4

/-- The decimal number with the fewest digits that reads back, and of those the nearest. The search
ends at the latest on the grid of `10 ^ (-1074)`, of which every finite magnitude is a point. -/
def Binary.shortest (magnitude : Binary) : Decimal :=
  let start := magnitude.coarseGrid
  ((magnitude.searchGrids (start + 1075).toNat start).getD ⟨0, 0⟩)

/-! ### A fixed number of digits -/

/-- Takes factors of ten out of the digits, at most as many as told. -/
def Decimal.withoutZeros : Nat → Decimal → Decimal
  | 0, decimal => decimal
  | limit + 1, decimal =>
    if decimal.digits % 10 = 0 ∧ decimal.digits ≠ 0 then
      Decimal.withoutZeros limit ⟨decimal.digits / 10, decimal.exponent + 1⟩
    else decimal

/-- Goes from coarse to fine to the first grid on which a magnitude has the wanted number of
digits. -/
def Binary.gridWithDigits (magnitude : Binary) (places : Nat) : Nat → Int → Int
  | 0, grid => grid
  | grids + 1, grid =>
    let (numerator, denominator) := magnitude.inUnits grid
    if 10 ^ (places - 1) ≤ numerator / denominator then grid
    else magnitude.gridWithDigits places grids (grid - 1)

/-- A magnitude rounded to a number of significant digits, a tie to the even digit, with no zeros
at the end. -/
def Binary.significant (magnitude : Binary) (places : Nat) : Decimal :=
  let start := magnitude.coarseGrid
  let grid := magnitude.gridWithDigits places (start + 1075 + places).toNat start
  let (numerator, denominator) := magnitude.inUnits grid
  Decimal.withoutZeros places ⟨roundHalfEven numerator denominator, grid⟩

end MarketSignal
