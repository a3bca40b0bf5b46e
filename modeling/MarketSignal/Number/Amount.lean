/-
Amounts of time are whole or not, and stay what they are as long as the calculation allows: a whole
amount that is doubled is whole, one that exceeds a limit is cut down to the limit.
-/
import MarketSignal.Number.Binary

namespace MarketSignal

attribute [local instance (2000)] instPowNat

/-- An amount, in seconds. -/
inductive Amount where
  | whole (value : Int)
  | real (value : Float)

namespace Amount

/-- Whether a whole number lies above a floating-point number, exactly. -/
def wholeExceeds (value : Int) (limit : Float) : Bool :=
  match Shape.ofFloat limit with
  | .notANumber => false
  | .infinite negative => negative
  | .finite negative magnitude =>
    let floor : Int := if negative then -(magnitude.floor : Int) else magnitude.floor
    if magnitude.isWhole || !negative then decide (floor < value) else decide (floor ≤ value)

/-- Whether an amount lies above a limit. -/
def exceeds (amount : Amount) (limit : Float) : Bool :=
  match amount with
  | .whole value => wholeExceeds value limit
  | .real value => limit < value

/-- An amount, or the limit if the amount lies above it. -/
def atMost (amount : Amount) (limit : Float) : Amount :=
  if amount.exceeds limit then .real limit else amount

/-- An amount doubled a number of times; nothing if the power of two is beyond all finite
numbers. -/
def doubled? (amount : Amount) (times : Nat) : Option Amount :=
  match amount with
  | .whole value => some (.whole (value * 2 ^ times))
  | .real value => (floatOfInt? (2 ^ times)).map fun factor => .real (value * factor)

end Amount

end MarketSignal
