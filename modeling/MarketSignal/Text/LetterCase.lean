/-
Capital and small forms of texts in all scripts. A character may become several (the sharp s has a
capital of two letters), and the small form of the capital sigma depends on whether it ends a
word, so both mappings are functions on texts and not on characters.
-/
import MarketSignal.Text.LetterCase.Tables

namespace MarketSignal.Text

namespace LetterCase

/-- The image of a code point under a list of runs, if one of them moves it. -/
def moved? (runs : List Run) (point : Nat) : Option Nat :=
  (runs.find? fun run =>
    decide (run.first ≤ point ∧ point ≤ run.last) && (point - run.first) % run.step == 0).map
      fun run => ((point : Int) + run.distance).toNat

/-- The capital form of one character. -/
def capital (c : Char) : List Char :=
  let point := c.toNat
  if point < 0x80 then
    if 0x61 ≤ point ∧ point ≤ 0x7A then [Char.ofNat (point - 0x20)] else [c]
  else
    match longCapitals.find? fun entry => entry.1 == point with
    | some entry => entry.2.map Char.ofNat
    | none => [((moved? capitalRuns point).map Char.ofNat).getD c]

/-- The first character that is not passed over beside a sigma has case. -/
def meetsCase : List Char → Bool
  | [] => false
  | c :: rest =>
    if ignoredRanges.has c.toNat then meetsCase rest else casedRanges.has c.toNat

/-- The small forms of the characters of a text, given what precedes them, nearest first. A capital
sigma that follows a letter and precedes none becomes the final sigma. -/
def smallAfter (before : List Char) : List Char → List Char
  | [] => []
  | c :: rest =>
    let point := c.toNat
    let small :=
      if point < 0x80 then
        if 0x41 ≤ point ∧ point ≤ 0x5A then [Char.ofNat (point + 0x20)] else [c]
      else if point = 0x3A3 then
        [Char.ofNat (if meetsCase before && !meetsCase rest then 0x3C2 else 0x3C3)]
      else if point = 0x130 then ['i', Char.ofNat 0x307]
      else [((moved? smallRuns point).map Char.ofNat).getD c]
    small ++ smallAfter (c :: before) rest

end LetterCase

/-- A text in capitals. -/
def capitals (text : String) : String := String.ofList (text.toList.flatMap LetterCase.capital)

/-- A text in small letters. -/
def smallLetters (text : String) : String := String.ofList (LetterCase.smallAfter [] text.toList)

end MarketSignal.Text
