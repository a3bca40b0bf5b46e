/-
Two notions of blank are in use. Trimming a text removes the characters with the white space
property and the four information separators; a number may be surrounded by white space proper
only, so a separator beside its digits spoils it. Both tables follow version 14 of the character
database.
-/
import MarketSignal.Text.Ranges

namespace MarketSignal.Text

/-- The twenty-five characters with the white space property. -/
def whiteSpace : Ranges :=
  [(0x9, 0xD), (0x20, 0x20), (0x85, 0x85), (0xA0, 0xA0), (0x1680, 0x1680), (0x2000, 0x200A),
   (0x2028, 0x2029), (0x202F, 0x202F), (0x205F, 0x205F), (0x3000, 0x3000)]

/-- White space and the information separators `U+001C` to `U+001F`: what trimming removes. -/
def blankRanges : Ranges :=
  [(0x9, 0xD), (0x1C, 0x20), (0x85, 0x85), (0xA0, 0xA0), (0x1680, 0x1680), (0x2000, 0x200A),
   (0x2028, 0x2029), (0x202F, 0x202F), (0x205F, 0x205F), (0x3000, 0x3000)]

/-- White space in the strict sense, the only filling allowed around a number. -/
def isWhiteSpace (c : Char) : Bool := whiteSpace.has c.toNat

/-- Blank in the wider sense, as removed by `trim`. -/
def isBlank (c : Char) : Bool := blankRanges.has c.toNat

/-- Drops the characters of a class from both ends. -/
def trimBy (drop : Char → Bool) (text : List Char) : List Char :=
  ((text.dropWhile drop).reverse.dropWhile drop).reverse

/-- Drops blanks from both ends of a text. -/
def trim (text : String) : String := String.ofList (trimBy isBlank text.toList)

/-- The first piece of a list of characters up to a line boundary, and what follows the boundary;
`none` for the second part when there is no boundary left. A carriage return directly before a
line feed makes one boundary with it. -/
def breakLine : List Char → List Char × Option (List Char)
  | [] => ([], none)
  | '\r' :: '\n' :: rest => ([], some rest)
  | c :: rest =>
    if c.toNat ∈ [0x0A, 0x0B, 0x0C, 0x0D, 0x1C, 0x1D, 0x1E, 0x85, 0x2028, 0x2029] then
      ([], some rest)
    else
      let (line, remaining) := breakLine rest
      (c :: line, remaining)

theorem breakLine_shorter (text rest : List Char) (broken : (breakLine text).2 = some rest) :
    rest.length < text.length := by
  fun_induction breakLine text with
  | case1 => simp at broken
  | case2 following => simp at broken; subst broken; simp only [List.length_cons]; omega
  | case3 c following _ member => simp at broken; subst broken; simp
  | case4 c following _ member line remaining split hypothesis =>
    simp only [split] at hypothesis broken
    have shorter := hypothesis broken
    simp only [List.length_cons]
    omega

/-- The lines of a text. The end of the text closes a line only if something stands before it, so a
final boundary opens no empty line. -/
def lines (text : List Char) : List (List Char) :=
  match text with
  | [] => []
  | c :: rest =>
    match found : breakLine (c :: rest) with
    | (line, none) => [line]
    | (line, some remaining) =>
      have shorter : remaining.length < (c :: rest).length :=
        breakLine_shorter (c :: rest) remaining (by rw [found])
      line :: lines remaining
termination_by text.length
decreasing_by exact shorter

/-- Every line end becomes a line feed: what reading a text file does before anything else. -/
def unifyLineEnds : List Char → List Char
  | [] => []
  | '\r' :: '\n' :: rest => '\n' :: unifyLineEnds rest
  | '\r' :: rest => '\n' :: unifyLineEnds rest
  | c :: rest => c :: unifyLineEnds rest

end MarketSignal.Text
