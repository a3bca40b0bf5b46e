/-
The text of a value, in two forms: on one line, and over several lines with two blanks for each
level. Everything beyond the common characters is escaped, so the text holds nothing but those.
-/
import MarketSignal.Json.Basic
import MarketSignal.Number.Layout
import MarketSignal.Number.Numeral
import MarketSignal.Text.Quoted

namespace MarketSignal

namespace Json

/-- An escape of four hexadecimal digits. -/
def unicodeEscape (unit : Nat) : List Char := '\\' :: 'u' :: Text.hexDigits 4 unit

/-- One character of a text. A character beyond the basic plane is written as its two halves. -/
def writtenCharacter (c : Char) : List Char :=
  let point := c.toNat
  if c = '"' then ['\\', '"']
  else if c = '\\' then ['\\', '\\']
  else if c = '\n' then ['\\', 'n']
  else if c = '\r' then ['\\', 'r']
  else if c = '\t' then ['\\', 't']
  else if point = 0x08 then ['\\', 'b']
  else if point = 0x0C then ['\\', 'f']
  else if 0x20 ≤ point ∧ point ≤ 0x7E then [c]
  else if point < 0x10000 then unicodeEscape point
  else
    unicodeEscape (0xD800 + (point - 0x10000) / 0x400) ++
      unicodeEscape (0xDC00 + (point - 0x10000) % 0x400)

/-- A text between quotes. -/
def writtenText (text : String) : List Char :=
  '"' :: text.toList.flatMap writtenCharacter ++ ['"']

/-- A floating-point number, with the fewest digits that read back. -/
def writtenFloat (number : Float) : List Char := Layout.document.write Binary.shortest number

/-- How the parts of lists and objects are set apart: on one line, or each on a line of its own at
the given level. -/
inductive Spread where
  | line
  | levels (level : Nat)

namespace Spread

/-- What stands before the first part and, after a comma, before each further part. -/
def lead : Spread → List Char
  | .line => []
  | .levels level => '\n' :: List.replicate (2 * (level + 1)) ' '

/-- What stands between two parts. -/
def between : Spread → List Char
  | .line => [',', ' ']
  | .levels level => ',' :: lead (.levels level)

/-- What stands behind the last part. -/
def tail : Spread → List Char
  | .line => []
  | .levels level => '\n' :: List.replicate (2 * level) ' '

/-- The spread of the parts of a part. -/
def inner : Spread → Spread
  | .line => .line
  | .levels level => .levels (level + 1)

end Spread

mutual

/-- The text of a value. -/
def written (spread : Spread) : Json → List Char
  | .null => "null".toList
  | .bool true => "true".toList
  | .bool false => "false".toList
  | .int value => digitsOfInt value
  | .float value => writtenFloat value
  | .str text => writtenText text
  | .arr [] => ['[', ']']
  | .arr (first :: rest) =>
    '[' :: spread.lead ++ written spread.inner first ++ writtenItems spread rest ++
      spread.tail ++ [']']
  | .obj [] => ['\x7b', '\x7d']
  | .obj ((name, first) :: rest) =>
    '\x7b' :: spread.lead ++ writtenText name ++ ':' :: ' ' :: written spread.inner first ++
      writtenMembers spread rest ++ spread.tail ++ ['\x7d']

/-- The items behind the first one. -/
def writtenItems (spread : Spread) : List Json → List Char
  | [] => []
  | item :: rest =>
    spread.between ++ written spread.inner item ++ writtenItems spread rest

/-- The members behind the first one. -/
def writtenMembers (spread : Spread) : List (String × Json) → List Char
  | [] => []
  | (name, value) :: rest =>
    spread.between ++ writtenText name ++ ':' :: ' ' :: written spread.inner value ++
      writtenMembers spread rest

end

/-- The text of a value on one line. -/
def line (value : Json) : String := String.ofList (written .line value)

/-- The text of a value over several lines. -/
def page (value : Json) : String := String.ofList (written (.levels 0) value)

/-! ### Numbers that are too long to write -/

mutual

/-- Whether a value holds a whole number with more digits than may be written. -/
def hasLongNumber : Json → Bool
  | .int value => exceedsDigitLimit value
  | .arr items => anyLongItem items
  | .obj members => anyLongMember members
  | _ => false

/-- Whether an item holds a number that is too long. -/
def anyLongItem : List Json → Bool
  | [] => false
  | item :: rest => hasLongNumber item || anyLongItem rest

/-- Whether a member holds a number that is too long. -/
def anyLongMember : List (String × Json) → Bool
  | [] => false
  | (_, value) :: rest => hasLongNumber value || anyLongMember rest

end

end Json

end MarketSignal
