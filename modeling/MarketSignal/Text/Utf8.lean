/-
Files and records hold bytes. Turning them into text fails at the first byte that belongs to no
character, and the failure says which bytes are to blame and what is wrong with them: one that can
start no character, one that should continue a character and does not, or a text that ends too
early.
-/
import MarketSignal.Text.Quoted

namespace MarketSignal.Text

/-- What is wrong with the bytes of a text. -/
inductive Damage where
  /-- A byte that starts no character. -/
  | start (byte position : Nat)
  /-- The beginning of a character, of the given length, that the next byte does not continue. -/
  | continuation (byte position length : Nat)
  /-- The beginning of a character, of the given length, at the end of the text. -/
  | ending (byte position length : Nat)
deriving DecidableEq, Repr

/-- The blamed bytes in words: one byte by its value, several by their positions. -/
def blamed (byte position length : Nat) : String :=
  if length = 1 then
    "byte 0x" ++ String.ofList (hexDigits 2 byte) ++ " in position " ++
      String.ofList (Nat.toDigits 10 position)
  else
    "bytes in position " ++ String.ofList (Nat.toDigits 10 position) ++ "-" ++
      String.ofList (Nat.toDigits 10 (position + length - 1))

/-- The wording of damage. -/
def Damage.message : Damage → String
  | .start byte position =>
    "'utf-8' codec can't decode " ++ blamed byte position 1 ++ ": invalid start byte"
  | .continuation byte position length =>
    "'utf-8' codec can't decode " ++ blamed byte position length ++ ": invalid continuation byte"
  | .ending byte position length =>
    "'utf-8' codec can't decode " ++ blamed byte position length ++ ": unexpected end of data"

/-- The number of bytes of a character by its first byte, and the range of its second byte, which
shuts out needlessly long forms, halves of pairs and numbers beyond the last character. -/
def characterForm? (lead : Nat) : Option (Nat × Nat × Nat) :=
  if lead < 0x80 then some (1, 0, 0)
  else if lead < 0xC2 then none
  else if lead < 0xE0 then some (2, 0x80, 0xBF)
  else if lead = 0xE0 then some (3, 0xA0, 0xBF)
  else if lead = 0xED then some (3, 0x80, 0x9F)
  else if lead < 0xF0 then some (3, 0x80, 0xBF)
  else if lead = 0xF0 then some (4, 0x90, 0xBF)
  else if lead < 0xF4 then some (4, 0x80, 0xBF)
  else if lead = 0xF4 then some (4, 0x80, 0x8F)
  else none

/-- How many bytes continue a character, given the number wanted and the range of the first. -/
def continued : Nat → Nat → Nat → List Nat → Nat
  | 0, _, _, _ => 0
  | _, _, _, [] => 0
  | wanted + 1, low, high, byte :: rest =>
    if low ≤ byte ∧ byte ≤ high then 1 + continued wanted 0x80 0xBF rest else 0

/-- The first damage from a position on. The bound is the number of bytes. -/
def damageFrom : Nat → Nat → List Nat → Option Damage
  | 0, _, _ => none
  | _, _, [] => none
  | bound + 1, position, lead :: rest =>
    match characterForm? lead with
    | none => some (.start lead position)
    | some (length, low, high) =>
      let found := continued (length - 1) low high rest
      if found = length - 1 then damageFrom bound (position + length) (rest.drop (length - 1))
      else if found = rest.length then some (.ending lead position (found + 1))
      else some (.continuation lead position (found + 1))

/-- The text of bytes, or the first damage in them. -/
def decode (bytes : ByteArray) : Except Damage String :=
  match String.fromUTF8? bytes with
  | some text => .ok text
  | none =>
    let numbers := bytes.toList.map UInt8.toNat
    .error ((damageFrom (numbers.length + 1) 0 numbers).getD (.ending 0 0 1))

end MarketSignal.Text
