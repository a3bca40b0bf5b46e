/-
Reading a value from its text. What cannot be read is answered with a complaint and the place it
is about. Inside the reader a place is the number of characters that are left there, which needs no
counting on the way; the distance from the start, the line and the column are worked out once, for
the answer.

Every second call of the reader at the latest leaves fewer characters than it found, so twice the
length of the text bounds the depth of all calls. The bound is passed along as a number and never
runs out.
-/
import MarketSignal.Json.Basic
import MarketSignal.Number.Numeral

namespace MarketSignal

namespace Json

/-- What is wrong with a text. -/
inductive Complaint where
  | expectingValue
  | expectingName
  | expectingColon
  | expectingComma
  | controlCharacter
  | unterminated
  | invalidEscape
  | invalidUnicodeEscape
  | extraData
  | byteOrderMark
deriving DecidableEq, Repr

/-- The wording of a complaint. -/
def Complaint.message : Complaint → String
  | .expectingValue => "Expecting value"
  | .expectingName => "Expecting property name enclosed in double quotes"
  | .expectingColon => "Expecting ':' delimiter"
  | .expectingComma => "Expecting ',' delimiter"
  | .controlCharacter => "Invalid control character at"
  | .unterminated => "Unterminated string starting at"
  | .invalidEscape => "Invalid \\escape"
  | .invalidUnicodeEscape => "Invalid \\uXXXX escape"
  | .extraData => "Extra data"
  | .byteOrderMark => "Unexpected UTF-8 BOM (decode using utf-8-sig)"

/-- Why a text was not read. -/
inductive Refusal where
  /-- A complaint, and how many characters are left at the place it is about. -/
  | complaint (complaint : Complaint) (left : Nat)
  /-- A whole number with too many digits, and how many it has. -/
  | tooManyDigits (digits : Nat)
deriving DecidableEq, Repr

/-- A complaint about the place where the given characters are left. A step of the reader answers
a refusal, or what it read and the characters left. -/
def refuse {Read : Type} (complaint : Complaint) (left : List Char) :
    Except Refusal (Read × List Char) :=
  .error (.complaint complaint left.length)

/-- The blanks that may stand between the parts of a text. -/
def isFiller (c : Char) : Bool := c == ' ' || c == '\n' || c == '\r' || c == '\t'

/-- Passes over blanks. -/
def skipFiller (text : List Char) : List Char := text.dropWhile isFiller

/-! ### Texts between quotes -/

/-- The value of a hexadecimal digit. -/
def hexValue? (c : Char) : Option Nat :=
  let point := c.toNat
  if 0x30 ≤ point ∧ point ≤ 0x39 then some (point - 0x30)
  else if 0x41 ≤ point ∧ point ≤ 0x46 then some (point - 0x37)
  else if 0x61 ≤ point ∧ point ≤ 0x66 then some (point - 0x57)
  else none

/-- The value of four hexadecimal digits. -/
def hexFour? (a b c d : Char) : Option Nat := do
  let a ← hexValue? a
  let b ← hexValue? b
  let c ← hexValue? c
  let d ← hexValue? d
  pure (((a * 16 + b) * 16 + c) * 16 + d)

/-- The character that a letter after a backslash stands for. -/
def escaped? : Char → Option Char
  | '"' => some '"'
  | '\\' => some '\\'
  | '/' => some '/'
  | 'b' => some (Char.ofNat 0x08)
  | 'f' => some (Char.ofNat 0x0C)
  | 'n' => some '\n'
  | 'r' => some '\r'
  | 't' => some '\t'
  | _ => none

/-- Whether a number is the first half of a character beyond the basic plane. -/
def isHighHalf (unit : Nat) : Bool := decide (0xD800 ≤ unit ∧ unit < 0xDC00)

/-- Whether a number is the second half of a character beyond the basic plane. -/
def isLowHalf (unit : Nat) : Bool := decide (0xDC00 ≤ unit ∧ unit < 0xE000)

/-- The character of a number; a half that stands alone becomes the replacement character. -/
def characterOf (unit : Nat) : Char :=
  if isHighHalf unit || isLowHalf unit then Char.ofNat 0xFFFD else Char.ofNat unit

/-- The character that two halves make. -/
def joinHalves (high low : Nat) : Char :=
  Char.ofNat (0x10000 + (high - 0xD800) * 0x400 + (low - 0xDC00))

/-- The character that an escape stands for, and the characters left behind it; the argument is what
follows the backslash. Four hexadecimal digits count only if a character follows them, since the
text must still be closed. A first half joins with an escape directly behind it if that is a second
half, and otherwise stands alone. -/
def escape (opening : List Char) (text : List Char) : Except Refusal (Char × List Char) :=
  match text with
  | [] => refuse .unterminated opening
  | 'u' :: a :: b :: c :: d :: next :: rest =>
    match hexFour? a b c d with
    | none => refuse .invalidUnicodeEscape text
    | some unit =>
      match isHighHalf unit, next, rest with
      | true, '\\', 'u' :: e :: f :: g :: h :: following :: remaining =>
        match hexFour? e f g h with
        | none => refuse .invalidUnicodeEscape rest
        | some second =>
          if isLowHalf second then .ok (joinHalves unit second, following :: remaining)
          else .ok (characterOf unit, next :: rest)
      | _, _, _ => .ok (characterOf unit, next :: rest)
  | 'u' :: _ => refuse .invalidUnicodeEscape text
  | c :: rest =>
    match escaped? c with
    | some meant => .ok (meant, rest)
    | none => refuse .invalidEscape ('\\' :: text)

/-- The characters up to the closing quote. An unclosed text is complained about at its opening
quote, from which the first list of characters starts. -/
def quotedText (opening : List Char) :
    Nat → List Char → Except Refusal (List Char × List Char)
  | 0, _ => refuse .unterminated opening
  | bound + 1, text =>
    match text with
    | [] => refuse .unterminated opening
    | '"' :: rest => .ok ([], rest)
    | '\\' :: rest => do
      let (meant, following) ← escape opening rest
      let (characters, left) ← quotedText opening bound following
      pure (meant :: characters, left)
    | c :: rest =>
      if c.toNat < 0x20 then refuse .controlCharacter text
      else do
        let (characters, left) ← quotedText opening bound rest
        pure (c :: characters, left)

/-! ### Numbers -/

/-- The digits before the point: a zero alone, or digits that do not start with one. -/
def wholeDigits : List Char → List Char × List Char
  | '0' :: rest => (['0'], rest)
  | text => spanDigits text

/-- A point and the digits behind it; nothing is taken unless a digit follows the point. -/
def fractionDigits (text : List Char) : Option (List Char) × List Char :=
  match text with
  | '.' :: rest =>
    let (digits, left) := spanDigits rest
    if digits.isEmpty then (none, text) else (some digits, left)
  | _ => (none, text)

/-- A power of ten; nothing is taken unless it has a digit. -/
def powerDigits (text : List Char) : Option Int × List Char :=
  match text with
  | c :: rest =>
    if c = 'e' ∨ c = 'E' then
      let (negative, unsigned) := Numeral.splitSign rest
      let (digits, left) := spanDigits unsigned
      if digits.isEmpty then (none, text)
      else
        let value : Int := digitsValue 0 digits
        (some (if negative then -value else value), left)
    else (none, text)
  | [] => (none, text)

/-- A number. It is a whole number unless it has a fraction or a power of ten. -/
def number (limit : Option Nat) (text : List Char) : Except Refusal (Json × List Char) :=
  let (negative, unsigned) :=
    match text with
    | '-' :: rest => (true, rest)
    | _ => (false, text)
  let (whole, rest) := wholeDigits unsigned
  if whole.isEmpty then refuse .expectingValue text
  else
    let (fraction, rest) := fractionDigits rest
    let (power, rest) := powerDigits rest
    match fraction, power with
    | none, none =>
      if (limit.map fun most => decide (most < whole.length)).getD false then
        .error (.tooManyDigits whole.length)
      else
        let value : Int := digitsValue 0 whole
        .ok (.int (if negative then -value else value), rest)
    | _, _ =>
      let decimals := fraction.getD []
      .ok (.float (floatOfDecimal negative (digitsValue 0 (whole ++ decimals))
        (power.getD 0 - decimals.length)), rest)

/-! ### Values -/

mutual

/-- A value that starts at the first character. -/
def readValue (limit : Option Nat) : Nat → List Char → Except Refusal (Json × List Char)
  | 0, text => refuse .expectingValue text
  | bound + 1, text =>
    match text with
    | '"' :: rest => do
      let (characters, left) ← quotedText text bound rest
      pure (.str (String.ofList characters), left)
    | '[' :: rest =>
      match skipFiller rest with
      | ']' :: left => .ok (.arr [], left)
      | first => do
        let (items, left) ← readItems limit bound first
        pure (.arr items, left)
    | '{' :: rest =>
      match skipFiller rest with
      | '}' :: left => .ok (.obj [], left)
      | first => do
        let (members, left) ← readMembers limit bound first
        pure (.obj (Entries.settle members), left)
    | 'n' :: 'u' :: 'l' :: 'l' :: left => .ok (.null, left)
    | 't' :: 'r' :: 'u' :: 'e' :: left => .ok (.bool true, left)
    | 'f' :: 'a' :: 'l' :: 's' :: 'e' :: left => .ok (.bool false, left)
    | 'N' :: 'a' :: 'N' :: left => .ok (.float notANumber, left)
    | 'I' :: 'n' :: 'f' :: 'i' :: 'n' :: 'i' :: 't' :: 'y' :: left => .ok (.float infinity, left)
    | '-' :: 'I' :: 'n' :: 'f' :: 'i' :: 'n' :: 'i' :: 't' :: 'y' :: left =>
      .ok (.float (floatOfWord true Binary.infinityWord), left)
    | _ => number limit text

/-- The items of a list and its closing bracket, from the start of an item. -/
def readItems (limit : Option Nat) : Nat → List Char → Except Refusal (List Json × List Char)
  | 0, text => refuse .expectingValue text
  | bound + 1, text => do
    let (item, rest) ← readValue limit bound text
    match skipFiller rest with
    | ']' :: left => pure ([item], left)
    | ',' :: following =>
      let (items, left) ← readItems limit bound (skipFiller following)
      pure (item :: items, left)
    | other => refuse .expectingComma other

/-- The members of an object and its closing brace, from the start of a name. -/
def readMembers (limit : Option Nat) :
    Nat → List Char → Except Refusal (List (String × Json) × List Char)
  | 0, text => refuse .expectingName text
  | bound + 1, text =>
    match text with
    | '"' :: afterQuote => do
      let (name, rest) ← quotedText text bound afterQuote
      match skipFiller rest with
      | ':' :: afterColon =>
        let (value, rest) ← readValue limit bound (skipFiller afterColon)
        match skipFiller rest with
        | '}' :: left => pure ([(String.ofList name, value)], left)
        | ',' :: following =>
          let (members, left) ← readMembers limit bound (skipFiller following)
          pure ((String.ofList name, value) :: members, left)
        | other => refuse .expectingComma other
      | other => refuse .expectingColon other
    | _ => refuse .expectingName text

end

/-! ### Whole texts -/

/-- Why a text is not the text of a value. -/
inductive Misread where
  /-- A complaint and the number of characters before the place it is about, with its line and
  column. -/
  | malformed (complaint : Complaint) (position line column : Nat)
  /-- A whole number with too many digits. -/
  | tooManyDigits (digits : Nat)
deriving DecidableEq, Repr

/-- Line and column after the given characters, both counted from one. -/
def place (before : List Char) : Nat × Nat :=
  before.foldl
    (fun (line, column) c => if c = '\n' then (line + 1, 1) else (line, column + 1)) (1, 1)

/-- A refusal in a text, seen from the start of the text. -/
def Misread.ofRefusal (text : List Char) : Refusal → Misread
  | .complaint complaint left =>
    let position := text.length - left
    let (line, column) := place (text.take position)
    .malformed complaint position line column
  | .tooManyDigits digits => .tooManyDigits digits

/-- Reads the text of one value, with blanks around it and nothing else. A limit bounds the digits
of its whole numbers. -/
def readCharacters (limit : Option Nat) (text : List Char) : Except Misread Json :=
  match text with
  | c :: _ =>
    if c.toNat = 0xFEFF then .error (.malformed .byteOrderMark 0 1 1) else go
  | [] => go
where
  go : Except Misread Json :=
    match readValue limit (2 * text.length + 2) (skipFiller text) with
    | .error refusal => .error (Misread.ofRefusal text refusal)
    | .ok (value, rest) =>
      match skipFiller rest with
      | [] => .ok value
      | extra => .error (Misread.ofRefusal text (.complaint .extraData extra.length))

/-- Reads the text of one value, whose whole numbers may have up to `digitLimit` digits. -/
def read (text : String) : Except Misread Json := readCharacters (some digitLimit) text.toList

/-- Reads the text of one value without a limit on its numbers. -/
def readUnlimited (text : String) : Except Misread Json := readCharacters none text.toList

/-- The full wording: for a malformed text the complaint and its place, counted from zero in
characters and from one in lines and columns. -/
def Misread.message : Misread → String
  | .malformed complaint position line column =>
    complaint.message ++ ": line " ++ String.ofList (Nat.toDigits 10 line) ++ " column " ++
      String.ofList (Nat.toDigits 10 column) ++ " (char " ++
      String.ofList (Nat.toDigits 10 position) ++ ")"
  | .tooManyDigits digits =>
    "Exceeds the limit (4300 digits) for integer string conversion: value has " ++
      String.ofList (Nat.toDigits 10 digits) ++
      " digits; use sys.set_int_max_str_digits() to increase the limit"

end Json

end MarketSignal
