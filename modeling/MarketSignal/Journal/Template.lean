/-
Message templates. A percent sign in a template stands for an argument: the letter after it says
how the argument is written, as a text, in its literal form, as a character, or as a number of some
kind. Between the two there may be a width, with signs for how to fill it, and a precision; a star
in the place of either takes it from the arguments. Two percent signs stand for one.

Arguments are used up in order, and every one of them must be used; or else they are the members of
an object, which are named in parentheses and need not be used at all. A template without arguments
is not looked into.
-/
import MarketSignal.Fault
import MarketSignal.Number.Places

namespace MarketSignal

attribute [local instance (2000)] instPowNat

namespace Template

/-- What fills the places of a template. -/
inductive Arguments where
  | inOrder (values : List Json)
  | byName (members : List (String × Json))

/-- The arguments for a list of values. A single object that is not empty gives its members. -/
def Arguments.ofValues : List Json → Arguments
  | [.obj (member :: members)] => .byName (member :: members)
  | values => .inOrder values

/-- Whether there are no arguments. -/
def Arguments.isEmpty : Arguments → Bool
  | .inOrder [] => true
  | _ => false

/-- The next argument, by name if there is one, and the arguments left. An object serves as a whole
where no name is given. -/
def Arguments.next : Arguments → Option String → Except Fault (Json × Arguments)
  | .inOrder (value :: rest), none => .ok (value, .inOrder rest)
  | .inOrder [], none => .error .wrongKind
  | .inOrder _, some _ => .error .wrongKind
  | .byName members, none => .ok (.obj members, .inOrder [])
  | .byName members, some name =>
    match Entries.get? members name with
    | some value => .ok (value, .byName members)
    | none => .error (.absentName (.str name))

/-! ### Places -/

/-- How an argument is laid out. -/
structure Place where
  name : Option String
  onLeft : Bool
  zeros : Bool
  signed : Bool
  spaced : Bool
  full : Bool
  width : Nat
  precision : Option Nat
  form : Char

/-- Fills a text up to a width. -/
def fill (place : Place) (text : List Char) : List Char :=
  let missing := place.width - text.length
  if place.onLeft then text ++ List.replicate missing ' '
  else List.replicate missing ' ' ++ text

/-- Fills a number up to a width. Zeros go between what stands in front of the number and the
number. -/
def fillNumber (place : Place) (negative : Bool) (mark text : List Char) : List Char :=
  let sign :=
    if negative then ['-'] else if place.signed then ['+'] else if place.spaced then [' '] else []
  let front := sign ++ mark
  if place.zeros && !place.onLeft then
    front ++ List.replicate (place.width - front.length - text.length) '0' ++ text
  else fill place (front ++ text)

/-- A text, cut to the precision. -/
def cut (place : Place) (text : List Char) : List Char :=
  match place.precision with
  | some length => text.take length
  | none => text

/-! ### Whole numbers -/

/-- The whole number that an argument gives. -/
def wholeArgument (value : Json) : Except Fault Int :=
  match value with
  | .int whole => .ok whole
  | .bool truth => .ok (if truth then 1 else 0)
  | .float number =>
    match truncated? number with
    | some whole => .ok whole
    | none => .error (if isNotANumber number then .notNumber else .tooLarge)
  | _ => .error .wrongKind

/-- The whole number that an argument is. -/
def exactArgument (value : Json) : Except Fault Int :=
  match value with
  | .int whole => .ok whole
  | .bool truth => .ok (if truth then 1 else 0)
  | _ => .error .wrongKind

/-- A whole number in some base, with as many digits as the precision asks for at least. -/
def wholeText (place : Place) (base : Nat) (mark : List Char) (value : Int) : List Char :=
  let digits := Nat.toDigits base value.natAbs
  let padded := List.replicate (place.precision.getD 0 - digits.length) '0' ++ digits
  fillNumber place (value < 0) (if place.full then mark else []) padded

/-- Capital letters for the common ones. -/
def capitalDigits (text : List Char) : List Char := text.map Char.toUpper

/-! ### Other numbers -/

/-- The floating-point number that an argument gives. -/
def floatArgument (value : Json) : Except Fault Float :=
  match value with
  | .float number => .ok number
  | .int whole =>
    match floatOfInt? whole with
    | some near => .ok near
    | none => .error .tooLarge
  | .bool truth => .ok (if truth then 1 else 0)
  | _ => .error .wrongKind

/-- A magnitude in the form of a place, with six places where no precision is given. -/
def magnitudeText (place : Place) (form : Char) (magnitude : Binary) : List Char :=
  let precision := place.precision.getD 6
  if form = 'f' then magnitude.withPlaces place.full precision
  else if form = 'e' then
    let (text, power) := magnitude.withPower place.full precision
    text ++ power
  else magnitude.withDigits place.full (max 1 precision)

/-- A floating-point number in the form of a place. -/
def floatText (place : Place) (form : Char) (number : Float) : List Char :=
  match Shape.ofFloat number with
  | .notANumber => fillNumber place false [] "nan".toList
  | .infinite negative => fillNumber place negative [] "inf".toList
  | .finite negative magnitude =>
    fillNumber place negative [] (magnitudeText place form magnitude)

/-! ### Texts -/

/-- A character of a literal form, spelled out unless it is a common one. -/
def commonCharacter (c : Char) : List Char :=
  if c.toNat < 0x7F then [c]
  else if c.toNat ≤ 0xFF then '\\' :: 'x' :: Text.hexDigits 2 c.toNat
  else if c.toNat ≤ 0xFFFF then '\\' :: 'u' :: Text.hexDigits 4 c.toNat
  else '\\' :: 'U' :: Text.hexDigits 8 c.toNat

/-- The character that an argument is or has the number of. -/
def characterArgument (value : Json) : Except Fault (List Char) :=
  match value with
  | .str text => if text.length = 1 then .ok text.toList else .error .wrongKind
  | other => do
    let number ← exactArgument other
    if 0 ≤ number ∧ number < 0x110000 then return [Char.ofNat number.toNat]
    else throw .tooLarge

/-- An argument in the form that a place asks for. -/
def argumentText (place : Place) (value : Json) : Except Fault (List Char) :=
  match place.form with
  | 's' => return fill place (cut place (← value.display).toList)
  | 'r' => return fill place (cut place (← value.spell).toList)
  | 'a' => return fill place (cut place ((← value.spell).toList.flatMap commonCharacter))
  | 'c' => return fill place (← characterArgument value)
  | 'x' => return wholeText place 16 ['0', 'x'] (← exactArgument value)
  | 'X' => return capitalDigits (wholeText place 16 ['0', 'x'] (← exactArgument value))
  | 'o' => return wholeText place 8 ['0', 'o'] (← exactArgument value)
  | form =>
    if form = 'd' ∨ form = 'i' ∨ form = 'u' then do
      let whole ← wholeArgument value
      if exceedsDigitLimit whole then throw .longNumber
      return wholeText place 10 [] whole
    else if form = 'e' ∨ form = 'f' ∨ form = 'g' then do
      return floatText place form (← floatArgument value)
    else if form = 'E' ∨ form = 'F' ∨ form = 'G' then do
      return capitalDigits (floatText place form.toLower (← floatArgument value))
    else .error .notNumber

/-! ### Reading places -/

/-- A number at the start of a text, and the rest. -/
def leadingNumber (text : List Char) : Option Nat × List Char :=
  match spanDigits text with
  | ([], _) => (none, text)
  | (digits, rest) => (some (digitsValue 0 digits), rest)

/-- The widths and precisions that are not too large lie below this number. -/
def measureLimit : Nat := 2 ^ (31 : Nat)

/-- A measure, unless it is too large. -/
def measured (measure : Int) : Except Fault Int :=
  if measure.natAbs < measureLimit then .ok measure else .error .tooLarge

/-- A measure at the start of a text, if there is one: a number, or a star for the next argument.
It comes with the arguments left and the rest of the text. -/
def leadingMeasure (arguments : Arguments) (text : List Char) :
    Except Fault (Option Int × Arguments × List Char) := do
  match text with
  | '*' :: rest =>
    match ← arguments.next none with
    | (.int measure, left) => return (some (← measured measure), left, rest)
    | (.bool truth, left) => return (some (if truth then 1 else 0), left, rest)
    | _ => throw .wrongKind
  | _ =>
    match leadingNumber text with
    | (some number, rest) => return (some (← measured number), arguments, rest)
    | (none, rest) => return (none, arguments, rest)

/-- The name in parentheses at the start of a text, and the rest. Parentheses within the name come
in pairs; the number says how many are open. -/
def nameUpTo : Nat → List Char → Option (List Char × List Char)
  | _, [] => none
  | 0, ')' :: rest => some ([], rest)
  | depth + 1, ')' :: rest => (nameUpTo depth rest).map fun found => (')' :: found.1, found.2)
  | depth, '(' :: rest => (nameUpTo (depth + 1) rest).map fun found => ('(' :: found.1, found.2)
  | depth, c :: rest => (nameUpTo depth rest).map fun found => (c :: found.1, found.2)

/-- The name in parentheses at the start of a text, and the rest. -/
def leadingName (text : List Char) : Option String × List Char :=
  match text with
  | '(' :: rest =>
    match nameUpTo 0 rest with
    | some (name, after) => (some (String.ofList name), after)
    | none => (none, text)
  | _ => (none, text)

/-- The signs at the start of a text that say how to fill, and the rest. -/
def leadingSigns (text : List Char) : List Char × List Char :=
  text.span fun c => c == '-' || c == '0' || c == '+' || c == ' ' || c == '#'

/-- A text without the letter for the size of a number, which means nothing. -/
def withoutSize : List Char → List Char
  | c :: rest => if c = 'h' ∨ c = 'l' ∨ c = 'L' then rest else c :: rest
  | [] => []

/-- The place that starts after a percent sign, with the arguments left and the rest of the text. A
template may not end within a place. -/
def place (arguments : Arguments) (text : List Char) :
    Except Fault (Place × Arguments × List Char) := do
  let (name, afterName) := leadingName text
  let (signs, afterSigns) := leadingSigns afterName
  let (width, afterWidth, rest) ← leadingMeasure arguments afterSigns
  let (precision, left, rest) ←
    match rest with
    | '.' :: rest => do
      let (precision, left, rest) ← leadingMeasure afterWidth rest
      pure (some ((precision.getD 0).toNat), left, rest)
    | _ => pure (none, afterWidth, rest)
  let given := width.getD 0
  match withoutSize rest with
  | form :: rest =>
    let onLeft := signs.contains '-' || decide (given < 0)
    return (⟨name, onLeft, signs.contains '0', signs.contains '+', signs.contains ' ',
        signs.contains '#', given.natAbs, precision, form⟩,
      left, rest)
  | [] => throw .notNumber

/-- Fills the places of a template. The bound is the length of the template. -/
def fillPlaces : Nat → Arguments → List Char → Except Fault (List Char)
  | _, .inOrder (_ :: _), [] => .error .wrongKind
  | _, _, [] => .ok []
  | 0, _, _ => .error .notNumber
  | bound + 1, arguments, '%' :: '%' :: rest => do
    return '%' :: (← fillPlaces bound arguments rest)
  | bound + 1, arguments, '%' :: rest => do
    let (place, left, after) ← place arguments rest
    let (value, left) ← left.next place.name
    return (← argumentText place value) ++ (← fillPlaces bound left after)
  | bound + 1, arguments, c :: rest => do
    return c :: (← fillPlaces bound arguments rest)

/-- The message that a template and its arguments make. -/
def message (template : String) (values : List Json) : Except Fault String :=
  let arguments := Arguments.ofValues values
  if arguments.isEmpty then .ok template
  else do
    let text := template.toList
    return String.ofList (← fillPlaces (text.length + 1) arguments text)

end Template

end MarketSignal
