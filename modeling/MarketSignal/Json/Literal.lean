/-
Values inside messages. A text alone is shown as it is; anything else is spelled out, with texts
between quotes, so that a message tells a text from a number that looks like it.
-/
import MarketSignal.Json.Writer

namespace MarketSignal

namespace Json

mutual

/-- A value spelled out. -/
def literal : Json → List Char
  | .null => "None".toList
  | .bool true => "True".toList
  | .bool false => "False".toList
  | .int value => digitsOfInt value
  | .float value => Layout.message.write Binary.shortest value
  | .str text => (Text.quoted text).toList
  | .arr [] => ['[', ']']
  | .arr (first :: rest) => '[' :: literal first ++ literalItems rest ++ [']']
  | .obj [] => ['\x7b', '\x7d']
  | .obj ((name, first) :: rest) =>
    '\x7b' :: (Text.quoted name).toList ++ ':' :: ' ' :: literal first ++ literalMembers rest ++
      ['\x7d']

/-- The items behind the first one. -/
def literalItems : List Json → List Char
  | [] => []
  | item :: rest => ',' :: ' ' :: literal item ++ literalItems rest

/-- The members behind the first one. -/
def literalMembers : List (String × Json) → List Char
  | [] => []
  | (name, value) :: rest =>
    ',' :: ' ' :: (Text.quoted name).toList ++ ':' :: ' ' :: literal value ++ literalMembers rest

end

/-- A value as a message shows it by itself. -/
def shown : Json → List Char
  | .str text => text.toList
  | value => literal value

/-- A value spelled out, unless it holds a number that is too long to write. -/
def literal? (value : Json) : Option String :=
  if value.hasLongNumber then none else some (String.ofList value.literal)

/-- A value as a message shows it by itself, unless it holds a number that is too long to write. -/
def shown? (value : Json) : Option String :=
  if value.hasLongNumber then none else some (String.ofList value.shown)

end Json

end MarketSignal
