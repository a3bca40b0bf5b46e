/-
Documents, records, answers and settings come as values of one data format: null, truth values,
numbers, texts, lists and objects. Whole numbers have any size and are told apart from
floating-point numbers. The members of an object keep their order.
-/
import MarketSignal.Table
import MarketSignal.Number.Binary

namespace MarketSignal

/-- A value of the data format. -/
inductive Json where
  | null
  | bool (value : Bool)
  | int (value : Int)
  | float (value : Float)
  | str (text : String)
  | arr (items : List Json)
  | obj (members : List (String × Json))
deriving Inhabited

namespace Json

/-- The member of an object with the given name; `null` if there is none, and for any other
value. -/
def member (value : Json) (name : String) : Json :=
  match value with
  | .obj members => (Entries.get? members name).getD .null
  | _ => .null

/-- Whether a value is null. -/
def isNull : Json → Bool
  | .null => true
  | _ => false

/-- Whether a value counts as true: null, zero and everything empty do not. A number that is none
does, being unequal to zero. -/
def truthy : Json → Bool
  | .null => false
  | .bool value => value
  | .int value => value != 0
  | .float value => !(value == 0)
  | .str text => !text.isEmpty
  | .arr items => !items.isEmpty
  | .obj members => !members.isEmpty

/-- The table of texts as an object. -/
def ofTexts (table : Table String) : Json :=
  .obj (table.entries.map fun entry => (entry.1, .str entry.2))

/-! ### Equality of values -/

/-- The number that a value counts as in comparisons, if it counts as a whole one: truth values are
one and zero. -/
def wholeNumber? : Json → Option Int
  | .bool value => some (if value then 1 else 0)
  | .int value => some value
  | .float value => wholeValue? value
  | _ => none

mutual

/-- Whether two values are equal. Numbers are equal if their values are, whatever their kind;
truth values count as one and zero; objects are equal if they have equal members in any order. -/
def same : Json → Json → Bool
  | .null, .null => true
  | .str left, .str right => left == right
  | .float left, .float right => left == right
  | .arr left, .arr right => sameItems left right
  | .obj left, .obj right => left.length == right.length && sameMembers left right
  | left, right =>
    match wholeNumber? left, wholeNumber? right with
    | some left, some right => left == right
    | _, _ => false

/-- Item by item. -/
def sameItems : List Json → List Json → Bool
  | [], [] => true
  | left :: lefts, right :: rights => same left right && sameItems lefts rights
  | _, _ => false

/-- Each member of the first list is found, with an equal value, in the second. -/
def sameMembers : List (String × Json) → List (String × Json) → Bool
  | [], _ => true
  | (name, value) :: rest, members =>
    (match Entries.get? members name with
      | some other => same value other
      | none => false) && sameMembers rest members

end

/-- Whether a value may serve as a name to look things up by: lists and objects may not. -/
def isKey : Json → Bool
  | .arr _ => false
  | .obj _ => false
  | _ => true

end Json

end MarketSignal
