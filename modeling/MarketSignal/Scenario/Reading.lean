/-
From values to scenarios. A missing text is empty, a missing number is zero, and what stands where
a number belongs and is none counts as zero too, so a value of almost any form can be read. What
cannot be read are values that are no objects, conditions of unknown kind and whole numbers beyond
the range of floating-point numbers.
-/
import MarketSignal.Scenario.Basic
import MarketSignal.Fault

namespace MarketSignal

/-! ### Numbers and texts -/

/-- The number that a value stands for, if it stands for one. Truth values stand for none, although
they count as numbers elsewhere. -/
def readNumber? (value : Json) : Except Fault (Option Float) :=
  let unlessNone := fun number => if isNotANumber number then none else some number
  match value with
  | .int whole =>
    match floatOfInt? whole with
    | some number => .ok (some number)
    | none => .error .tooLarge
  | .float number => .ok (unlessNone number)
  | .str text => .ok ((floatOfText? text).bind unlessNone)
  | _ => .ok none

/-- A weight: zero where there is no number. -/
def readWeight (value : Json) : Except Fault Float := do
  return (← readNumber? value).getD 0

/-- A text: empty for null, and otherwise the value as a message shows it. -/
def readText (value : Json) : Except Fault String :=
  match value with
  | .null => .ok ""
  | other => other.display

/-- The kind of a condition, an outcome or an answer: the member `type`, or `kind` where the former
is missing or null. -/
def kindMember (value : Json) : Json :=
  match value.member "type" with
  | .null => value.member "kind"
  | kind => kind

/-! ### Objects and lists -/

/-- The members of a value that must be an object. -/
def objectMembers (value : Json) : Except Fault (List (String × Json)) :=
  match value with
  | .obj members => .ok members
  | _ => .error .wrongShape

/-- The members of a value that may also be missing: nothing, zero or empty. -/
def optionalMembers (value : Json) : Except Fault (List (String × Json)) :=
  if value.truthy then objectMembers value else .ok []

/-- The items of a value that may also be missing. An object offers its names and a text its
characters, none of which is an object. -/
def optionalItems (value : Json) : Except Fault (List Json) :=
  if value.truthy then value.elements else .ok []

/-- Reads each member in turn into a table. -/
def readMembers {Item Read : Type} (read : String → Item → Except Fault Read)
    (members : List (String × Item)) : Except Fault (Table Read) := do
  let entries ← members.mapM fun entry => do return (entry.1, ← read entry.1 entry.2)
  return Table.ofEntries entries

/-! ### The parts of a scenario -/

/-- Reads a choice. -/
def Choice.read (value : Json) : Except Fault Choice := do
  let _ ← objectMembers value
  let answer ← readText (value.member "value")
  let label ← readText (value.member "label")
  let weight ← readWeight (value.member "weight")
  return ⟨.str answer, .str label, weight⟩

/-- Reads the kind of a condition, which must be one of the four. -/
def ConditionKind.read (value : Json) : Except Fault ConditionKind := do
  let known := match value with
    | .str name => ConditionKind.ofName? name
    | _ => none
  match known with
  | some kind => return kind
  | none =>
    if value.isKey then
      throw (.malformed "$" ("Unsupported condition kind: " ++ (← value.spell)))
    else throw .wrongKind

/-- Reads a condition. -/
def Condition.read (value : Json) : Except Fault Condition := do
  let _ ← objectMembers value
  let kind ← ConditionKind.read (kindMember value)
  let label ← readText (value.member "label")
  let weight ← readWeight (value.member "weight")
  let items ← optionalItems (value.member "options")
  let choices ← items.mapM Choice.read
  return ⟨.str label, kind, weight, choices⟩

/-- Reads an outcome. An empty kind is none. -/
def Outcome.read (value : Json) : Except Fault Outcome := do
  let _ ← objectMembers value
  let threshold ← readNumber? (value.member "threshold")
  let message ← readText (value.member "message")
  let kind := kindMember value
  if kind.truthy then return ⟨threshold, .str message, .str (← kind.display)⟩
  else return ⟨threshold, .str message, .null⟩

/-- A flaw of a condition, placed in its document. -/
def placedInCondition (id key : String) : Fault → Fault
  | .malformed _ detail => .malformed ("$.scenarios." ++ id ++ ".conditions." ++ key) detail
  | .violation _ _ detail => .malformed ("$.scenarios." ++ id ++ ".conditions." ++ key) detail
  | fault => fault

/-- Reads a scenario with the given identity. -/
def Scenario.read (id : String) (value : Json) : Except Fault Scenario := do
  let _ ← objectMembers value
  let conditions ←
    readMembers
      (fun key item =>
        match Condition.read item with
        | .ok condition => .ok condition
        | .error fault => .error (placedInCondition id key fault))
      (← optionalMembers (value.member "conditions"))
  let outcomes ←
    readMembers (fun _ item => Outcome.read item) (← optionalMembers (value.member "outputs"))
  let name ← readText (value.member "name")
  return ⟨id, .str name, conditions, outcomes⟩

end MarketSignal
