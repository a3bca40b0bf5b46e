/-
An answer to a condition lives for one evaluation. It carries a copy of what the condition says
about itself, but only its kind and its value take part in the score.
-/
import MarketSignal.Scenario.Reading
import MarketSignal.Journal

namespace MarketSignal

/-- An answer to a condition. -/
structure Answer where
  label : Json
  kind : String
  value : Json
  weight : Float

namespace Answer

/-- Reads an answer. -/
def read (value : Json) : Except Fault Answer := do
  let _ ← objectMembers value
  let label ← readText (value.member "label")
  let kind ← readText (kindMember value)
  let weight ← readWeight (value.member "weight")
  return ⟨.str label, kind, value.member "value", weight⟩

/-- An answer as a value. -/
def toJson (answer : Answer) : Json :=
  .obj
    [("label", answer.label), ("type", .str answer.kind), ("value", answer.value),
      ("weight", .float answer.weight)]

/-- Reads the answers of an object, one for each member. -/
def readAll (value : Json) : Except Fault (Table Answer) := do
  readMembers (fun _ item => Answer.read item) (← objectMembers value)

end Answer

/-- The label of an answer to a condition without one. -/
def unknownLabel : String := "Unknown condition"

/-- The value of an answer, made from what a caller gave: a choice is named by its text, a box is
ticked or not, and a free text has no blanks around it. -/
def givenValue (kind : ConditionKind) (given : Json) : Except Fault Json :=
  match kind, given with
  | .checkbox, value => .ok (.bool value.truthy)
  | _, .null => .ok .null
  | .text, value => do return .str (Text.trim (← value.display))
  | _, value => do return .str (← value.display)

/-- What a caller gave for a condition. Anything empty gives nothing at all; anything else must be
an object. -/
def givenFor (given : Json) (key : String) : Except Fault Json :=
  if given.truthy then do
    let _ ← objectMembers given
    return given.member key
  else .ok .null

/-- A notice that a condition has no value. -/
def noteMissing (key : String) : Run Journal Unit :=
  Journal.note .debug ("Condition '" ++ key ++ "' has missing value.")

/-- One answer for each condition of a scenario, in its order. What is given for other names is
passed over. -/
def Scenario.collect (scenario : Scenario) (given : Json) : Run Journal (Table Answer) := do
  let entries ← scenario.conditions.entries.mapM fun (key, condition) => do
    let value ← Run.ofExcept (givenFor given key >>= givenValue condition.kind)
    if value.isNull then noteMissing key
    let label := if condition.label.truthy then condition.label else .str unknownLabel
    return (key, (⟨label, condition.kind.name, value, condition.weight⟩ : Answer))
  return Table.ofEntries entries

end MarketSignal
