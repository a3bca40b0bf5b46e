/-
From scenarios to values. A condition without choices and an outcome without a kind leave the
member out, so that what is written is as short as what an author would write.
-/
import MarketSignal.Scenario.Basic

namespace MarketSignal

/-- A choice as a value. -/
def Choice.toJson (choice : Choice) : Json :=
  .obj [("value", choice.value), ("label", choice.label), ("weight", .float choice.weight)]

/-- A condition as a value. -/
def Condition.toJson (condition : Condition) : Json :=
  let always :=
    [("label", condition.label), ("type", .str condition.kind.name),
      ("weight", .float condition.weight)]
  if condition.choices.isEmpty then .obj always
  else .obj (always ++ [("options", .arr (condition.choices.map Choice.toJson))])

/-- A threshold as a value. -/
def thresholdToJson : Option Float → Json
  | some threshold => .float threshold
  | none => .null

/-- An outcome as a value. -/
def Outcome.toJson (outcome : Outcome) : Json :=
  let always := [("threshold", thresholdToJson outcome.threshold), ("message", outcome.message)]
  if outcome.kind.truthy then .obj (always ++ [("type", outcome.kind)]) else .obj always

/-- A scenario as a value, without its identity. -/
def Scenario.toJson (scenario : Scenario) : Json :=
  .obj
    [("name", scenario.name),
      ("conditions", .obj (scenario.conditions.map Condition.toJson).entries),
      ("outputs", .obj (scenario.outcomes.map Outcome.toJson).entries)]

/-- A scenario as a value that starts with its identity. -/
def Scenario.toJsonWithId (scenario : Scenario) : Json :=
  match scenario.toJson with
  | .obj members => .obj (("id", .str scenario.id) :: members)
  | other => other

/-- A book as a value. -/
def Book.toJson (book : Book) : Json := .obj (Table.map Scenario.toJson book).entries

end MarketSignal
