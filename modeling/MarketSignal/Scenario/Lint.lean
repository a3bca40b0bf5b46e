/-
What an author should mend although it does not keep a book from being stored: scenarios without a
name, choices that cannot be told apart, choices that nobody will be offered, and outcomes that
cannot be reached.
-/
import MarketSignal.Scenario.Basic
import MarketSignal.Fault

namespace MarketSignal

/-- An issue for every choice whose value one of the choices before it has. -/
def repeatedChoices (place : String) : List Json → List Choice → Except Fault (List String)
  | _, [] => .ok []
  | seen, choice :: rest => do
    if !choice.value.isKey then throw .wrongKind
    let issues ←
      if seen.any fun value => value.same choice.value then
        pure [place ++ ": duplicate option value " ++ (← choice.value.spell)]
      else pure []
    return issues ++ (← repeatedChoices place (choice.value :: seen) rest)

/-- The issues of a condition. -/
def Condition.issues (condition : Condition) (place : String) : Except Fault (List String) :=
  if condition.kind.offersChoices then repeatedChoices place [] condition.choices
  else if condition.choices.isEmpty then .ok []
  else .ok [place ++ ": options are ignored for " ++ condition.kind.name ++ " conditions"]

/-- The issues of an outcome. -/
def Outcome.issues (outcome : Outcome) (place : String) : List String :=
  match outcome.threshold with
  | some _ => []
  | none => [place ++ ": output has no threshold"]

/-- The issues of the name of a scenario, which must be a text. -/
def nameIssues (id : String) (name : Json) : Except Fault (List String) :=
  match name with
  | .str text => .ok (if (Text.trim text).isEmpty then [id ++ ": scenario has no name"] else [])
  | _ => .error .wrongShape

/-- The issues of a scenario under the given identity. -/
def Scenario.issues (scenario : Scenario) (id : String) : Except Fault (List String) := do
  let ofName ← nameIssues id scenario.name
  let ofConditions ←
    scenario.conditions.entries.mapM fun entry => entry.2.issues (id ++ "." ++ entry.1)
  let ofOutcomes :=
    scenario.outcomes.entries.map fun entry => entry.2.issues (id ++ "." ++ entry.1)
  return ofName ++ ofConditions.flatten ++ ofOutcomes.flatten

/-- The issues of a book, scenario by scenario. -/
def Book.issues (book : Book) : Except Fault (List String) := do
  let issues ← (Table.entries book).mapM fun entry => entry.2.issues entry.1
  return issues.flatten

end MarketSignal
