/-
The score of answers against a scenario is the sum of what each answer contributes. The answers are
taken in the order of their keys, so that the sum, which depends on the order of its terms in the
last digit, depends on the answers alone.
-/
import MarketSignal.Signal.Answer

namespace MarketSignal

/-- The weight of the first choice with the given value; zero, and a warning, if there is none. -/
def Condition.choiceWeight (condition : Condition) (key : String) (value : Json) :
    Run Journal Float :=
  match condition.choices.find? fun choice => choice.value.same value with
  | some choice => return choice.weight
  | none => do
    Journal.note .warning
      ("No matching option found for condition '" ++ key ++ "' (value: " ++
        (← Run.ofExcept value.spell) ++ ").")
    return 0

/-- What an answer contributes to the score. Its own kind decides how its value counts, and the
weights are those of the condition. -/
def Condition.contribution (condition : Condition) (key : String) (answer : Answer) :
    Run Journal Float := do
  if answer.value.isNull then
    noteMissing key
    return 0
  match ConditionKind.ofName? answer.kind with
  | some .radio => condition.choiceWeight key answer.value
  | some .select => condition.choiceWeight key answer.value
  | some .checkbox => return if answer.value.truthy then condition.weight else 0
  | some .text => return condition.weight
  | none =>
    Journal.note .warning
      ("Unknown condition type: '" ++ answer.kind ++ "' for key '" ++ key ++ "'.")
    return 0

/-- The entries of a table in the order of their names. -/
def Table.sorted {Value : Type} (table : Table Value) : List (String × Value) :=
  table.entries.mergeSort fun left right => !decide (right.1 < left.1)

/-- What each answer contributes, in the order of the keys. An answer to a condition that the
scenario does not have is passed over with a warning. -/
def Scenario.contributions (scenario : Scenario) :
    List (String × Answer) → Run Journal (List (String × Float))
  | [] => return []
  | (key, answer) :: rest => do
    match scenario.conditions.get? key with
    | none =>
      Journal.note .warning
        ("Condition '" ++ key ++ "' not defined in scenario '" ++ scenario.id ++ "'.")
      scenario.contributions rest
    | some condition =>
      let contribution ← condition.contribution key answer
      return (key, contribution) :: (← scenario.contributions rest)

/-- The sum of contributions from the first to the last, from zero on. -/
def total (contributions : List (String × Float)) : Float :=
  contributions.foldl (fun sum entry => sum + entry.2) 0

/-- The score of the answers and what each contributes. -/
def Scenario.score (scenario : Scenario) (answers : Table Answer) :
    Run Journal (Float × Table Float) := do
  let contributions ← scenario.contributions answers.sorted
  return (total contributions, Table.ofEntries contributions)

/-! ### The outcome of a score -/

/-- Whether an outcome with the given threshold is passed over at a score. -/
def outOfReach (threshold score : Float) : Bool := score < threshold

/-- The better of an outcome chosen before, with its threshold, and the next one: a higher threshold
within reach wins, and of equal thresholds the first. -/
def betterOutcome (score : Float) (best : Option (Float × String × Outcome))
    (next : String × Outcome) : Option (Float × String × Outcome) :=
  match next.2.threshold with
  | none => best
  | some threshold =>
    if outOfReach threshold score then best
    else
      match best with
      | none => some (threshold, next)
      | some (highest, _) => if highest < threshold then some (threshold, next) else best

/-- The outcome with the highest threshold not above the score, under its key; the first one of
equals. -/
def selectOutcome (outcomes : Table Outcome) (score : Float) : Option (String × Outcome) :=
  (outcomes.entries.foldl (betterOutcome score) none).map Prod.snd

end MarketSignal
