/-
The edits of a draft. An edit that fails leaves the book as it was. The texts that an author gives
are kept as given, of whatever kind they are; weights and thresholds must be numbers, or texts of
numbers, and the kind of a condition must be one of the four.
-/
import MarketSignal.Draft.Basic
import MarketSignal.Scenario.Reading

namespace MarketSignal

namespace Draft

/-! ### Finding entries -/

/-- The name that messages give to a part of a part. -/
def partName (id key : Json) : Except Fault String := do
  return (← id.display) ++ "." ++ (← key.display)

/-- The fault that nothing of a kind is under a key, which must be shown. -/
def missing {Result : Type} (kind : String) (key : Json) : Except Fault Result := do
  let _ ← key.display
  throw (.notFound kind key)

/-- The scenario under an identity, which is answered as a text. -/
def scenarioAt (book : Book) (id : Json) : Except Fault (String × Scenario) := do
  match ← Table.lookUp book id with
  | some found => return found
  | none => missing "scenario" id

/-- A part of a scenario, with the names under which both are found. -/
structure Spot (Part : Type) where
  id : String
  scenario : Scenario
  key : String
  part : Part

/-- The condition of a scenario under a key. -/
def conditionAt (book : Book) (id key : Json) : Except Fault (Spot Condition) := do
  let (name, scenario) ← scenarioAt book id
  match ← scenario.conditions.lookUp key with
  | some (part, condition) => return ⟨name, scenario, part, condition⟩
  | none => missing "condition" (.str (← partName id key))

/-- The outcome of a scenario under a key. -/
def outcomeAt (book : Book) (id key : Json) : Except Fault (Spot Outcome) := do
  let (name, scenario) ← scenarioAt book id
  match ← scenario.outcomes.lookUp key with
  | some (part, outcome) => return ⟨name, scenario, part, outcome⟩
  | none => missing "output" (.str (← partName id key))

/-- The place in a list that an index names. Truth values are zero and one. A number between the
places names none of them and is refused where it lies within the list; what is no number cannot
even be compared. -/
def placeOf? (count : Nat) (index : Json) : Except Fault (Option Nat) :=
  match index with
  | .int place => .ok (if 0 ≤ place ∧ place < count then some place.toNat else none)
  | .bool value =>
    let place := if value then 1 else 0
    .ok (if place < count then some place else none)
  | .float place =>
    if (0 : Float) ≤ place && place < Float.ofNat count then .error .wrongKind else .ok none
  | _ => .error .wrongKind

/-- The choice of a condition at an index, with its place. -/
def choiceAt (book : Book) (id key index : Json) :
    Except Fault (Spot Condition × Nat × Choice) := do
  let spot ← conditionAt book id key
  let found := (← placeOf? spot.part.choices.length index).bind fun place =>
    spot.part.choices[place]?.map fun choice => (place, choice)
  match found with
  | some (place, choice) => return (spot, place, choice)
  | none =>
    missing "option" (.str ((← partName id key) ++ "[" ++ (← index.display) ++ "]"))

/-! ### Values given by the author -/

/-- A number given by the author. The number that is none is accepted. -/
def givenNumber (value : Json) : Except Fault Float :=
  match value with
  | .bool truth => .ok (if truth then 1 else 0)
  | .int whole =>
    match floatOfInt? whole with
    | some number => .ok number
    | none => .error .tooLarge
  | .float number => .ok number
  | .str text =>
    match floatOfText? text with
    | some number => .ok number
    | none => .error .notNumber
  | _ => .error .wrongKind

/-- A number that stays as it is unless the author gives another. -/
def numberOr (current : Float) (value : Json) : Except Fault Float :=
  if value.isNull then .ok current else givenNumber value

/-- A text that stays as it is unless the author gives another. -/
def valueOr (current value : Json) : Json := if value.isNull then current else value

/-- A kind of conditions that stays as it is unless the author gives another. -/
def kindOr (current : ConditionKind) (value : Json) : Except Fault ConditionKind :=
  if value.isNull then .ok current else ConditionKind.read value

/-! ### Putting entries back -/

/-- The book of the draft. -/
def currentBook : Run Draft Book := return (← get).book

/-- Puts a scenario under its identity. -/
def putScenario (id : String) (scenario : Scenario) : Run Draft Unit :=
  modify fun draft => { draft with book := Table.put draft.book id scenario }

/-- Puts a condition under a key of a scenario. -/
def putCondition (id : String) (scenario : Scenario) (key : String) (condition : Condition) :
    Run Draft Unit :=
  putScenario id { scenario with conditions := scenario.conditions.put key condition }

/-- Puts an outcome under a key of a scenario. -/
def putOutcome (id : String) (scenario : Scenario) (key : String) (outcome : Outcome) :
    Run Draft Unit :=
  putScenario id { scenario with outcomes := scenario.outcomes.put key outcome }

/-- Puts other choices into a condition. -/
def putChoices (spot : Spot Condition) (choices : List Choice) : Run Draft Unit :=
  putCondition spot.id spot.scenario spot.key { spot.part with choices := choices }

/-! ### Scenarios -/

/-- The name of a scenario that is given none. -/
def newScenarioName : Json := .str "New scenario"

/-- The label of a new condition. -/
def newConditionLabel : Json := .str "New condition"

/-- The label of a choice that is given none. -/
def newChoiceLabel : Json := .str "New option"

/-- The message of an outcome that is given none. -/
def newOutcomeMessage : Json := .str "New output"

/-- Adds a scenario at the end and answers its identity. -/
def addScenario (name : Json) : Run Draft String := do
  let id ← issueKey "scenario"
  putScenario id ⟨id, name, Table.empty, Table.empty⟩
  return id

/-- Gives a scenario another name. -/
def renameScenario (id name : Json) : Run Draft Unit := do
  let (key, scenario) ← Run.ofExcept (scenarioAt (← currentBook) id)
  putScenario key { scenario with name := name }

/-- Deletes a scenario. -/
def deleteScenario (id : Json) : Run Draft Unit := do
  let (key, _) ← Run.ofExcept (scenarioAt (← currentBook) id)
  modify fun draft => { draft with book := Table.erase draft.book key }

/-! ### Conditions -/

/-- Adds a condition at the end of a scenario and answers its key. -/
def addCondition (id : Json) : Run Draft String := do
  let (name, scenario) ← Run.ofExcept (scenarioAt (← currentBook) id)
  let key ← issueKey "condition"
  putCondition name scenario key ⟨newConditionLabel, .text, 0, []⟩
  return key

/-- Changes a condition. One that comes to offer choices and has none gets an empty one. -/
def updateCondition (id key label kind weight : Json) : Run Draft Condition := do
  let spot ← Run.ofExcept (conditionAt (← currentBook) id key)
  let kind ← Run.ofExcept (kindOr spot.part.kind kind)
  let weight ← Run.ofExcept (numberOr spot.part.weight weight)
  let choices :=
    if kind.offersChoices && spot.part.choices.isEmpty then [⟨.str "", newChoiceLabel, 0⟩]
    else spot.part.choices
  let updated := ⟨valueOr spot.part.label label, kind, weight, choices⟩
  putCondition spot.id spot.scenario spot.key updated
  return updated

/-- Deletes a condition. -/
def deleteCondition (id key : Json) : Run Draft Unit := do
  let spot ← Run.ofExcept (conditionAt (← currentBook) id key)
  putScenario spot.id
    { spot.scenario with conditions := spot.scenario.conditions.erase spot.key }

/-! ### Choices -/

/-- Adds a choice at the end of a condition and answers its place. -/
def addChoice (id key value label weight : Json) : Run Draft Nat := do
  let spot ← Run.ofExcept (conditionAt (← currentBook) id key)
  let weight ← Run.ofExcept (givenNumber weight)
  putChoices spot (spot.part.choices ++ [⟨value, label, weight⟩])
  return spot.part.choices.length

/-- Changes a choice. -/
def updateChoice (id key index value label weight : Json) : Run Draft Choice := do
  let (spot, place, choice) ← Run.ofExcept (choiceAt (← currentBook) id key index)
  let weight ← Run.ofExcept (numberOr choice.weight weight)
  let updated := ⟨valueOr choice.value value, valueOr choice.label label, weight⟩
  putChoices spot (spot.part.choices.set place updated)
  return updated

/-- Deletes a choice; the later ones move up. -/
def deleteChoice (id key index : Json) : Run Draft Unit := do
  let (spot, place, _) ← Run.ofExcept (choiceAt (← currentBook) id key index)
  putChoices spot (spot.part.choices.eraseIdx place)

/-! ### Outcomes -/

/-- Adds an outcome at the end of a scenario and answers its key, which is issued even if the
threshold is refused. -/
def addOutcome (id threshold message kind : Json) : Run Draft String := do
  let (name, scenario) ← Run.ofExcept (scenarioAt (← currentBook) id)
  let key ← issueKey "output"
  let threshold ← Run.ofExcept (givenNumber threshold)
  putOutcome name scenario key ⟨some threshold, message, kind⟩
  return key

/-- Changes an outcome. Its kind changes if one is given, even if that is null. -/
def updateOutcome (id key threshold message : Json) (kind : Option Json) : Run Draft Outcome := do
  let spot ← Run.ofExcept (outcomeAt (← currentBook) id key)
  let threshold ←
    if threshold.isNull then pure spot.part.threshold
    else some <$> Run.ofExcept (givenNumber threshold)
  let updated := ⟨threshold, valueOr spot.part.message message, kind.getD spot.part.kind⟩
  putOutcome spot.id spot.scenario spot.key updated
  return updated

/-- Deletes an outcome. -/
def deleteOutcome (id key : Json) : Run Draft Unit := do
  let spot ← Run.ofExcept (outcomeAt (← currentBook) id key)
  putScenario spot.id
    { spot.scenario with outcomes := spot.scenario.outcomes.erase spot.key }

end Draft

end MarketSignal
