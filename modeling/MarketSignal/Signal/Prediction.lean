/-
A prediction is the signal of the scenario that is assigned to a market. A market without a
scenario has a neutral signal; a market whose scenario is gone has an error.
-/
import MarketSignal.Signal.Basic
import MarketSignal.Text.LetterCase

namespace MarketSignal

/-- The signal for a market. -/
structure Prediction where
  market : String
  scenarioId : Json
  signal : Signal

namespace Prediction

/-- A prediction as a value. -/
def toJson (prediction : Prediction) : Json :=
  let own := [("market", .str prediction.market), ("scenario_id", prediction.scenarioId)]
  match prediction.signal.toJson with
  | .obj members => .obj (own ++ members)
  | _ => .obj own

/-- A prediction in one line: the market in capitals, the message, and the score as a strength
unless it is zero. -/
def text (prediction : Prediction) : String :=
  let message := String.ofList prediction.signal.message.shown
  let score := prediction.signal.score
  let strength := if score == 0 then "" else " (Strength: " ++ strengthText score ++ ")"
  Text.capitals prediction.market ++ ": " ++ message ++ strength

/-- A prediction as a value, with its line of text. -/
def toJsonWithText (prediction : Prediction) : Json :=
  match prediction.toJson with
  | .obj members => .obj (members ++ [("text", .str prediction.text)])
  | other => other

end Prediction

/-- The prediction for a market. -/
def predictMarket (book : Book) (assignments : Json) (market : String) (given : Json) :
    Run Journal Prediction := do
  let _ ← Run.ofExcept (objectMembers assignments)
  let id := assignments.member market
  if !id.truthy then
    return ⟨market, .null, Signal.withoutScore Signal.neutralKind "No scenario assigned" none⟩
  match ← Run.ofExcept (Table.lookUp book id) with
  | none =>
    Journal.note .error
      ("Scenario '" ++ (← Run.ofExcept id.display) ++ "' assigned to market '" ++ market ++
        "' does not exist.")
    return ⟨market, id, ← evaluate .absent (.answers Table.empty)⟩
  | some (_, scenario) =>
    let answers ← scenario.collect given
    return ⟨market, id, ← evaluate (.scenario scenario) (.answers answers)⟩

/-- The predictions for markets in turn, each with what was given for it. -/
def predictMarkets (book : Book) (assignments : Json) (markets : List String) (given : Json) :
    Run Journal (List Prediction) :=
  markets.mapM fun market => do
    predictMarket book assignments market (← Run.ofExcept (givenFor given market))

end MarketSignal
