/-
A signal is what a scenario makes of a set of answers: a kind and a message for the reader, the
score, and what each answer contributed to it. An evaluation that cannot be done gives a signal
too, of the kind `error` and with the reason.
-/
import MarketSignal.Signal.Score

namespace MarketSignal

/-- Why a signal is an error. -/
inductive Reason where
  | scenarioNotFound
  | internalError
deriving DecidableEq, Repr

/-- The name of a reason. -/
def Reason.name : Reason → String
  | .scenarioNotFound => "scenario_not_found"
  | .internalError => "internal_error"

/-- The result of an evaluation. -/
structure Signal where
  kind : Json
  message : Json
  score : Float
  contributions : Table Float
  reason : Option Reason

namespace Signal

/-- The kind of a signal that points nowhere. -/
def neutralKind : String := "neutral"

/-- The kind of a signal that stands for a failure. -/
def errorKind : String := "error"

/-- A signal without a score. -/
def withoutScore (kind message : String) (reason : Option Reason) : Signal :=
  ⟨.str kind, .str message, 0, Table.empty, reason⟩

/-- The signal of a failed evaluation. -/
def failed (reason : Reason) : Signal := withoutScore errorKind "Analysis error" (some reason)

/-- Whether a signal stands for a failure. -/
def isError (signal : Signal) : Bool := signal.kind.same (.str errorKind)

/-- The contributions as a value. -/
def contributionsJson (signal : Signal) : Json :=
  .obj (signal.contributions.map Json.float).entries

/-- A signal as a value; the reason is left out where there is none. -/
def toJson (signal : Signal) : Json :=
  .obj
    ([("type", signal.kind), ("message", signal.message), ("score", .float signal.score),
        ("contributions", signal.contributionsJson)] ++
      (signal.reason.map fun reason => ("reason", Json.str reason.name)).toList)

end Signal

/-! ### Evaluation -/

/-- What is to be evaluated: no scenario at all, a scenario, or the definition of one. -/
inductive Subject where
  | absent
  | scenario (scenario : Scenario)
  | definition (value : Json)

/-- An answer as a caller gives it: read already, or as a value. -/
inductive GivenAnswer where
  | known (answer : Answer)
  | plain (value : Json)

/-- The answer itself. -/
def GivenAnswer.read : GivenAnswer → Except Fault Answer
  | .known answer => .ok answer
  | .plain value => Answer.read value

/-- The answers to evaluate: read already, as one value, or each in its own way. -/
inductive Replies where
  | answers (answers : Table Answer)
  | plain (value : Json)
  | each (given : Table GivenAnswer)

/-- The answers themselves. -/
def Replies.read : Replies → Except Fault (Table Answer)
  | .answers given => .ok given
  | .plain value => Answer.readAll value
  | .each given => readMembers (fun _ answer => answer.read) given.entries

/-- The scenario of a definition, which is an object and may name its identity. -/
def Scenario.ofDefinition (value : Json) : Except Fault Scenario :=
  match value with
  | .obj _ => do
    let id := value.member "id"
    Scenario.read (← if id.truthy then id.display else .ok "") value
  | _ => .error .wrongKind

/-- The signal for a score: that of the chosen outcome, or a neutral one. An outcome without a kind
or a message is filled up. -/
def Scenario.signal (scenario : Scenario) (score : Float) (contributions : Table Float) :
    Run Journal Signal :=
  match selectOutcome scenario.outcomes score with
  | none => do
    Journal.note .info
      ("Neutral signal for scenario '" ++ scenario.id ++ "': no thresholds met.")
    return ⟨.str Signal.neutralKind, .str "Neutral signal", score, contributions, none⟩
  | some (_, outcome) => do
    let threshold := (outcome.threshold.map floatText).getD "None"
    Journal.note .info
      ("Best output for scenario '" ++ scenario.id ++ "': " ++
        (← Run.ofExcept outcome.message.display) ++ " (threshold: " ++ threshold ++ ", score: " ++
        floatText score ++ ")")
    let kind := if outcome.kind.truthy then outcome.kind else .str Signal.neutralKind
    let message := if outcome.message.truthy then outcome.message else .str "Unknown result"
    return ⟨kind, message, score, contributions, none⟩

/-- The signal of a failure on the way to a score, with a notice that names the scenario as far as
it is known. -/
def failedEvaluation (id : String) : Run Journal Signal := do
  Journal.note .error ("Error evaluating scenario '" ++ id ++ "'.")
  return Signal.failed .internalError

/-- Scores answers, given as they come, against a scenario. A fault on the way to the score gives an
error signal. -/
def Scenario.evaluate (scenario : Scenario) (replies : Replies) : Run Journal Signal := do
  let scored ←
    tryCatch
      (do
        let answers ← Run.ofExcept replies.read
        return some (← scenario.score answers))
      fun _ => return none
  match scored with
  | some (score, contributions) => scenario.signal score contributions
  | none => failedEvaluation scenario.id

/-- Scores answers against a subject. Without a scenario, and for a definition that is none, the
signal is an error. -/
def evaluate (subject : Subject) (replies : Replies) : Run Journal Signal :=
  match subject with
  | .absent => do
    Journal.note .error "Scenario not found for evaluation."
    return Signal.failed .scenarioNotFound
  | .scenario known => known.evaluate replies
  | .definition value =>
    match Scenario.ofDefinition value with
    | .ok defined => defined.evaluate replies
    | .error _ => failedEvaluation "None"

/-- A scenario that may be missing. -/
def Subject.ofOption : Option Scenario → Subject
  | some known => .scenario known
  | none => .absent

end MarketSignal
