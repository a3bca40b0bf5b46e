/-
An edit can be asked for by name, with arguments by position and by name. What each edit takes is a
list of parameters, some of which may be left out; the rest of an edit's arguments can be given by
name only. A request with arguments that the edit does not take, or without one that it needs, is
refused before anything is done.
-/
import MarketSignal.Draft.Keeping

namespace MarketSignal

/-- The edits of a draft and their arguments. -/
inductive Edit where
  | addScenario (name : Json)
  | renameScenario (id name : Json)
  | deleteScenario (id : Json)
  | addCondition (id : Json)
  | updateCondition (id key label kind weight : Json)
  | deleteCondition (id key : Json)
  | addChoice (id key value label weight : Json)
  | updateChoice (id key index value label weight : Json)
  | deleteChoice (id key index : Json)
  | addOutcome (id threshold message kind : Json)
  | updateOutcome (id key threshold message : Json) (kind : Option Json)
  | deleteOutcome (id key : Json)

/-- What an edit answers. -/
inductive EditResult where
  | done
  | key (key : String)
  | place (place : Nat)
  | condition (condition : Condition)
  | choice (choice : Choice)
  | outcome (outcome : Outcome)

namespace Edit

/-- Carries an edit out. -/
def perform (edit : Edit) : Run Draft EditResult :=
  match edit with
  | addScenario name => return .key (← Draft.addScenario name)
  | renameScenario id name => do
    Draft.renameScenario id name
    return .done
  | deleteScenario id => do
    Draft.deleteScenario id
    return .done
  | addCondition id => return .key (← Draft.addCondition id)
  | updateCondition id key label kind weight =>
    return .condition (← Draft.updateCondition id key label kind weight)
  | deleteCondition id key => do
    Draft.deleteCondition id key
    return .done
  | addChoice id key value label weight =>
    return .place (← Draft.addChoice id key value label weight)
  | updateChoice id key index value label weight =>
    return .choice (← Draft.updateChoice id key index value label weight)
  | deleteChoice id key index => do
    Draft.deleteChoice id key index
    return .done
  | addOutcome id threshold message kind =>
    return .key (← Draft.addOutcome id threshold message kind)
  | updateOutcome id key threshold message kind =>
    return .outcome (← Draft.updateOutcome id key threshold message kind)
  | deleteOutcome id key => do
    Draft.deleteOutcome id key
    return .done

end Edit

/-! ### Arguments -/

/-- A parameter: its name, and whether it must be given. -/
structure Parameter where
  name : String
  required : Bool

/-- The parameters of a request: those that may be given by position, and those that may not. -/
structure Parameters where
  positional : List Parameter
  named : List Parameter

/-- The arguments of a request, by the names of the parameters. -/
abbrev Arguments := List (String × Json)

namespace Parameters

/-- Required parameters by position. -/
def needs (names : List String) (optional : List String) : Parameters :=
  ⟨names.map fun name => ⟨name, true⟩, optional.map fun name => ⟨name, false⟩⟩

/-- Binds arguments to parameters. There may be no more arguments by position than parameters, no
argument may be given twice, none may be unknown, and none that is required may be missing. -/
def bind (parameters : Parameters) (positional : List Json) (named : Arguments) :
    Except Fault Arguments :=
  let all := parameters.positional ++ parameters.named
  let placed := (parameters.positional.map Parameter.name).zip positional
  let bound := placed ++ named
  if parameters.positional.length < positional.length then .error .wrongKind
  else if named.any fun entry =>
      placed.any (fun other => other.1 == entry.1) ||
        !all.any (fun parameter => parameter.name == entry.1) then .error .wrongKind
  else if all.any fun parameter =>
      parameter.required && !bound.any (fun entry => entry.1 == parameter.name) then
    .error .wrongKind
  else .ok bound

end Parameters

/-- The argument with the given name, or what stands in for it. -/
def argument (arguments : Arguments) (name : String) (otherwise : Json) : Json :=
  (Entries.get? arguments name).getD otherwise

namespace Edit

/-- The edit with the given name, once its arguments are bound. -/
def ofRequest? (name : String) (positional : List Json) (named : Arguments) :
    Option (Except Fault Edit) :=
  let bound := fun (parameters : Parameters) (edit : Arguments → Edit) =>
    some ((parameters.bind positional named).map edit)
  let given := fun arguments name => argument arguments name .null
  match name with
  | "add_scenario" =>
    bound ⟨[⟨"name", false⟩], []⟩ fun arguments =>
      .addScenario (argument arguments "name" Draft.newScenarioName)
  | "rename_scenario" =>
    bound (.needs ["scenario_id", "name"] []) fun arguments =>
      .renameScenario (given arguments "scenario_id") (given arguments "name")
  | "delete_scenario" =>
    bound (.needs ["scenario_id"] []) fun arguments =>
      .deleteScenario (given arguments "scenario_id")
  | "add_condition" =>
    bound (.needs ["scenario_id"] []) fun arguments =>
      .addCondition (given arguments "scenario_id")
  | "update_condition" =>
    bound (.needs ["scenario_id", "key"] ["label", "kind", "weight"]) fun arguments =>
      .updateCondition (given arguments "scenario_id") (given arguments "key")
        (given arguments "label") (given arguments "kind") (given arguments "weight")
  | "delete_condition" =>
    bound (.needs ["scenario_id", "key"] []) fun arguments =>
      .deleteCondition (given arguments "scenario_id") (given arguments "key")
  | "add_option" =>
    bound (.needs ["scenario_id", "key"] ["value", "label", "weight"]) fun arguments =>
      .addChoice (given arguments "scenario_id") (given arguments "key")
        (argument arguments "value" (.str ""))
        (argument arguments "label" Draft.newChoiceLabel)
        (argument arguments "weight" (.float 0))
  | "update_option" =>
    bound (.needs ["scenario_id", "key", "index"] ["value", "label", "weight"]) fun arguments =>
      .updateChoice (given arguments "scenario_id") (given arguments "key")
        (given arguments "index") (given arguments "value") (given arguments "label")
        (given arguments "weight")
  | "delete_option" =>
    bound (.needs ["scenario_id", "key", "index"] []) fun arguments =>
      .deleteChoice (given arguments "scenario_id") (given arguments "key")
        (given arguments "index")
  | "add_output" =>
    bound (.needs ["scenario_id"] ["threshold", "message", "kind"]) fun arguments =>
      .addOutcome (given arguments "scenario_id") (argument arguments "threshold" (.float 0))
        (argument arguments "message" Draft.newOutcomeMessage) (given arguments "kind")
  | "update_output" =>
    bound (.needs ["scenario_id", "key"] ["threshold", "message", "kind"]) fun arguments =>
      .updateOutcome (given arguments "scenario_id") (given arguments "key")
        (given arguments "threshold") (given arguments "message")
        (Entries.get? arguments "kind")
  | "delete_output" =>
    bound (.needs ["scenario_id", "key"] []) fun arguments =>
      .deleteOutcome (given arguments "scenario_id") (given arguments "key")
  | _ => none

end Edit

end MarketSignal
