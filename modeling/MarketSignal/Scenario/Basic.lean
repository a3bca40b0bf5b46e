/-
A scenario asks questions about a market and knows what the answers mean. Its conditions are the
questions, each with a weight; a choice of a condition has a weight of its own. Its outcomes are
what may be signalled, each from a threshold on. A book is a table of scenarios by identity.

The texts of a scenario that was read from a document are texts. A draft, however, keeps whatever
its author puts there, so these fields hold any value of the data format.
-/
import MarketSignal.Json.Basic

namespace MarketSignal

/-- The ways in which a condition is answered. -/
inductive ConditionKind where
  | radio
  | checkbox
  | text
  | select
deriving DecidableEq, Repr

namespace ConditionKind

/-- The name of a kind in documents. -/
def name : ConditionKind → String
  | .radio => "radio"
  | .checkbox => "checkbox"
  | .text => "text"
  | .select => "select"

/-- All kinds, in the order in which documents list them. -/
def all : List ConditionKind := [.radio, .checkbox, .text, .select]

/-- The kind with the given name. -/
def ofName? (name : String) : Option ConditionKind := all.find? fun kind => kind.name == name

/-- Whether the answer is one of the condition's choices. -/
def offersChoices : ConditionKind → Bool
  | .radio => true
  | .select => true
  | _ => false

theorem ofName?_name (kind : ConditionKind) : ofName? kind.name = some kind := by
  cases kind <;> decide

end ConditionKind

/-- One of the answers that a condition offers. -/
structure Choice where
  value : Json
  label : Json
  weight : Float

/-- A question about a market. -/
structure Condition where
  label : Json
  kind : ConditionKind
  weight : Float
  choices : List Choice

/-- What is signalled once the score reaches a threshold; without a threshold never. -/
structure Outcome where
  threshold : Option Float
  message : Json
  kind : Json

/-- A scenario with its questions and outcomes. -/
structure Scenario where
  id : String
  name : Json
  conditions : Table Condition
  outcomes : Table Outcome

/-- Scenarios by identity. -/
abbrev Book := Table Scenario

/-- The version of the documents that are written. -/
def documentVersion : String := "1.0"

/-- The book to fall back on: one scenario without questions. -/
def defaultBook : Book :=
  Table.ofEntries
    [("bullishBreakout", ⟨"bullishBreakout", .str "Bullish Breakout", Table.empty, Table.empty⟩)]

end MarketSignal
