/-
Which values are scenario documents. The grammar is stated as the list of a value's flaws: a value
is a document if it has none. A flaw has a place, the value found there, and the rule that the
value breaks. The flaws come in the order of the rules, and a part is examined only if it is there
and what holds it is of the right kind.

A document with several flaws is refused for the flaw whose place comes first as text.
-/
import MarketSignal.Scenario.Basic
import MarketSignal.Fault
import MarketSignal.Text.Pieces

namespace MarketSignal

/-! ### Flaws -/

/-- A step on the way to a part of a document. -/
inductive Step where
  | member (name : String)
  | item (index : Nat)
deriving DecidableEq, Repr

/-- The way to a part of a document. -/
abbrev Place := List Step

/-- A place as text, from the root on. -/
def Place.path (place : Place) : String :=
  place.foldl
    (fun path step =>
      match step with
      | .member name => path ++ "." ++ name
      | .item index => path ++ "[" ++ String.ofList (digitsOfNat index) ++ "]")
    "$"

/-- The kinds of values that a rule may ask for. -/
inductive ValueKind where
  | null
  | number
  | string
  | array
  | object
deriving DecidableEq, Repr

/-- The name of a kind of values. -/
def ValueKind.name : ValueKind → String
  | .null => "null"
  | .number => "number"
  | .string => "string"
  | .array => "array"
  | .object => "object"

/-- Whether a value is of a kind. Truth values are no numbers. -/
def ValueKind.holds : ValueKind → Json → Bool
  | .null, .null => true
  | .number, .int _ => true
  | .number, .float _ => true
  | .string, .str _ => true
  | .array, .arr _ => true
  | .object, .obj _ => true
  | _, _ => false

/-- The rules of the grammar. -/
inductive Rule where
  /-- The value is of one of these kinds. -/
  | ofKind (kinds : List ValueKind)
  /-- The value is one of these texts. -/
  | listed (texts : List String)
  /-- The value has this member. -/
  | required (name : String)
  /-- The value has one of several members. -/
  | alternative
deriving DecidableEq, Repr

/-- A broken rule. -/
structure Flaw where
  place : Place
  found : Json
  rule : Rule

/-- What is said about a flaw. -/
def Flaw.detail (flaw : Flaw) : Except Fault String :=
  match flaw.rule with
  | .ofKind kinds => do
    let names := kinds.map fun kind => Text.quoted kind.name
    return (← flaw.found.spell) ++ " is not of type " ++ String.intercalate ", " names
  | .listed texts => do
    let listed := Json.arr (texts.map .str)
    return (← flaw.found.spell) ++ " is not one of " ++ String.ofList listed.literal
  | .required name => return Text.quoted name ++ " is a required property"
  | .alternative => do
    return (← flaw.found.spell) ++ " is not valid under any of the given schemas"

/-! ### The rules -/

/-- A value at a place must be of one of the kinds. -/
def kindFlaws (kinds : List ValueKind) (place : Place) (value : Json) : List Flaw :=
  if kinds.any fun kind => kind.holds value then [] else [⟨place, value, .ofKind kinds⟩]

/-- A member of a value must satisfy a rule, if it is there. -/
def memberFlaws (value : Json) (place : Place) (name : String)
    (flaws : Place → Json → List Flaw) : List Flaw :=
  match value with
  | .obj members =>
    match Entries.get? members name with
    | some part => flaws (place ++ [.member name]) part
    | none => []
  | _ => []

/-- Every member of a value must satisfy a rule. -/
def eachMemberFlaws (flaws : Place → Json → List Flaw) (place : Place) (value : Json) :
    List Flaw :=
  match value with
  | .obj members => members.flatMap fun entry => flaws (place ++ [.member entry.1]) entry.2
  | _ => []

/-- Every item of a value must satisfy a rule. -/
def eachItemFlaws (flaws : Place → Json → List Flaw) (place : Place) (value : Json) :
    List Flaw :=
  match value with
  | .arr items => items.zipIdx.flatMap fun entry => flaws (place ++ [.item entry.2]) entry.1
  | _ => []

/-- A text, or nothing. -/
def textFlaws : Place → Json → List Flaw := kindFlaws [.string, .null]

/-- A number, or nothing. -/
def numberFlaws : Place → Json → List Flaw := kindFlaws [.number, .null]

/-- The kind of a condition. -/
def conditionKindFlaws (place : Place) (value : Json) : List Flaw :=
  let names := ConditionKind.all.map ConditionKind.name
  match value with
  | .str name => if names.contains name then [] else [⟨place, value, .listed names⟩]
  | _ => [⟨place, value, .listed names⟩]

/-- A choice. -/
def choiceFlaws (place : Place) (value : Json) : List Flaw :=
  kindFlaws [.object] place value ++
    memberFlaws value place "value" textFlaws ++
    memberFlaws value place "label" textFlaws ++
    memberFlaws value place "weight" numberFlaws

/-- A condition must name its kind in one of two ways. -/
def kindNamedFlaws (place : Place) (value : Json) : List Flaw :=
  match value with
  | .obj members =>
    if (Entries.get? members "type").isSome || (Entries.get? members "kind").isSome then []
    else [⟨place, value, .alternative⟩]
  | _ => []

/-- The choices of a condition. -/
def choicesFlaws (place : Place) (value : Json) : List Flaw :=
  kindFlaws [.array, .null] place value ++ eachItemFlaws choiceFlaws place value

/-- A condition. -/
def conditionFlaws (place : Place) (value : Json) : List Flaw :=
  kindFlaws [.object] place value ++
    kindNamedFlaws place value ++
    memberFlaws value place "label" textFlaws ++
    memberFlaws value place "type" conditionKindFlaws ++
    memberFlaws value place "kind" conditionKindFlaws ++
    memberFlaws value place "weight" numberFlaws ++
    memberFlaws value place "options" choicesFlaws

/-- An outcome. -/
def outcomeFlaws (place : Place) (value : Json) : List Flaw :=
  kindFlaws [.object] place value ++
    memberFlaws value place "threshold" numberFlaws ++
    memberFlaws value place "message" textFlaws ++
    memberFlaws value place "type" textFlaws ++
    memberFlaws value place "kind" textFlaws

/-- The parts of one sort of a scenario: an object of them, or nothing. -/
def partsFlaws (flaws : Place → Json → List Flaw) (place : Place) (value : Json) : List Flaw :=
  kindFlaws [.object, .null] place value ++ eachMemberFlaws flaws place value

/-- A scenario. -/
def scenarioFlaws (place : Place) (value : Json) : List Flaw :=
  kindFlaws [.object] place value ++
    memberFlaws value place "name" textFlaws ++
    memberFlaws value place "conditions" (partsFlaws conditionFlaws) ++
    memberFlaws value place "outputs" (partsFlaws outcomeFlaws)

/-- The scenarios of a document. -/
def scenariosFlaws (place : Place) (value : Json) : List Flaw :=
  kindFlaws [.object] place value ++ eachMemberFlaws scenarioFlaws place value

/-- A document must have scenarios. -/
def scenariosPresentFlaws (value : Json) : List Flaw :=
  match value with
  | .obj members =>
    if (Entries.get? members "scenarios").isSome then []
    else [⟨[], value, .required "scenarios"⟩]
  | _ => []

/-- A scenario document. -/
def documentFlaws (value : Json) : List Flaw :=
  kindFlaws [.object] [] value ++
    scenariosPresentFlaws value ++
    memberFlaws value [] "version" (kindFlaws [.string]) ++
    memberFlaws value [] "scenarios" scenariosFlaws

/-! ### The verdict -/

/-- Whether a flaw is reported rather than another one that is listed before it: its place comes
first as text, or the texts are the same, which names with dots in them can bring about, and its
place is nearer to the root. -/
def Flaw.precedes (flaw other : Flaw) : Bool :=
  flaw.place.path < other.place.path ||
    (flaw.place.path == other.place.path && decide (flaw.place.length < other.place.length))

/-- The flaw that is reported; of flaws of which none precedes another, the one listed first. -/
def firstFlaw? : List Flaw → Option Flaw
  | [] => none
  | flaw :: rest =>
    match firstFlaw? rest with
    | none => some flaw
    | some other => if other.precedes flaw then some other else some flaw

/-- The name of the grammar in messages. -/
def grammarName : String := "scenarios.schema"

/-- Passes a document of the grammar and refuses any other value. All flaws are put into words
before the first is chosen, so a number that is too long to write shows up in any of them. The name
is the one that messages give to the grammar. -/
def checkDocument (name : String) (value : Json) : Except Fault Unit := do
  let flaws := documentFlaws value
  let _ ← flaws.mapM Flaw.detail
  match firstFlaw? flaws with
  | none => return ()
  | some flaw =>
    let detail := "Schema '" ++ name ++ "' validation error: " ++ (← flaw.detail)
    throw (.violation name flaw.place.path detail)

/-- The file of a grammar beside the program, by name: single dots and empty steps lead nowhere,
and there is one grammar. -/
def isGrammarName (name : String) : Bool :=
  let steps := Text.pieces '/' name.toList
  !name.startsWith "/" &&
    (steps.filter fun step => step != [] && step != ['.']) == [grammarName.toList]

/-- Checks a value against the grammar with the given name, if there is such a grammar. -/
def checkAgainst (name : String) (value : Json) : Except Fault Unit :=
  if isGrammarName name then checkDocument name value else .error (.file .absent name)

end MarketSignal
