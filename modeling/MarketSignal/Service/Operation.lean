/-
What a service is asked to do. A path leads to a resource, and for each resource some methods ask
for an operation. A path with a slash too many at its end leads where it leads without it.
-/
import MarketSignal.Service.Form
import MarketSignal.Service.Target

namespace MarketSignal

/-- What a path leads to. -/
inductive Resource where
  | book
  | scenario (id : String)
  | evaluation (id : String)
  | predictions
  | assignments
  | assignment (market : String)
  | backup
  | inbox
deriving DecidableEq, Repr

/-- What can be done. -/
inductive Operation where
  | readBook
  | writeBook
  | readScenario (id : String)
  | evaluate (id : String)
  | predict
  | readAssignments
  | writeAssignments
  | assign (market : String)
  | unassign (market : String)
  | backUp
  | receive
deriving DecidableEq, Repr

namespace Resource

/-- The resource that a path leads to. Every step of a path has a name. -/
def ofPath? (path : String) : Option Resource :=
  match (Text.pieces '/' path.toList).map String.ofList with
  | ["", "scenarios"] => some .book
  | ["", "scenarios", id] => if id.isEmpty then none else some (.scenario id)
  | ["", "scenarios", id, "evaluate"] => if id.isEmpty then none else some (.evaluation id)
  | ["", "predict"] => some .predictions
  | ["", "assignments"] => some .assignments
  | ["", "assignments", market] => if market.isEmpty then none else some (.assignment market)
  | ["", "export"] => some .backup
  | ["", "scenarios.json"] => some .inbox
  | _ => none

/-- A path without the slashes at its end. -/
def withoutFinalSlashes (path : String) : String :=
  String.ofList ((path.toList.reverse.dropWhile fun c => c == '/').reverse)

/-- The resource that a path leads to, with or without slashes too many at its end. -/
def find? (path : String) : Option Resource :=
  match ofPath? path with
  | some resource => some resource
  | none => ofPath? (withoutFinalSlashes path)

/-- The operation that a method asks for. -/
def operation? (resource : Resource) (method : String) : Option Operation :=
  match resource, method with
  | .book, "GET" => some .readBook
  | .book, "PUT" => some .writeBook
  | .scenario id, "GET" => some (.readScenario id)
  | .evaluation id, "POST" => some (.evaluate id)
  | .predictions, "POST" => some .predict
  | .assignments, "GET" => some .readAssignments
  | .assignments, "PUT" => some .writeAssignments
  | .assignment market, "PUT" => some (.assign market)
  | .assignment market, "DELETE" => some (.unassign market)
  | .backup, "GET" => some .backUp
  | .inbox, "POST" => some .receive
  | _, _ => none

end Resource

namespace Operation

/-- An object of any members. -/
def anyObject : ValueShape := .object .anything

/-- The form of a document. -/
def documentForm : Form :=
  [⟨"scenarios", .object anyObject, true⟩, ⟨"version", .optional .text, false⟩]

/-- The form of the body that an operation needs, if it needs one. -/
def form? : Operation → Option Form
  | .writeBook => some documentForm
  | .receive => some documentForm
  | .evaluate _ =>
    some
      [⟨"values", .optional anyObject, false⟩,
        ⟨"collected", .optional (.object anyObject), false⟩]
  | .predict =>
    some
      [⟨"values", .object anyObject, false⟩, ⟨"markets", .optional (.list .text), false⟩]
  | .writeAssignments => some [⟨"assignments", .object .text, true⟩]
  | .assign _ => some [⟨"scenario_id", .text, true⟩]
  | _ => none

/-- Whether an operation works on the library. -/
def needsLibrary : Operation → Bool
  | .receive => false
  | _ => true

/-- The flag of the query that makes an operation strict, if it has one. -/
def flag? : Operation → Option String
  | .writeBook => some "strict"
  | _ => none

end Operation

end MarketSignal
