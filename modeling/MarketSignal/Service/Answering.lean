/-
How requests are answered. A request is taken apart first: its path and method name an operation,
its body must be the text of a value, and body and query must fit the form of the operation. Then
the operation is carried out on a library opened for this request alone. A refusal that the caller
can do something about is answered with its wording; any other fault fails the request.

Numbers that are not finite have no place in an answer and are written as null.
-/
import MarketSignal.Scenario.Lint
import MarketSignal.Service.Operation
import MarketSignal.Settings.Tiers
import MarketSignal.Signal.Prediction

namespace MarketSignal

/-- A request: its method, its target, and the text of its body if it has one. -/
structure Request where
  method : String
  target : String
  body : Option String
deriving DecidableEq, Repr

/-- What an answer holds. -/
inductive Content where
  | nothing
  | value (value : Json)
  | blemishes (blemishes : List Blemish)
  | download (name text : String)

/-- An answer. -/
structure Answered where
  status : Nat
  content : Content

/-! ### Values in answers -/

/-- Whether a number is finite. -/
def isFinite (number : Float) : Bool :=
  match Shape.ofFloat number with
  | .finite .. => true
  | _ => false

namespace Json

mutual

/-- A value with null in the place of each number that is not finite. -/
def finite : Json → Json
  | .float number => if isFinite number then .float number else .null
  | .arr items => .arr (finiteItems items)
  | .obj members => .obj (finiteMembers members)
  | other => other

/-- Item by item. -/
def finiteItems : List Json → List Json
  | [] => []
  | item :: rest => finite item :: finiteItems rest

/-- Member by member. -/
def finiteMembers : List (String × Json) → List (String × Json)
  | [] => []
  | (name, value) :: rest => (name, finite value) :: finiteMembers rest

end

end Json

namespace Answered

/-- Success with a value. -/
def success (value : Json) : Answered := ⟨200, .value value.finite⟩

/-- A status with a detail for the caller. -/
def detail (status : Nat) (detail : Json) : Answered :=
  ⟨status, .value (.obj [("detail", detail)])⟩

/-- A status with the wording of a fault. -/
def refusal (status : Nat) (fault : Fault) : Answered := detail status (.str fault.message)

/-- A failed request. -/
def failure : Answered := ⟨500, .nothing⟩

end Answered

namespace Service

/-! ### Operations -/

/-- Answers faults of some kind with their wording and passes the others on. -/
def answering (status : Nat) (kind : Fault → Bool) (work : Run World Answered) :
    Run World Answered :=
  tryCatch work fun fault =>
    if kind fault then return Answered.refusal status fault else throw fault

/-- The book of a body that holds a document. -/
def bookOf (body : Json) : Except Fault Book :=
  Book.ofDocument (documentOf (body.member "scenarios"))

/-- The answer to a save. -/
def saved (book : Book) (more : List (String × Json)) : Answered :=
  .success (.obj (("saved", .int (Table.size book)) :: more))

/-- Saves the book of a body. A strict save refuses a book with issues. -/
def writeBook (library : Library) (body : Json) (strict : Bool) : Run World Answered := do
  match bookOf body with
  | .error fault =>
    if fault.isFormat then return Answered.refusal 422 fault else throw fault
  | .ok book =>
    let issues ← Run.ofExcept book.issues
    let listed : Json := .arr (issues.map .str)
    if strict && !issues.isEmpty then return Answered.detail 422 listed
    answering 502 Fault.isStorage do
      library.save book
      return saved book [("issues", listed)]

/-- Scores the answers of a body, or what it gives for the conditions. -/
def evaluateScenario (library : Library) (id : String) (body : Json) : Run World Answered := do
  let book ← library.load
  let scenario := Table.get? book id
  let answers ←
    match scenario with
    | none => pure Table.empty
    | some known =>
      let collected := body.member "collected"
      if collected.isNull then World.inJournal (known.collect (body.member "values"))
      else Run.ofExcept (Answer.readAll collected)
  let signal ←
    World.inJournal (MarketSignal.evaluate (Subject.ofOption scenario) (.answers answers))
  if signal.reason = some .scenarioNotFound then return Answered.detail 404 signal.toJson
  return .success signal.toJson

/-- Predicts the markets of a body, or those of the settings if it names none. -/
def predictFor (settings : Settings) (library : Library) (body : Json) : Run World Answered := do
  let book ← library.load
  let assignments ← library.assignments
  let named :=
    match body.member "markets" with
    | .arr items => items.map fun item => String.ofList item.shown
    | _ => []
  let markets := if named.isEmpty then settings.markets else named
  let given :=
    match body.member "values" with
    | .null => .obj []
    | other => other
  let predictions ←
    World.inJournal (predictMarkets book (.ofTexts assignments) markets given)
  return .success (.arr (predictions.map Prediction.toJsonWithText))

/-- Keeps the document of a body as a file. -/
def receive (settings : Settings) (body : Json) : Run World Answered := do
  match bookOf body with
  | .error fault =>
    if fault.isFormat then return Answered.refusal 422 fault else throw fault
  | .ok book =>
    answering 500 Fault.isStorage do
      let path := settings.dataPath.child "scenarios.json"
      World.onDisk (Disk.writeDocument path (documentOf book.toJson))
      World.note .info
        ("Stored " ++ String.ofList (digitsOfNat (Table.size book)) ++
          " scenarios posted to the sink endpoint.")
      return saved book []

/-- Carries an operation out. -/
def perform (settings : Settings) (library : Library) (operation : Operation) (body : Json)
    (strict : Bool) : Run World Answered :=
  match operation with
  | .readBook => do
    let book ← library.load
    return .success (documentOf book.toJson)
  | .writeBook => writeBook library body strict
  | .readScenario id => do
    match Table.get? (← library.load) id with
    | some scenario => return .success scenario.toJsonWithId
    | none => return Answered.detail 404 (.str "Scenario not found.")
  | .evaluate id => evaluateScenario library id body
  | .predict => predictFor settings library body
  | .readAssignments => return .success (.ofTexts (← library.assignments))
  | .writeAssignments =>
    answering 502 Fault.isStorage do
      let assignments := body.member "assignments"
      library.saveAssignments assignments
      return .success assignments
  | .assign market =>
    answering 502 (fun fault => fault.isStorage || fault.isFormat) do
      return .success (.obj (← library.assign market (body.member "scenario_id")).entries)
  | .unassign market =>
    answering 502 (fun fault => fault.isStorage || fault.isFormat) do
      return .success (.obj (← library.unassign market).entries)
  | .backUp => do
    let book ← library.load
    return ⟨200, .download "scenarios.json" (← Run.ofExcept book.backupText)⟩
  | .receive => receive settings body

/-! ### Requests -/

/-- The body of a request: nothing, a value, or the answer to a text that is none. -/
inductive Body where
  | absent
  | value (value : Json)
  | unusable (answer : Answered)

/-- Reads the body of a request, which may start with a byte order mark. -/
def readBody (text : Option String) : Body :=
  match text.map String.toList with
  | none => .absent
  | some [] => .absent
  | some (c :: rest) =>
    match Json.readCharacters (some digitLimit) (if c.toNat = 0xFEFF then rest else c :: rest) with
    | .ok value => .value value
    | .error (.malformed _ position _ _) =>
      .unusable ⟨422, .blemishes [⟨.noValue, bodyPlace ++ [.int position]⟩]⟩
    | .error (.tooManyDigits _) =>
      .unusable (Answered.detail 400 (.str "There was an error parsing the body"))

/-- The flag of an operation in a query, which is no unless it is given. -/
def strictness (operation : Operation) (target : Target) : Except Blemish Bool :=
  match operation.flag? with
  | none => .ok false
  | some name =>
    match target.value? name with
    | none => .ok false
    | some text =>
      match flagOfText? text with
      | some flag => .ok flag
      | none => .error ⟨.noFlag, [.str "query", .str name]⟩

/-- The library that an operation works on, opened for it alone. -/
def libraryFor (settings : Settings) (operation : Operation) : Except Fault Library :=
  if operation.needsLibrary then settings.library else .ok ⟨none, none, none⟩

/-- Answers a request for an operation, once its body is read. -/
def answerOperation (settings : Settings) (operation : Operation) (target : Target)
    (body : Option Json) : Run World Answered := do
  let library ← Run.ofExcept (libraryFor settings operation)
  let blemishes :=
    match operation.form? with
    | some form => form.blemishes body
    | none => []
  match strictness operation target with
  | .error blemish => return ⟨422, .blemishes (blemish :: blemishes)⟩
  | .ok strict =>
    if blemishes.isEmpty then perform settings library operation (body.getD .null) strict
    else return ⟨422, .blemishes blemishes⟩

/-- Answers a request; a fault may be left over. -/
def respond (settings : Settings) (request : Request) : Run World Answered := do
  Library.newSession
  let target := Target.ofText request.target
  match Resource.find? target.path with
  | none => return Answered.detail 404 (.str "Not Found")
  | some resource =>
    match resource.operation? request.method.toUpper with
    | none => return Answered.detail 405 (.str "Method Not Allowed")
    | some operation =>
      if operation.form?.isNone then answerOperation settings operation target none
      else
        match readBody request.body with
        | .absent => answerOperation settings operation target none
        | .value value => answerOperation settings operation target (some value)
        | .unusable answer => return answer

/-- Answers a request. A fault that is left over fails the request. -/
def answer (settings : Settings) (request : Request) (world : World) : Answered × World :=
  match (respond settings request).outcome world with
  | (.ok answer, after) => (answer, after)
  | (.error _, after) => (.failure, after)

end Service

end MarketSignal
