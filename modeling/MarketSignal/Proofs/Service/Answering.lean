/-
This file takes the answering of requests apart. A request whose target and method ask for an
operation is answered by carrying the operation out on a library opened for it alone, if its body
can be read and has no blemishes and its query is in order. Otherwise it is refused before anything
is done. A fault that the operation leaves over fails the request, and what was done before it stays
done.
-/
import MarketSignal.Proofs.Json.Limit
import MarketSignal.Proofs.Run
import MarketSignal.Service.Answering

namespace MarketSignal

/-- The world at the start of a session. -/
def World.reopened (world : World) : World := { world with session := Table.empty }

namespace Request

/-- The operation that a request asks for. -/
def operation? (request : Request) : Option Operation :=
  (Resource.find? (Target.ofText request.target).path).bind fun resource =>
    resource.operation? request.method.toUpper

/-- The body of a request as far as an operation looks at it. -/
def bodyFor (request : Request) (operation : Operation) : Service.Body :=
  if operation.form?.isNone then .absent else Service.readBody request.body

theorem operation?_eq {request : Request} {resource : Resource} {operation : Operation}
    (isResource : Resource.find? (Target.ofText request.target).path = some resource)
    (isOperation : resource.operation? request.method.toUpper = some operation) :
    request.operation? = some operation := by
  rw [operation?, isResource]
  exact isOperation

end Request

namespace Service

/-- What a usable body gives an operation to work with. -/
inductive Body.Gives : Body → Option Json → Prop where
  | absent : Gives .absent none
  | value (value : Json) : Gives (.value value) (some value)

/-- The blemishes of what a body gives, if the operation has a form for it. -/
def blemishesOf (operation : Operation) (given : Option Json) : List Blemish :=
  match operation.form? with
  | some form => form.blemishes given
  | none => []

/-- The answer that work comes to. A fault that is left over fails the request. -/
def settled : Except Fault Answered × World → Answered × World
  | (.ok answer, after) => (answer, after)
  | (.error _, after) => (.failure, after)

theorem settled_world (outcome : Except Fault Answered × World) :
    (settled outcome).2 = outcome.2 := by
  obtain ⟨fault | answered, after⟩ := outcome <;> rfl

theorem answer_eq (settings : Settings) (request : Request) (world : World) :
    answer settings request world = settled ((respond settings request).outcome world) := by
  unfold answer
  obtain ⟨fault | answered, after⟩ := (respond settings request).outcome world <;> rfl

section

variable (settings : Settings) (request : Request) (operation : Operation)

/-- All that is needed for an operation to be carried out. -/
structure Ready (library : Library) (given : Option Json) (strict : Bool) : Prop where
  asks : request.operation? = some operation
  opens : libraryFor settings operation = .ok library
  gives : (request.bodyFor operation).Gives given
  fits : blemishesOf operation given = []
  strict : strictness operation (Target.ofText request.target) = .ok strict

theorem respond_eq (asks : request.operation? = some operation) :
    respond settings request = (do
      Library.newSession
      match request.bodyFor operation with
      | .absent => answerOperation settings operation (Target.ofText request.target) none
      | .value value =>
        answerOperation settings operation (Target.ofText request.target) (some value)
      | .unusable answer => return answer) := by
  obtain ⟨resource, isResource, isOperation⟩ := Option.bind_eq_some_iff.mp asks
  unfold respond Request.bodyFor
  dsimp only
  rw [isResource]
  dsimp only
  rw [isOperation]
  dsimp only
  cases operation.form?.isNone <;> rfl

theorem answerOperation_eq (target : Target) (given : Option Json) :
    answerOperation settings operation target given =
      Run.ofExcept (libraryFor settings operation) >>= fun library =>
        match strictness operation target with
        | .error blemish => return ⟨422, .blemishes (blemish :: blemishesOf operation given)⟩
        | .ok strict =>
          if (blemishesOf operation given).isEmpty then
            perform settings library operation (given.getD .null) strict
          else return ⟨422, .blemishes (blemishesOf operation given)⟩ := rfl

/-- A body that gives something to work with is passed on to the operation. -/
theorem respond_given (asks : request.operation? = some operation) {given : Option Json}
    (gives : (request.bodyFor operation).Gives given) :
    respond settings request = Library.newSession >>= fun _ =>
      answerOperation settings operation (Target.ofText request.target) given := by
  rw [respond_eq settings request operation asks]
  cases isBody : request.bodyFor operation with
  | absent =>
    rw [isBody] at gives
    cases gives
    rfl
  | value value =>
    rw [isBody] at gives
    cases gives
    rfl
  | unusable answer =>
    rw [isBody] at gives
    cases gives

/-- A request that has all that is needed is answered by carrying the operation out. -/
theorem answer_ready {library : Library} {given : Option Json} {strict : Bool}
    (ready : Ready settings request operation library given strict) (world : World) :
    answer settings request world =
      settled ((perform settings library operation (given.getD .null) strict).outcome
        world.reopened) := by
  rw [answer_eq, respond_given settings request operation ready.asks ready.gives,
    answerOperation_eq, ready.opens, ready.strict, ready.fits]
  rfl

/-- The value in a body has no number that is too long and no name twice. -/
theorem faithful_of_readBody {text : Option String} {value : Json}
    (isValue : readBody text = .value value) : value.Faithful := by
  unfold readBody at isValue
  split at isValue
  · cases isValue
  · cases isValue
  · split at isValue
    case h_1 isRead =>
      cases isValue
      exact Json.faithful_of_readCharacters isRead
    case h_2 => cases isValue
    case h_3 => cases isValue

/-- A text that does not start with a byte order mark. -/
def Unmarked (text : String) : Prop := ∀ first ∈ text.toList.head?, first.toNat ≠ 0xFEFF

theorem unmarked_of_read {text : String} {value : Json} (isRead : Json.read text = .ok value) :
    Unmarked text := by
  intro first isFirst marked
  obtain ⟨rest, isText⟩ := List.head?_eq_some_iff.mp isFirst
  rw [Json.read, isText, Json.readCharacters, if_pos marked] at isRead
  cases isRead

/-- The value in a body that is not marked is the value of its text. -/
theorem readBody_eq_value_iff {text : String} (unmarked : Unmarked text) (value : Json) :
    readBody (some text) = .value value ↔ Json.read text = .ok value := by
  unfold readBody
  rw [Option.map_some, Json.read]
  unfold Unmarked at unmarked
  revert unmarked
  cases text.toList with
  | nil => exact fun _ => ⟨nofun, nofun⟩
  | cons first rest =>
    intro unmarked
    dsimp only
    rw [if_neg (unmarked first rfl)]
    cases Json.readCharacters (some digitLimit) (first :: rest) with
    | ok found =>
      exact ⟨fun same => Body.value.inj same ▸ rfl, fun same => Except.ok.inj same ▸ rfl⟩
    | error misread => cases misread <;> exact ⟨nofun, nofun⟩

/-- The text of a value is a body with that value. -/
theorem readBody_of_read {text : String} {value : Json} (isRead : Json.read text = .ok value) :
    readBody (some text) = .value value :=
  (readBody_eq_value_iff (unmarked_of_read isRead) value).mpr isRead

/-- A body that is no use is answered by a refusal. -/
theorem status_of_unusable {text : Option String} {answer : Answered}
    (unusable : readBody text = .unusable answer) : answer.status ≠ 200 := by
  unfold readBody at unusable
  split at unusable
  · cases unusable
  · cases unusable
  · split at unusable
    · cases unusable
    · cases unusable
      exact show 422 ≠ 200 by decide
    · cases unusable
      exact show 400 ≠ 200 by decide

/-- A request for an operation that lacks something is refused before anything is done. -/
theorem answer_unready (asks : request.operation? = some operation)
    (unready : ∀ library given strict,
      ¬ Ready settings request operation library given strict) (world : World) :
    (answer settings request world).1.status ≠ 200 ∧
      (answer settings request world).2 = world.reopened := by
  have failed : 500 ≠ 200 := by decide
  have blemished : 422 ≠ 200 := by decide
  by_cases usable : ∃ given, (request.bodyFor operation).Gives given
  · obtain ⟨given, gives⟩ := usable
    rw [answer_eq, respond_given settings request operation asks gives, answerOperation_eq]
    cases opens : libraryFor settings operation with
    | error fault => exact ⟨failed, rfl⟩
    | ok library =>
      cases strict : strictness operation (Target.ofText request.target) with
      | error blemish => exact ⟨blemished, rfl⟩
      | ok flag =>
        cases fits : blemishesOf operation given with
        | nil => exact absurd ⟨asks, opens, gives, fits, strict⟩ (unready library given flag)
        | cons blemish rest => exact ⟨blemished, rfl⟩
  · cases isBody : request.bodyFor operation with
    | absent => exact absurd ⟨none, isBody ▸ .absent⟩ usable
    | value value => exact absurd ⟨some value, isBody ▸ .value value⟩ usable
    | unusable refusal =>
      have notSuccess : refusal.status ≠ 200 := by
        unfold Request.bodyFor at isBody
        split at isBody
        · cases isBody
        · exact status_of_unusable isBody
      rw [answer_eq, respond_eq settings request operation asks, isBody]
      exact ⟨notSuccess, rfl⟩

end

end Service

end MarketSignal
