/-
This file proves what a request changes that asks to put the scenarios, or to put or change the
assignments. It writes the record it is about once at most, and answers with success only if that is
done. So a refused request changes no record, and a request that succeeds changes no other.

In a folder a record is what is found on the way that the settings name, and the request makes the
folders that are missing on this way. Where the way leads straight down from what is missing,
records read as they did. Where it comes back up, making the folders opens it, and records come to
light that could not be reached before.
-/
import MarketSignal.Proofs.Service.Answering
import MarketSignal.Proofs.Storage.Writing

namespace MarketSignal

/-- The record that an operation is asked to replace. -/
def Operation.record? : Operation → Option String
  | .writeBook => some bookKey
  | .writeAssignments => some assignmentsKey
  | .assign _ => some assignmentsKey
  | .unassign _ => some assignmentsKey
  | _ => none

theorem Operation.plain_record {operation : Operation} {key : String}
    (writes : operation.record? = some key) : PlainKey key := by
  cases operation
  case writeBook =>
    cases writes
    exact plainKey_bookKey
  case writeAssignments | assign | unassign =>
    cases writes
    exact plainKey_assignmentsKey
  all_goals cases writes

namespace Service

open RecordStore

/-! ### Operations that write -/

/-- Work on a library that writes a record is answered with success only if the record is
written. -/
theorem written_answering {store : RecordStore} {key : String} {Result : Type}
    {work : Run World Result} (writes : store.Writes key work) (status : Nat)
    (kind : Fault → Bool) (answer : Result → Answered)
    (success : ∀ result, (answer result).status = 200) (world : World) :
    let outcome :=
      (answering status kind (work >>= fun result => pure (answer result))).outcome world
    store.Written key ((settled outcome).1.status ≠ 200) world outcome.2 := by
  have written := writes world
  dsimp only
  rw [answering, Run.outcome_tryCatch, Run.outcome_bind]
  revert written
  obtain ⟨fault | result, after⟩ := work.outcome world
  · intro written
    dsimp only [Run.continued, Run.handled]
    cases kind fault <;> exact written.mono fun _ => ⟨fault, rfl⟩
  · exact fun written => written.mono fun refused => absurd (success result) refused

section

variable (library : Library) (store : RecordStore) (isPrimary : library.primary = some store)

include isPrimary

theorem written_writeBook (body : Json) (strict : Bool) (world : World) :
    let outcome := (writeBook library body strict).outcome world
    store.Written bookKey ((settled outcome).1.status ≠ 200) world outcome.2 := by
  dsimp only
  unfold writeBook
  cases bookOf body with
  | error fault =>
    dsimp only
    split <;> exact .untouched (.refl world)
  | ok book =>
    dsimp only
    rw [Run.outcome_bind, Run.outcome_ofExcept]
    cases book.issues with
    | error fault => exact .untouched (.refl world)
    | ok issues =>
      dsimp only [Run.continued]
      split
      · exact .untouched (.refl world)
      · exact written_answering (library.writes_save store isPrimary book) 502 Fault.isStorage
          (fun _ => saved book [("issues", .arr (issues.map .str))]) (fun _ => rfl) world

/-- An operation writes its record once at most, and not at all if it does not succeed. -/
theorem written_perform (settings : Settings) {operation : Operation} {key : String}
    (writes : operation.record? = some key) (body : Json) (strict : Bool) (world : World) :
    let outcome := (perform settings library operation body strict).outcome world
    store.Written key ((settled outcome).1.status ≠ 200) world outcome.2 := by
  cases operation
  case writeBook =>
    cases writes
    exact written_writeBook library store isPrimary body strict world
  case writeAssignments =>
    cases writes
    exact written_answering (library.writes_saveAssignments store isPrimary _) 502 Fault.isStorage
      (fun _ => .success (body.member "assignments")) (fun _ => rfl) world
  case assign market =>
    cases writes
    exact written_answering (library.writes_assign store isPrimary market _) 502
      (fun fault => fault.isStorage || fault.isFormat)
      (fun changed => .success (.obj changed.entries)) (fun _ => rfl) world
  case unassign market =>
    cases writes
    exact written_answering (library.writes_unassign store isPrimary market) 502
      (fun fault => fault.isStorage || fault.isFormat)
      (fun changed => .success (.obj changed.entries)) (fun _ => rfl) world
  all_goals cases writes

end

/-! ### Requests that write -/

section

variable {settings : Settings} {request : Request} {operation : Operation} {key : String}
  (isFolder : settings.store = .folder) (asks : request.operation? = some operation)
  (writes : operation.record? = some key)

include isFolder asks writes

/-- A request writes the record of its operation once at most, and not at all if it is refused. -/
theorem written_answer (world : World) :
    (RecordStore.folder settings.dataPath).Written key
      ((answer settings request world).1.status ≠ 200) world (answer settings request world).2 := by
  have reopens : SameMedia world world.reopened := ⟨rfl, rfl, ⟨_, rfl⟩, ⟨_, rfl⟩⟩
  by_cases isReady : ∃ library given strict, Ready settings request operation library given strict
  · obtain ⟨library, given, strict, ready⟩ := isReady
    have isPrimary : library.primary = some (.folder settings.dataPath) := by
      have needed : operation.needsLibrary = true := by
        cases operation
        case receive => cases writes
        all_goals rfl
      have opens := ready.opens
      rw [libraryFor, if_pos needed, Settings.library, Settings.recordStore, isFolder] at opens
      cases opens
      rfl
    rw [answer_ready settings request operation ready, settled_world]
    exact (written_perform library _ isPrimary settings writes (given.getD .null) strict
      world.reopened).between reopens (.refl _)
  · obtain ⟨-, unchanged⟩ := answer_unready settings request operation asks
      (fun library given strict ready => isReady ⟨library, given, strict, ready⟩) world
    rw [unchanged]
    exact .untouched reopens

end

/-- The assignment of a scenario to one market. -/
def oneAssignment : Json := .obj [("gold", .str "s")]

/-- A folder with an assignment and, where the scenarios would be, another folder. -/
def litteredDisk : Disk :=
  ⟨Table.ofEntries (Disk.fresh.nodes.entries ++
    [("work/data", .folder), ("work/data/marketAssignments.json", .file oneAssignment.page.toUTF8),
      ("work/data/tradingScenarios.json", .folder)]), none⟩

end Service

end MarketSignal
