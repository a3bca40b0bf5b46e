/-
This file proves that a saved book lasts. A history is any sequence of operations of a library and
of things that happen around it: the record store starts or stops failing, the seed supplies
something else, the exchange answers differently, another library takes over the same store. The
history remembers the book of the last save that returned. The invariant is that the store holds
that book; one step preserves it, whatever the step is, so every history does.
-/
import MarketSignal.Proofs.Storage.Library

namespace MarketSignal

/-- What of the record stores fails, and which clients are there. -/
structure Failures where
  memoryReads : Bool
  memoryWrites : Bool
  disk : Option DiskCall
  bucketInstalled : Bool
  bucket : Option BlobCall
  databaseInstalled : Bool
  database : Option StatementKind

/-- The world with other failures. -/
def World.withFailures (world : World) (failures : Failures) : World :=
  { world with
    memory := { world.memory with
      refusesReads := failures.memoryReads, refusesWrites := failures.memoryWrites }
    disk := { world.disk with failing := failures.disk }
    bucket := { world.bucket with
      installed := failures.bucketInstalled, failing := failures.bucket }
    database := { world.database with
      installed := failures.databaseInstalled, failing := failures.database } }

namespace Library

open RecordStore

/-! ### Histories -/

/-- A step of a history. -/
inductive Event where
  | load
  | save (book : Book)
  | assignments
  | saveAssignments (assignments : Json)
  | assign (market : String) (id : Json)
  | unassign (market : String)
  /-- Reads and writes of the record store start or stop failing. -/
  | disturb (failures : Failures)
  /-- The seed supplies something else, or nothing, from now on. -/
  | reseed (seed : Option Seed)
  /-- The exchange gives other answers from now on. -/
  | answer (script : List Reply)
  /-- Another library takes over the record store. -/
  | replace (seed : Option Seed) (outbox : Option Outbox)

/-- Where a history has got to: the world, the library over its record store, and the book of the
last save that returned. -/
structure History where
  world : World
  seed : Option Seed
  outbox : Option Outbox
  saved : Option Book

namespace History

/-- The library at this point. -/
def library (store : RecordStore) (history : History) : Library :=
  ⟨some store, history.seed, history.outbox⟩

/-- A history after an operation that saves no book. -/
def operated {Result : Type} (history : History) (operation : Run World Result) : History :=
  { history with world := (operation.outcome history.world).2 }

/-- A history after one more step. -/
def after (store : RecordStore) (history : History) : Event → History
  | .load => history.operated (history.library store).load
  | .save book =>
    match ((history.library store).save book).outcome history.world with
    | (.ok (), world) => { history with world := world, saved := some book }
    | (.error _, world) => { history with world := world }
  | .assignments => history.operated (history.library store).assignments
  | .saveAssignments assignments =>
    history.operated ((history.library store).saveAssignments assignments)
  | .assign market id => history.operated ((history.library store).assign market id)
  | .unassign market => history.operated ((history.library store).unassign market)
  | .disturb failures => { history with world := history.world.withFailures failures }
  | .reseed seed => { history with seed := seed }
  | .answer script =>
    { history with
      world := { history.world with exchange := { history.world.exchange with script := script } } }
  | .replace seed outbox =>
    { history.operated newSession with seed := seed, outbox := outbox }

/-- A history after a sequence of steps. -/
def run (store : RecordStore) (history : History) (events : List Event) : History :=
  events.foldl (after store) history

/-- The store holds the book of the last save that returned. -/
def Sound (store : RecordStore) (history : History) : Prop :=
  ∀ book, history.saved = some book → Book.Typed book →
    store.Holds bookKey (Book.toJson book) history.world

/-! ### One step -/

theorem sound_operated {Result : Type} (store : RecordStore) (history : History)
    (sound : history.Sound store) (operation : Run World Result)
    (keeps : ∀ book, Book.Typed book →
      operation.Keeps (store.Holds bookKey (Book.toJson book))) :
    (history.operated operation).Sound store :=
  fun book saved typed => keeps book typed _ (sound book saved typed)

/-- A change of the world that leaves the records alone. -/
theorem sound_of_sameRecords (store : RecordStore) (history changed : History)
    (sound : history.Sound store) (sameSaved : changed.saved = history.saved)
    (same : SameRecords history.world changed.world) : changed.Sound store :=
  fun book saved typed => (sound book (sameSaved ▸ saved) typed).of_sameRecords same

theorem sound_save (store : RecordStore) (history : History) (sound : history.Sound store)
    (book : Book) : (history.after store (.save book)).Sound store := by
  obtain ⟨succeeding, failing⟩ :=
    holds_of_save (history.library store) store rfl book history.world
  rw [after]
  revert succeeding failing
  obtain ⟨fault | _, world⟩ := ((history.library store).save book).outcome history.world
  · intro _ failing before saved typed
    exact failing _ nofun (sound before saved typed)
  · intro succeeding _ last saved typed
    cases saved
    exact succeeding rfl typed.textual

/-- Whatever happens next, the store holds the book of the last save that returned. -/
theorem sound_after (store : RecordStore) (history : History) (sound : history.Sound store)
    (event : Event) : (history.after store event).Sound store := by
  cases event with
  | load =>
    exact sound_operated store history sound _ fun book typed =>
      keeps_load (history.library store) store rfl book typed.textual
  | save book => exact sound_save store history sound book
  | assignments =>
    exact sound_operated store history sound _ fun book _ =>
      keeps_assignments (history.library store) store rfl _
  | saveAssignments assignments =>
    exact sound_operated store history sound _ fun book _ =>
      keeps_saveAssignments (history.library store) store rfl _ assignments
  | assign market id =>
    exact sound_operated store history sound _ fun book _ =>
      keeps_assign (history.library store) store rfl _ market id
  | unassign market =>
    exact sound_operated store history sound _ fun book _ =>
      keeps_unassign (history.library store) store rfl _ market
  | disturb failures => exact sound_of_sameRecords store history _ sound rfl ⟨rfl, rfl, rfl, rfl⟩
  | reseed seed => exact sound
  | answer script => exact sound_of_sameRecords store history _ sound rfl ⟨rfl, rfl, rfl, rfl⟩
  | replace seed outbox =>
    exact sound_of_sameRecords store history _ sound rfl ⟨rfl, rfl, rfl, rfl⟩

/-! ### Whole histories -/

theorem sound_run (store : RecordStore) (history : History) (sound : history.Sound store)
    (events : List Event) : (history.run store events).Sound store := by
  induction events generalizing history with
  | nil => exact sound
  | cons event rest inductionHypothesis =>
    exact inductionHypothesis _ (sound_after store history sound event)

/-- Once a book that a document can be read as is saved, and until another save returns, every load
that can read the record answers that book. -/
theorem load_eq_saved (store : RecordStore) (start history : History) (events : List Event)
    (nothingSaved : start.saved = none) (reached : start.run store events = history)
    (document record : Json) (book : Book) (isRead : Book.ofDocument document = .ok book)
    (isSaved : history.saved = some book)
    (readable : ((store.read bookKey).outcome history.world).1 = .ok record) :
    ((history.library store).load.outcome history.world).1 = .ok book := by
  have typed := Book.typed_of_ofDocument document book isRead
  have soundStart : start.Sound store := by
    intro earlier saved
    rw [nothingSaved] at saved
    cases saved
  have holds : store.Holds bookKey (Book.toJson book) history.world :=
    (reached ▸ sound_run store start soundStart events) book isSaved typed
  exact load_of_holds (history.library store) store rfl book typed history.world holds record
    readable

/-- The default book is saved in memory; a load while reading fails, a failed save of the empty book
and another seed do not replace it. -/
theorem load_eq_saved_inMemory :
    let working : Failures := ⟨false, false, none, true, none, true, none⟩
    let failing : Failures := ⟨true, true, none, true, none, true, none⟩
    let history := (⟨World.fresh, none, none, none⟩ : History).run .memory
      [.save defaultBook, .disturb failing, .load, .save Table.empty,
        .reseed (some (.given (.ok .null))), .disturb working]
    ((history.library .memory).load.outcome history.world).1 = .ok defaultBook :=
  load_eq_saved .memory _ _ _ rfl rfl (documentOf (Book.toJson defaultBook))
    (Book.toJson defaultBook) defaultBook rfl rfl rfl

end History

end Library

end MarketSignal
