/-
This file says on what it depends whether a store takes a record: on what is kept and on which calls
fail, but not on the calls that were made before, nor on anything outside the stores. Reading
changes none of that.
-/
import MarketSignal.Proofs.Storage.Holding

namespace MarketSignal

/-! ### Buckets -/

namespace Bucket

/-- The bucket after other calls. -/
def withCalls (bucket : Bucket) (calls : List (BlobCall × String × Bool)) : Bucket :=
  { bucket with calls := calls }

section

variable {kept : Bucket → Prop}
  (spares : ∀ bucket calls, kept bucket → kept (bucket.withCalls calls))

include spares

theorem keeps_perform (call : BlobCall) (name : String) (refusal : Fault) :
    (perform call name refusal).Keeps kept := by
  intro bucket holds
  let succeeds := bucket.failing != some call
  let after := bucket.withCalls (bucket.calls ++ [(call, name, succeeds)])
  have steps : (perform call name refusal).outcome bucket =
      (if !succeeds then throw refusal else pure () : Run Bucket Unit).outcome after := rfl
  rw [steps]
  cases succeeds <;> exact spares bucket _ holds

omit spares in
theorem keeps_connect : connect.Keeps kept := by
  refine Run.keeps_bind Run.keeps_get fun bucket => ?_
  cases bucket.installed
  · exact Run.keeps_throw _
  · exact Run.keeps_pure _

/-- Reading a record leaves a trace in the calls and nowhere else. -/
theorem keeps_readRecord (name stem key : String) : (readRecord name stem key).Keeps kept := by
  refine Run.keeps_bind keeps_connect fun _ => Run.keeps_bind (keeps_perform spares _ _ _) fun _ =>
    Run.keeps_bind Run.keeps_get fun bucket => ?_
  split
  · refine Run.keeps_bind (keeps_perform spares _ _ _) fun _ =>
      Run.keeps_bind Run.keeps_get fun bucket => ?_
    split
    · exact Run.keeps_ofExcept _
    · exact Run.keeps_pure _
  · exact Run.keeps_pure _

end

/-- Whether a record is taken does not depend on the calls before. -/
theorem writeRecord_withCalls (name stem key : String) (value : Json) (bucket : Bucket)
    (calls : List (BlobCall × String × Bool)) :
    ((writeRecord name stem key value).outcome (bucket.withCalls calls)).1 =
      ((writeRecord name stem key value).outcome bucket).1 := by
  obtain ⟨installed, blobs, before, failing⟩ := bucket
  unfold writeRecord
  cases installed with
  | false => rfl
  | true =>
    cases recordBytes value with
    | error fault => rfl
    | ok bytes => obtain _ | ⟨_ | _ | _⟩ := failing <;> rfl

end Bucket

/-! ### Databases -/

namespace Database

/-- The database after other statements. -/
def withStatements (database : Database) (statements : List Statement) : Database :=
  { database with statements := statements }

section

variable {kept : Database → Prop}
  (spares : ∀ database statements, kept database → kept (database.withStatements statements))

include spares

theorem keeps_tell (statement : Statement) : (tell statement).Keeps kept :=
  fun database holds => spares database _ holds

theorem keeps_say (statement : Statement) (kind : Option StatementKind) (refusal : Fault) :
    (say statement kind refusal).Keeps kept := by
  intro database holds
  let after := database.withStatements (database.statements ++ [statement])
  have steps : (say statement kind refusal).outcome database =
      (if kind.isSome && database.failing == kind then throw refusal else pure () :
        Run Database Unit).outcome after := rfl
  rw [steps]
  cases kind.isSome && database.failing == kind <;> exact spares database _ holds

theorem keeps_session {Result : Type} (url table : String) (refusal : Fault)
    (work : Run Database Result) (keeps : work.Keeps kept) :
    (session url table refusal work).Keeps kept := by
  refine Run.keeps_bind Run.keeps_get fun database => ?_
  cases database.installed with
  | false => exact fun _ holds => holds
  | true =>
    refine Run.keeps_bind (keeps_say spares _ _ _) fun _ => Run.keeps_bind ?_ fun _ =>
      Run.keeps_bind (keeps_tell spares _) fun _ => Run.keeps_pure _
    refine Run.keeps_tryCatch ?_ fun fault =>
      Run.keeps_bind (keeps_tell spares _) fun _ => Run.keeps_throw _
    exact Run.keeps_bind (keeps_say spares _ _ _) fun _ =>
      Run.keeps_bind (keeps_tell spares _) fun _ => keeps

/-- Reading a record leaves a trace in the statements and nowhere else. -/
theorem keeps_readRecord (url table key : String) : (readRecord url table key).Keeps kept :=
  keeps_session spares _ _ _ _ (Run.keeps_bind (keeps_say spares _ _ _) fun _ =>
    Run.keeps_bind Run.keeps_get fun _ => Run.keeps_pure _)

end

/-- Whether a record is taken does not depend on the statements before. -/
theorem writeRecord_withStatements (url table key : String) (value : Json) (database : Database)
    (statements : List Statement) :
    ((writeRecord url table key value).outcome (database.withStatements statements)).1 =
      ((writeRecord url table key value).outcome database).1 := by
  obtain ⟨installed, rows, before, failing⟩ := database
  unfold writeRecord
  cases installed with
  | false => rfl
  | true => cases value.hasLongNumber <;> obtain _ | ⟨_ | _ | _ | _⟩ := failing <;> rfl

end Database

/-! ### All stores -/

/-- Two worlds with the same stores, apart from the calls made so far. -/
structure SameMedia (before after : World) : Prop where
  memory : after.memory = before.memory
  disk : after.disk = before.disk
  bucket : ∃ calls, after.bucket = before.bucket.withCalls calls
  database : ∃ statements, after.database = before.database.withStatements statements

namespace SameMedia

theorem refl (world : World) : SameMedia world world := ⟨rfl, rfl, ⟨_, rfl⟩, ⟨_, rfl⟩⟩

theorem trans {first second third : World} (left : SameMedia first second)
    (right : SameMedia second third) : SameMedia first third := by
  obtain ⟨calls, sameBucket⟩ := left.bucket
  obtain ⟨laterCalls, laterBucket⟩ := right.bucket
  obtain ⟨statements, sameDatabase⟩ := left.database
  obtain ⟨laterStatements, laterDatabase⟩ := right.database
  refine ⟨right.memory.trans left.memory, right.disk.trans left.disk, ⟨laterCalls, ?_⟩,
    ⟨laterStatements, ?_⟩⟩
  · rw [laterBucket, sameBucket]
    rfl
  · rw [laterDatabase, sameDatabase]
    rfl

/-- The journal is none of the stores. -/
theorem withJournal (world : World) (journal : Journal) :
    SameMedia world { world with journal := journal } := ⟨rfl, rfl, ⟨_, rfl⟩, ⟨_, rfl⟩⟩

theorem sameRecords {before after : World} (same : SameMedia before after) :
    RecordStore.SameRecords before after := by
  obtain ⟨calls, sameBucket⟩ := same.bucket
  obtain ⟨statements, sameDatabase⟩ := same.database
  refine ⟨congrArg Memory.records same.memory, congrArg Disk.nodes same.disk, ?_, ?_⟩
  · rw [sameBucket]
    rfl
  · rw [sameDatabase]
    rfl

/-- Reading leaves the stores alone. -/
theorem keeps_read (before : World) (store : RecordStore) (key : String) :
    (store.read key).Keeps (SameMedia before) := by
  intro world same
  cases store with
  | memory =>
    have unchanged : (Memory.read key).Keeps fun memory => memory = before.memory := by
      refine Run.keeps_bind Run.keeps_get fun memory => ?_
      cases memory.refusesReads
      · exact Run.keeps_pure _
      · exact Run.keeps_bind (Run.keeps_throw _) fun _ => Run.keeps_pure _
    exact ⟨unchanged world.memory same.memory, same.disk, same.bucket, same.database⟩
  | folder root =>
    have unchanged : (Disk.readRecord root key).Keeps fun disk => disk = before.disk :=
      Disk.keeps_readRecord root key
    rw [RecordStore.read, World.onDisk, Run.outcome_within]
    exact ⟨same.memory, unchanged world.disk same.disk, same.bucket, same.database⟩
  | bucket name stem =>
    have unchanged : (Bucket.readRecord name stem key).Keeps fun bucket =>
        ∃ calls, bucket = before.bucket.withCalls calls := by
      refine Bucket.keeps_readRecord ?_ name stem key
      rintro bucket calls ⟨earlier, rfl⟩
      exact ⟨calls, rfl⟩
    exact ⟨same.memory, same.disk, unchanged world.bucket same.bucket, same.database⟩
  | database url table =>
    have unchanged : (Database.readRecord url table key).Keeps fun database =>
        ∃ statements, database = before.database.withStatements statements := by
      refine Database.keeps_readRecord ?_ url table key
      rintro database statements ⟨earlier, rfl⟩
      exact ⟨statements, rfl⟩
    exact ⟨same.memory, same.disk, same.bucket, unchanged world.database same.database⟩

/-- Whether a store takes a record does not depend on the calls before. -/
theorem write_eq {before after : World} (same : SameMedia before after) (store : RecordStore)
    (key : String) (value : Json) :
    ((store.write key value).outcome after).1 = ((store.write key value).outcome before).1 := by
  cases store with
  | memory => exact congrArg (fun memory => ((Memory.write key value).outcome memory).1) same.memory
  | folder root =>
    rw [RecordStore.write, World.onDisk, Run.outcome_within, Run.outcome_within, same.disk]
  | bucket name stem =>
    obtain ⟨calls, sameBucket⟩ := same.bucket
    show ((Bucket.writeRecord name stem key value).outcome after.bucket).1 = _
    rw [sameBucket]
    exact Bucket.writeRecord_withCalls name stem key value before.bucket calls
  | database url table =>
    obtain ⟨statements, sameDatabase⟩ := same.database
    show ((Database.writeRecord url table key value).outcome after.database).1 = _
    rw [sameDatabase]
    exact Database.writeRecord_withStatements url table key value before.database statements

end SameMedia

end MarketSignal
