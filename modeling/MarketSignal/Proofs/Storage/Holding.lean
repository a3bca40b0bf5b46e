/-
This file proves of all record stores alike what the library relies on. A store holds a value under
a key if the key is answered with the value whenever it is answered at all. Storing the value makes
a store hold it; a failed attempt to store another value, reading, and whatever happens outside the
store leave it in place.
-/
import MarketSignal.Proofs.Storage.RecordStore

namespace MarketSignal

namespace RecordStore

/-- What is kept for a key stands for the value. -/
def Holds (store : RecordStore) (key : String) (value : Json) (world : World) : Prop :=
  match store with
  | .memory => world.memory.records.get? key = some value
  | .folder root => ∃ location bytes, world.disk.locate (recordPath root key) = .ok location ∧
      world.disk.node? location = some (.file bytes) ∧ recordOfBytes key bytes = .ok value
  | .bucket name stem => ∃ bytes,
      world.bucket.blobs.get? (Bucket.blobName name stem key) = some bytes ∧
        recordOfBytes key bytes = .ok value
  | .database _ _ => world.database.rows.get? key = some value

/-! ### What does not concern the store -/

/-- Records, files, blobs and rows are the same. -/
structure SameRecords (before after : World) : Prop where
  records : after.memory.records = before.memory.records
  nodes : after.disk.nodes = before.disk.nodes
  blobs : after.bucket.blobs = before.bucket.blobs
  rows : after.database.rows = before.database.rows

theorem Holds.of_sameRecords {store : RecordStore} {key : String} {value : Json}
    {before after : World} (holds : store.Holds key value before)
    (same : SameRecords before after) : store.Holds key value after := by
  cases store with
  | memory =>
    show after.memory.records.get? key = some value
    rw [same.records]
    exact holds
  | folder root =>
    obtain ⟨location, bytes, located, here, stands⟩ := holds
    have sameNode (place : Location) : after.disk.node? place = before.disk.node? place := by
      cases place with
      | nil => rfl
      | cons step rest =>
        show after.disk.nodes.get? _ = before.disk.nodes.get? _
        rw [same.nodes]
    have keeps : before.disk.KeepsFolders after.disk := fun place isFolder => by
      rw [sameNode]
      exact isFolder
    refine ⟨location, bytes, Disk.locate_of_keepsFolders _ _ keeps _ _ located, ?_, stands⟩
    rw [sameNode]
    exact here
  | bucket name stem =>
    show ∃ bytes, after.bucket.blobs.get? _ = some bytes ∧ _
    rw [same.blobs]
    exact holds
  | database url table =>
    show after.database.rows.get? key = some value
    rw [same.rows]
    exact holds

/-- Work that does not concern the records keeps what a store holds. -/
theorem keeps_of_sameRecords {Result : Type} (store : RecordStore) (key : String) (value : Json)
    (work : Run World Result) (same : ∀ world, SameRecords world (work.outcome world).2) :
    work.Keeps (store.Holds key value) :=
  fun world holds => holds.of_sameRecords (same world)

/-! ### Reading -/

/-- Reading leaves everything that is kept alone. -/
theorem sameRecords_read (store : RecordStore) (key : String) (world : World) :
    SameRecords world ((store.read key).outcome world).2 := by
  cases store with
  | memory =>
    have same : ((Memory.read key).outcome world.memory).2 = world.memory := by
      unfold Memory.read
      rw [Run.outcome_bind, Run.outcome_get, Run.continued]
      cases world.memory.refusesReads <;> rfl
    exact ⟨congrArg Memory.records same, rfl, rfl, rfl⟩
  | folder root =>
    have same : (Disk.readRecord root key).Keeps fun disk => disk = world.disk :=
      Disk.keeps_readRecord root key
    rw [read, World.onDisk, Run.outcome_within]
    exact ⟨rfl, congrArg Disk.nodes (same world.disk rfl), rfl, rfl⟩
  | bucket name stem =>
    obtain ⟨after, same, ⟨text, fails⟩ | succeeds⟩ :=
      Bucket.outcome_readRecord name stem key world.bucket
    · exact ⟨rfl, rfl, (congrArg (fun pair => pair.2.blobs) fails).trans same, rfl⟩
    · exact ⟨rfl, rfl, (congrArg (fun pair => pair.2.blobs) succeeds).trans same, rfl⟩
  | database url table =>
    obtain ⟨after, same, ⟨text, fails⟩ | succeeds⟩ :=
      Database.outcome_readRecord url table key world.database
    · exact ⟨rfl, rfl, rfl, (congrArg (fun pair => pair.2.rows) fails).trans same⟩
    · exact ⟨rfl, rfl, rfl, (congrArg (fun pair => pair.2.rows) succeeds).trans same⟩

/-- What a store holds is answered, unless the store refuses to answer. -/
theorem read_of_holds (store : RecordStore) (key : String) (value : Json) (world : World)
    (holds : store.Holds key value world) :
    ((store.read key).outcome world).1 = .ok value ∨
      ∃ text, ((store.read key).outcome world).1 = .error (.storage text) := by
  cases store with
  | memory =>
    have kept : world.memory.records.get? key = some value := holds
    have steps : ((RecordStore.memory.read key).outcome world).1 =
        ((Memory.read key).outcome world.memory).1 := rfl
    rw [steps]
    unfold Memory.read
    rw [Run.outcome_bind, Run.outcome_get, Run.continued, kept]
    cases world.memory.refusesReads
    · exact Or.inl rfl
    · exact Or.inr ⟨_, rfl⟩
  | folder root =>
    obtain ⟨location, bytes, located, here, stands⟩ := holds
    rw [read, World.onDisk, Run.outcome_within,
      Disk.outcome_readRecord root key location bytes world.disk located here, stands]
    split
    · exact Or.inr ⟨_, rfl⟩
    · exact Or.inl rfl
  | bucket name stem =>
    obtain ⟨bytes, kept, stands⟩ := holds
    have steps : (((RecordStore.bucket name stem).read key).outcome world).1 =
        ((Bucket.readRecord name stem key).outcome world.bucket).1 := rfl
    rw [steps]
    obtain ⟨after, -, ⟨text, fails⟩ | succeeds⟩ :=
      Bucket.outcome_readRecord name stem key world.bucket
    · exact Or.inr ⟨text, congrArg Prod.fst fails⟩
    · rw [kept] at succeeds
      exact Or.inl ((congrArg Prod.fst succeeds).trans stands)
  | database url table =>
    have kept : world.database.rows.get? key = some value := holds
    have steps : (((RecordStore.database url table).read key).outcome world).1 =
        ((Database.readRecord url table key).outcome world.database).1 := rfl
    rw [steps]
    obtain ⟨after, -, ⟨text, fails⟩ | succeeds⟩ :=
      Database.outcome_readRecord url table key world.database
    · exact Or.inr ⟨text, congrArg Prod.fst fails⟩
    · rw [kept] at succeeds
      exact Or.inl (congrArg Prod.fst succeeds)

/-! ### Storing -/

/-- A folder holds a record after work on the disk that leaves its file alone. -/
theorem holds_of_keepsAllBut (root : Path) (key : String) (value : Json) (world after : World)
    (excepted : Location → Prop) (holds : (RecordStore.folder root).Holds key value world)
    (keeps : world.disk.KeepsAllBut excepted after.disk)
    (spared : ∀ location, world.disk.locate (recordPath root key) = .ok location →
      ¬ excepted location) : (RecordStore.folder root).Holds key value after := by
  obtain ⟨location, bytes, located, here, stands⟩ := holds
  exact ⟨location, bytes, Disk.locate_of_keepsFolders _ _ keeps.folders _ _ located,
    keeps.files location bytes (spared location located) here, stands⟩

/-- Storing a value in a folder is the work of storing it, with its refusals put into words. -/
theorem outcome_writeRecord (root : Path) (key : String) (value : Json) (disk : Disk) :
    ((Disk.writeRecord root key value).outcome disk).2 =
        ((Disk.storing (recordPath root key) key value).outcome disk).2 ∧
      (((Disk.writeRecord root key value).outcome disk).1 = .ok () ↔
        ((Disk.storing (recordPath root key) key value).outcome disk).1 = .ok ()) := by
  have steps : Disk.writeRecord root key value =
      refusingAs ("Unable to write record '" ++ key ++ "' to " ++ (recordPath root key).text ++ ".")
        (Disk.storing (recordPath root key) key value) := rfl
  rw [steps, outcome_refusingAs]
  obtain ⟨fault | _, after⟩ := (Disk.storing (recordPath root key) key value).outcome disk
  · exact ⟨rfl, nofun, nofun⟩
  · exact ⟨rfl, fun _ => rfl, fun _ => rfl⟩

/-- A store in memory refuses, or puts the value under the key. -/
theorem outcome_write (key : String) (value : Json) (memory : Memory) :
    (Memory.write key value).outcome memory = (.error Memory.refusal, memory) ∨
      (Memory.write key value).outcome memory =
        (.ok (), { memory with records := memory.records.put key value }) := by
  unfold Memory.write
  rw [Run.outcome_bind, Run.outcome_get, Run.continued]
  cases memory.refusesWrites
  · exact Or.inr rfl
  · exact Or.inl rfl

/-- A store holds what was stored. -/
theorem holds_of_write (store : RecordStore) (key : String) (value : Json) (world : World)
    (faithful : value.Faithful) (succeeds : ((store.write key value).outcome world).1 = .ok ()) :
    store.Holds key value ((store.write key value).outcome world).2 := by
  cases store with
  | memory =>
    show ((Memory.write key value).outcome world.memory).2.records.get? key = some value
    replace succeeds : ((Memory.write key value).outcome world.memory).1 = .ok () := succeeds
    rcases outcome_write key value world.memory with fails | stored
    · rw [fails] at succeeds
      cases succeeds
    · rw [stored]
      exact Table.get?_put_self _ _ _
  | folder root =>
    rw [write, World.onDisk, Run.outcome_within] at succeeds ⊢
    obtain ⟨sameDisk, sameResult⟩ := outcome_writeRecord root key value world.disk
    rcases Disk.outcome_storing (recordPath root key) key value world.disk with
      ⟨fault, after, fails, -⟩ | ⟨bytes, location, after, isBytes, stored, located, here, -⟩
    · have impossible := sameResult.mp succeeds
      rw [fails] at impossible
      cases impossible
    · have isAfter : ((Disk.writeRecord root key value).outcome world.disk).2 = after := by
        rw [sameDisk, stored]
      show ∃ location bytes, ((Disk.writeRecord root key value).outcome world.disk).2.locate _ = _ ∧
        ((Disk.writeRecord root key value).outcome world.disk).2.node? location = _ ∧ _
      rw [isAfter]
      exact ⟨location, bytes, located, here,
        recordOfBytes_recordBytes key value bytes faithful.differ isBytes⟩
  | bucket name stem =>
    replace succeeds :
        ((Bucket.writeRecord name stem key value).outcome world.bucket).1 = .ok () := succeeds
    show ∃ bytes, ((Bucket.writeRecord name stem key value).outcome world.bucket).2.blobs.get? _ =
      some bytes ∧ _
    rcases Bucket.outcome_writeRecord name stem key value world.bucket with
      ⟨fault, after, fails, -⟩ | ⟨bytes, after, isBytes, stored, blobs⟩
    · rw [fails] at succeeds
      cases succeeds
    · rw [stored, blobs]
      exact ⟨bytes, Table.get?_put_self _ _ _,
        recordOfBytes_recordBytes key value bytes faithful.differ isBytes⟩
  | database url table =>
    replace succeeds :
        ((Database.writeRecord url table key value).outcome world.database).1 = .ok () := succeeds
    show ((Database.writeRecord url table key value).outcome world.database).2.rows.get? key = _
    rcases Database.outcome_writeRecord url table key value world.database with
      ⟨fault, after, fails, -⟩ | ⟨after, stored, rows⟩
    · rw [fails] at succeeds
      cases succeeds
    · rw [stored, rows]
      exact Table.get?_put_self _ _ _

/-- A store that fails to store a value leaves the records alone; a folder leaves their files alone,
but may make folders and temporary files. -/
theorem sameRecords_of_failed_write (store : RecordStore) (noFolder : ∀ root, store ≠ .folder root)
    (key : String) (value : Json) (world : World) (fault : Fault)
    (fails : ((store.write key value).outcome world).1 = .error fault) :
    SameRecords world ((store.write key value).outcome world).2 := by
  cases store with
  | memory =>
    replace fails : ((Memory.write key value).outcome world.memory).1 = .error fault := fails
    refine ⟨?_, rfl, rfl, rfl⟩
    show ((Memory.write key value).outcome world.memory).2.records = _
    rcases outcome_write key value world.memory with refused | stored
    · rw [refused]
    · rw [stored] at fails
      cases fails
  | folder root => exact absurd rfl (noFolder root)
  | bucket name stem =>
    replace fails :
        ((Bucket.writeRecord name stem key value).outcome world.bucket).1 = .error fault := fails
    refine ⟨rfl, rfl, ?_, rfl⟩
    show ((Bucket.writeRecord name stem key value).outcome world.bucket).2.blobs = _
    rcases Bucket.outcome_writeRecord name stem key value world.bucket with
      ⟨_, after, failed, blobs⟩ | ⟨bytes, after, -, stored, -⟩
    · rw [failed]
      exact blobs
    · rw [stored] at fails
      cases fails
  | database url table =>
    replace fails : ((Database.writeRecord url table key value).outcome world.database).1 =
        .error fault := fails
    refine ⟨rfl, rfl, rfl, ?_⟩
    show ((Database.writeRecord url table key value).outcome world.database).2.rows = _
    rcases Database.outcome_writeRecord url table key value world.database with
      ⟨_, after, failed, rows⟩ | ⟨after, stored, -⟩
    · rw [failed]
      exact rows
    · rw [stored] at fails
      cases fails

/-- A store that fails to store a value still holds the value before. -/
theorem holds_of_failed_write (store : RecordStore) (key : String) (value other : Json)
    (world : World) (fault : Fault) (holds : store.Holds key value world)
    (fails : ((store.write key other).outcome world).1 = .error fault) :
    store.Holds key value ((store.write key other).outcome world).2 := by
  cases store with
  | folder root =>
    rw [write, World.onDisk, Run.outcome_within] at fails ⊢
    obtain ⟨sameDisk, sameResult⟩ := outcome_writeRecord root key other world.disk
    rcases Disk.outcome_storing (recordPath root key) key other world.disk with
      ⟨_, after, failed, keeps⟩ | ⟨bytes, location, after, -, stored, -⟩
    · refine holds_of_keepsAllBut root key value world _ _ holds ?_ fun _ _ => id
      show Disk.KeepsAllBut _ _ ((Disk.writeRecord root key other).outcome world.disk).2
      rw [sameDisk, failed]
      exact keeps
    · have impossible := sameResult.mpr (congrArg Prod.fst stored)
      exact absurd (fails.symm.trans impossible) nofun
  | memory | bucket | database =>
    exact holds.of_sameRecords
      (sameRecords_of_failed_write _ (by nofun) key other world fault fails)

/-! ### Other keys -/

theorem get?_memoryWrite (key other : String) (value : Json) (memory : Memory)
    (apart : key ≠ other) :
    ((Memory.write key value).outcome memory).2.records.get? other = memory.records.get? other := by
  rcases outcome_write key value memory with refused | stored
  · rw [refused]
  · rw [stored]
    exact Table.get?_put_other _ _ _ _ apart

theorem get?_bucketWrite (name stem key other : String) (value : Json) (bucket : Bucket)
    (apart : Bucket.blobName name stem key ≠ other) :
    ((Bucket.writeRecord name stem key value).outcome bucket).2.blobs.get? other =
      bucket.blobs.get? other := by
  rcases Bucket.outcome_writeRecord name stem key value bucket with
    ⟨_, after, failed, blobs⟩ | ⟨bytes, after, -, stored, blobs⟩
  · rw [failed, blobs]
  · rw [stored, blobs]
    exact Table.get?_put_other _ _ _ _ apart

theorem get?_databaseWrite (url table key other : String) (value : Json) (database : Database)
    (apart : key ≠ other) :
    ((Database.writeRecord url table key value).outcome database).2.rows.get? other =
      database.rows.get? other := by
  rcases Database.outcome_writeRecord url table key value database with
    ⟨_, after, failed, rows⟩ | ⟨after, stored, rows⟩
  · rw [failed, rows]
  · rw [stored, rows]
    exact Table.get?_put_other _ _ _ _ apart

end RecordStore

end MarketSignal
