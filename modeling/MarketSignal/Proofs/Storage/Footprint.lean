/-
This file says what storing a record changes. Everything that is kept anywhere has a slot, and a
record has one slot of its own. Storing the record changes that slot only, whether or not it
succeeds; a folder may be left with a temporary file besides, where no file was and where no record
is ever kept.
-/
import MarketSignal.Proofs.Storage.Place
import MarketSignal.Proofs.Storage.Holding

namespace MarketSignal

namespace Disk

/-! ### Nodes and files by their keys -/

/-- The file under a key. -/
def file? (disk : Disk) (name : String) : Option ByteArray :=
  match disk.nodes.get? name with
  | some (.file bytes) => some bytes
  | _ => none

theorem file?_of_sameNode {before after : Disk} {name : String}
    (same : after.nodes.get? name = before.nodes.get? name) :
    after.file? name = before.file? name := by
  rw [file?, same, file?]

theorem get?_of_file? {disk : Disk} {name : String} {bytes : ByteArray}
    (held : disk.file? name = some bytes) : disk.nodes.get? name = some (.file bytes) := by
  unfold file? at held
  split at held
  case h_1 found => rw [found, Option.some.inj held]
  case h_2 => cases held

/-- There is nothing under the key of a place where nothing is. -/
theorem get?_key_of_free (disk : Disk) (location : Location) (free : disk.node? location = none) :
    disk.nodes.get? (key location) = none := by
  have below : location ≠ [] := below_of_ne_folder disk location (by simp [free])
  rw [← node?_eq disk location below, free]

theorem get?_put_other (disk : Disk) (location : Location) (node : Node) (name : String)
    (apart : key location ≠ name) :
    (disk.put location node).nodes.get? name = disk.nodes.get? name :=
  Table.get?_put_other _ _ _ _ apart

theorem get?_moved_other (disk : Disk) (origin location : Location) (node : Node) (name : String)
    (fromElsewhere : key origin ≠ name) (toElsewhere : key location ≠ name) :
    (disk.moved origin location node).nodes.get? name = disk.nodes.get? name := by
  rw [moved, get?_put_other _ location node name toElsewhere]
  exact Table.get?_erase_other _ _ _ fromElsewhere

/-- A folder that is put where nothing was is no file. -/
theorem file?_put_folder (disk : Disk) (location : Location) (free : disk.node? location = none)
    (name : String) : (disk.put location .folder).file? name = disk.file? name := by
  by_cases same : key location = name
  · subst same
    rw [file?, file?, get?_key_of_free disk location free, put, Table.get?_put_self]
  · exact file?_of_sameNode (get?_put_other disk location .folder name same)

/-! ### Storing a record in a folder -/

theorem file?_makeFolders (path : Path) (disk : Disk) (name : String) :
    ((makeFolders path).outcome disk).2.file? name = disk.file? name := by
  have puts (now : Disk) (location : Location) (_ : OnWay path location)
      (free : now.node? location = none) (same : now.file? name = disk.file? name) :
      (now.put location .folder).file? name = disk.file? name := by
    rw [file?_put_folder now location free, same]
  exact keeps_makeFolders puts disk rfl

/-- Making folders leaves alone what is not on the way to them. -/
theorem get?_makeFolders (path : Path) (disk : Disk) (name : String)
    (apart : ∀ location, OnWay path location → disk.node? location = none →
      key location ≠ name) :
    ((makeFolders path).outcome disk).2.nodes.get? name = disk.nodes.get? name := by
  have puts (now : Disk) (location : Location) (onWay : OnWay path location)
      (free : now.node? location = none)
      (holds : disk.Extends now ∧ now.nodes.get? name = disk.nodes.get? name) :
      disk.Extends (now.put location .folder) ∧
        (now.put location .folder).nodes.get? name = disk.nodes.get? name := by
    obtain ⟨grows, same⟩ := holds
    have freeBefore : disk.node? location = none := by
      cases held : disk.node? location with
      | none => rfl
      | some node => cases free.symm.trans (grows location node held)
    refine ⟨grows.trans (extends_put now location .folder free), ?_⟩
    rw [get?_put_other now location .folder name (apart location onWay freeBefore), same]
  exact (keeps_makeFolders puts disk ⟨Extends.refl disk, rfl⟩).2

/-- The work of storing a record once its folder is there. -/
def placing (path : Path) (record : String) (value : Json) : Run Disk Unit := do
  let temporary ← createTemporary path.parent record
  writeBytes temporary (← Run.ofExcept (recordBytes value))
  replaceFile temporary path

/-- A key is that of a temporary file of a record. -/
def IsTemporary (path : Path) (record name : String) : Prop :=
  ∃ number, name = placeKey (temporaryPath path.parent record number)

/-- Apart from temporary files that appear, storing a record changes what is under its own key and
nothing else, and that only if it succeeds. -/
theorem get?_placing (path : Path) (record : String) (value : Json) (disk : Disk) (name : String)
    (noTemporary : ¬ (IsTemporary path record name ∧ disk.nodes.get? name = none)) :
    ((placing path record value).outcome disk).2.nodes.get? name = disk.nodes.get? name ∨
      name = placeKey path ∧ ((placing path record value).outcome disk).1 = .ok () := by
  unfold placing
  rw [Run.outcome_bind, createTemporary, Run.outcome_bind, Run.outcome_get, Run.continued]
  rcases outcome_createTemporaryFrom path.parent record (disk.nodes.size + 1) 0 disk with
    ⟨fault, fails⟩ | ⟨temporary, free, ⟨number, isTemporary⟩, isFree, nothing, created⟩
  · rw [fails]
    exact Or.inl rfl
  -- The temporary file has another key, since nothing was there.
  have elsewhere : key free ≠ name := by
    rintro rfl
    refine noTemporary ⟨⟨number, ?_⟩, get?_key_of_free disk free nothing⟩
    rw [key_of_locate disk temporary free isFree, isTemporary]
  have still (bytes : ByteArray) :
      (disk.put free (.file bytes)).nodes.get? name = disk.nodes.get? name :=
    get?_put_other disk free _ name elsewhere
  rw [created, Run.continued, Run.outcome_bind, Run.outcome_ofExcept]
  cases recordBytes value with
  | error fault => exact Or.inl (still _)
  | ok bytes =>
    rw [Run.continued, Run.outcome_bind]
    rcases outcome_writeBytes temporary (disk.put free (.file ByteArray.empty)) with
      ⟨fault, fails⟩ | ⟨place, isPlace, -, written⟩
    · rw [fails]
      exact Or.inl (still _)
    have placeElsewhere : key place ≠ name := by
      rw [key_of_locate _ temporary place isPlace, ← key_of_locate disk temporary free isFree]
      exact elsewhere
    rw [written, Run.continued]
    rcases outcome_replaceFile temporary path
        ((disk.put free (.file ByteArray.empty)).put place (.file bytes)) with
      ⟨fault, fails⟩ | ⟨origin, location, node, can⟩
    · rw [fails, get?_put_other _ place _ name placeElsewhere]
      exact Or.inl (still _)
    · rw [can.outcome]
      by_cases isRecord : name = placeKey path
      · exact Or.inr ⟨isRecord, rfl⟩
      refine Or.inl ?_
      rw [get?_moved_other _ origin location node name,
        get?_put_other _ place _ name placeElsewhere]
      · exact still _
      · rw [key_of_locate _ temporary origin can.isOrigin,
          ← key_of_locate disk temporary free isFree]
        exact elsewhere
      · rw [key_of_locate _ path location can.isLocation]
        exact Ne.symm isRecord

/-- Where the folder has to be made first, the same holds of the files. -/
theorem file?_storing (path : Path) (record : String) (value : Json) (disk : Disk) (name : String)
    (noTemporary : ¬ (IsTemporary path record name ∧ disk.file? name = none)) :
    ((storing path record value).outcome disk).2.file? name = disk.file? name ∨
      name = placeKey path ∧ ((storing path record value).outcome disk).1 = .ok () := by
  have made := file?_makeFolders path.parent disk name
  have steps : storing path record value =
      makeFolders path.parent >>= fun _ => placing path record value := rfl
  rw [steps, Run.outcome_bind]
  revert made
  obtain ⟨fault | _, first⟩ := (makeFolders path.parent).outcome disk
  · exact Or.inl
  intro made
  have placed := get?_placing path record value first name fun temporary =>
    noTemporary ⟨temporary.1, made.symm.trans (by rw [file?, temporary.2])⟩
  exact placed.imp (fun same => (file?_of_sameNode same).trans made) id

end Disk

/-! ### Everything that is kept -/

/-- Where something is kept. -/
inductive Slot where
  | memory (key : String)
  | file (name : String)
  | blob (name : String)
  | row (key : String)
deriving DecidableEq, Repr

/-- What is kept in a slot: a value or bytes. -/
def World.kept? (world : World) : Slot → Option (Json ⊕ ByteArray)
  | .memory key => (world.memory.records.get? key).map .inl
  | .file name => (world.disk.file? name).map .inr
  | .blob name => (world.bucket.blobs.get? name).map .inr
  | .row key => (world.database.rows.get? key).map .inl

namespace RecordStore

/-- Where a store keeps the record of a key. -/
def slot (store : RecordStore) (key : String) : Slot :=
  match store with
  | .memory => .memory key
  | .folder root => .file (Disk.placeKey (recordPath root key))
  | .bucket name stem => .blob (Bucket.blobName name stem key)
  | .database _ _ => .row key

/-- Where a store may leave a temporary file behind. -/
def Spare (store : RecordStore) (key : String) (slot : Slot) : Prop :=
  ∃ root number, store = .folder root ∧
    slot = .file (Disk.placeKey (Disk.temporaryPath (recordPath root key).parent key number))

/-- Nothing is changed but the record of a key: all other records of all stores are as before, and
so is whatever else is kept, except that there may be a temporary file where there was none. -/
structure ChangesOnly (store : RecordStore) (key : String) (before after : World) : Prop where
  records : ∀ (other : RecordStore) (otherKey : String), other.slot otherKey ≠ store.slot key →
    after.kept? (other.slot otherKey) = before.kept? (other.slot otherKey)
  others : ∀ slot, slot ≠ store.slot key →
    after.kept? slot = before.kept? slot ∨ store.Spare key slot ∧ before.kept? slot = none

theorem kept?_of_sameRecords {before after : World} (same : SameRecords before after)
    (slot : Slot) : after.kept? slot = before.kept? slot := by
  cases slot with
  | memory key => rw [World.kept?, same.records, World.kept?]
  | file name => rw [World.kept?, Disk.file?, same.nodes, World.kept?, Disk.file?]
  | blob name => rw [World.kept?, same.blobs, World.kept?]
  | row key => rw [World.kept?, same.rows, World.kept?]

/-- A temporary file is where no record is ever kept. -/
theorem spare_not_record (store other : RecordStore) (key otherKey : String)
    (noSlash : '/' ∉ key.toList) : ¬ store.Spare key (other.slot otherKey) := by
  rintro ⟨root, number, rfl, same⟩
  cases other with
  | memory => cases same
  | folder otherRoot =>
    exact Disk.temporary_not_record _ otherRoot key otherKey number noSlash
      (Slot.file.inj same).symm
  | bucket name stem => cases same
  | database url table => cases same

theorem changesOnly_of_others {store : RecordStore} {key : String} {before after : World}
    (noSlash : '/' ∉ key.toList) (others : ∀ slot, slot ≠ store.slot key →
      after.kept? slot = before.kept? slot ∨ store.Spare key slot ∧ before.kept? slot = none) :
    store.ChangesOnly key before after :=
  ⟨fun other otherKey apart => (others _ apart).resolve_right fun spare =>
    spare_not_record store other key otherKey noSlash spare.1, others⟩

/-- Work before and after that does not concern the records does not count. -/
theorem ChangesOnly.between {store : RecordStore} {key : String} {before ready done after : World}
    (only : store.ChangesOnly key ready done) (first : SameRecords before ready)
    (last : SameRecords done after) : store.ChangesOnly key before after := by
  constructor
  · intro other otherKey apart
    rw [kept?_of_sameRecords last, only.records other otherKey apart, kept?_of_sameRecords first]
  · intro slot apart
    rw [kept?_of_sameRecords last, ← kept?_of_sameRecords first]
    exact only.others slot apart

/-- Of the files, storing a record in a folder changes its own and temporary ones at most. -/
theorem file?_folderWrite (root : Path) (key : String) (value : Json) (disk : Disk) (name : String)
    (apart : name ≠ Disk.placeKey (recordPath root key)) :
    ((Disk.writeRecord root key value).outcome disk).2.file? name = disk.file? name ∨
      (RecordStore.folder root).Spare key (.file name) ∧ disk.file? name = none := by
  rw [(outcome_writeRecord root key value disk).1]
  by_cases temporary : Disk.IsTemporary (recordPath root key) key name ∧ disk.file? name = none
  · obtain ⟨⟨number, isTemporary⟩, noFile⟩ := temporary
    exact Or.inr ⟨⟨root, number, rfl, congrArg Slot.file isTemporary⟩, noFile⟩
  · exact Or.inl ((Disk.file?_storing (recordPath root key) key value disk name
      temporary).resolve_right fun isRecord => apart isRecord.1)

/-- Storing a record changes nothing else, whether or not it succeeds. -/
theorem changesOnly_write (store : RecordStore) (key : String) (value : Json) (world : World)
    (noSlash : '/' ∉ key.toList) :
    store.ChangesOnly key world ((store.write key value).outcome world).2 := by
  refine changesOnly_of_others noSlash fun slot apart => ?_
  cases store with
  | memory =>
    refine Or.inl ?_
    cases slot with
    | memory other =>
      exact congrArg (Option.map Sum.inl) (get?_memoryWrite key other value world.memory
        fun same => apart (congrArg Slot.memory same.symm))
    | file _ | blob _ | row _ => rfl
  | folder root =>
    rw [write, World.onDisk, Run.outcome_within]
    cases slot with
    | file name =>
      refine (file?_folderWrite root key value world.disk name
        fun same => apart (congrArg Slot.file same)).imp (congrArg (Option.map Sum.inr)) ?_
      rintro ⟨spare, noFile⟩
      exact ⟨spare, congrArg (Option.map Sum.inr) noFile⟩
    | memory _ | blob _ | row _ => exact Or.inl rfl
  | bucket name stem =>
    refine Or.inl ?_
    cases slot with
    | blob other =>
      exact congrArg (Option.map Sum.inr) (get?_bucketWrite name stem key other value world.bucket
        fun same => apart (congrArg Slot.blob same.symm))
    | memory _ | file _ | row _ => rfl
  | database url table =>
    refine Or.inl ?_
    cases slot with
    | row other =>
      exact congrArg (Option.map Sum.inl) (get?_databaseWrite url table key other value
        world.database fun same => apart (congrArg Slot.row same.symm))
    | memory _ | file _ | blob _ => rfl

/-- A store that fails to store a value has in its slot what was there before. -/
theorem kept?_slot_of_failed_write (store : RecordStore) (key : String) (value : Json)
    (world : World) (fault : Fault) (noSlash : '/' ∉ key.toList)
    (fails : ((store.write key value).outcome world).1 = .error fault) :
    ((store.write key value).outcome world).2.kept? (store.slot key) =
      world.kept? (store.slot key) := by
  cases store with
  | folder root =>
    obtain ⟨sameDisk, sameResult⟩ := outcome_writeRecord root key value world.disk
    refine congrArg (Option.map Sum.inr) (?_ : Disk.file? _ _ = _)
    show ((Disk.writeRecord root key value).outcome world.disk).2.file? _ = _
    rw [sameDisk]
    have noTemporary : ¬ Disk.IsTemporary (recordPath root key) key
        (Disk.placeKey (recordPath root key)) := fun ⟨number, same⟩ =>
      Disk.temporary_not_record _ root key key number noSlash same.symm
    refine (Disk.file?_storing (recordPath root key) key value world.disk _
      fun temporary => noTemporary temporary.1).resolve_right fun stored => ?_
    exact absurd (fails.symm.trans (sameResult.mpr stored.2)) nofun
  | memory | bucket | database =>
    exact kept?_of_sameRecords
      (sameRecords_of_failed_write _ (by nofun) key value world fault fails) _

/-- So all records of all stores are as they were. -/
theorem kept?_of_failed_write (store : RecordStore) (key : String) (value : Json) (world : World)
    (fault : Fault) (noSlash : '/' ∉ key.toList)
    (fails : ((store.write key value).outcome world).1 = .error fault) (other : RecordStore)
    (otherKey : String) :
    ((store.write key value).outcome world).2.kept? (other.slot otherKey) =
      world.kept? (other.slot otherKey) := by
  by_cases same : other.slot otherKey = store.slot key
  · rw [same]
    exact kept?_slot_of_failed_write store key value world fault noSlash fails
  · exact (changesOnly_write store key value world noSlash).records other otherKey same

/-- Storing a record leaves in place what is held in another slot. -/
theorem keeps_write_other (store : RecordStore) (key other : String) (value written : Json)
    (apart : store.slot other ≠ store.slot key) :
    (store.write other written).Keeps (store.Holds key value) := by
  intro world holds
  cases store with
  | memory =>
    show ((Memory.write other written).outcome world.memory).2.records.get? key = _
    rw [get?_memoryWrite _ _ _ _ fun same => apart (congrArg Slot.memory same)]
    exact holds
  | folder root =>
    rw [write, World.onDisk, Run.outcome_within]
    obtain ⟨sameDisk, -⟩ := outcome_writeRecord root other written world.disk
    rcases Disk.outcome_storing (recordPath root other) other written world.disk with
      ⟨_, after, failed, keeps⟩ | ⟨bytes, location, after, -, stored, located, -, keeps⟩
    · refine holds_of_keepsAllBut root key value world _ _ holds ?_ fun _ _ => id
      show Disk.KeepsAllBut _ _ ((Disk.writeRecord root other written).outcome world.disk).2
      rw [sameDisk, failed]
      exact keeps
    · have keepsOthers : world.disk.KeepsAllBut (fun place => Disk.key place = Disk.key location)
          ((Disk.writeRecord root other written).outcome world.disk).2 := by
        rw [sameDisk, stored]
        exact keeps
      refine holds_of_keepsAllBut root key value world _ _ holds keepsOthers ?_
      intro place isPlace same
      rw [Disk.key_of_locate _ _ place isPlace,
        Disk.key_of_locate after _ location located] at same
      exact apart (congrArg Slot.file same.symm)
  | bucket name stem =>
    obtain ⟨kept, isKept, stands⟩ := holds
    show ∃ bytes, ((Bucket.writeRecord name stem other written).outcome
      world.bucket).2.blobs.get? _ = some bytes ∧ _
    rw [get?_bucketWrite _ _ _ _ _ _ fun same => apart (congrArg Slot.blob same)]
    exact ⟨kept, isKept, stands⟩
  | database url table =>
    show ((Database.writeRecord url table other written).outcome
      world.database).2.rows.get? _ = _
    rw [get?_databaseWrite _ _ _ _ _ _ fun same => apart (congrArg Slot.row same)]
    exact holds

end RecordStore

end MarketSignal
