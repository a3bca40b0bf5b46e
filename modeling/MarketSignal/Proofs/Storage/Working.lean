/-
This file says when a store can be relied on, and that it then can be for good. A store works if
none of its calls fails and there is room for its record; storing a record uses up no room, since
the temporary file becomes the record. So a store that works takes every record, answers it, and
works again afterwards.
-/
import MarketSignal.Proofs.Storage.Media
import MarketSignal.Proofs.Storage.Persistence
import MarketSignal.Proofs.Storage.Reading

namespace MarketSignal

namespace Disk

/-! ### Making a temporary file -/

theorem working_of_attempt {Result : Type} {call : DiskCall} {path : Path}
    {next : Unit → Run Disk Result} {disk : Disk} {result : Result}
    (succeeds : ((attempt call path >>= next).outcome disk).1 = .ok result) :
    disk.failing ≠ some call := by
  intro failing
  rcases outcome_attempt_bind call path next disk with ⟨-, fails⟩ | ⟨working, -⟩
  · rw [fails] at succeeds
    cases succeeds
  · rw [failing, beq_self_eq_true] at working
    cases working

/-- Where making files works, the numbers are tried one after another. -/
theorem outcome_createTemporaryFrom_eq (folder : Path) (record : String) (tries number : Nat)
    (disk : Disk) (working : disk.failing ≠ some .create) :
    (createTemporaryFrom folder record (tries + 1) number).outcome disk =
      match disk.locate (temporaryPath folder record number) with
      | .error fault => (.error fault, disk)
      | .ok location =>
        match disk.node? location with
        | some _ => (createTemporaryFrom folder record tries (number + 1)).outcome disk
        | none => (.ok (temporaryPath folder record number),
            disk.put location (.file ByteArray.empty)) := by
  rw [createTemporaryFrom]
  rcases outcome_attempt_bind .create (temporaryPath folder record number) _ disk with
    ⟨failing, -⟩ | ⟨-, goesOn⟩
  · exact absurd (beq_iff_eq.mp failing) working
  · rw [goesOn, Run.outcome_bind, Run.outcome_get, Run.continued, Run.outcome_bind,
      Run.outcome_ofExcept]
    cases disk.locate (temporaryPath folder record number) with
    | error fault => rfl
    | ok location =>
      rw [Run.continued]
      dsimp only
      cases disk.node? location <;> rfl

theorem outcome_createTemporary (folder : Path) (record : String) (disk : Disk) :
    (createTemporary folder record).outcome disk =
      (createTemporaryFrom folder record (disk.nodes.size + 1) 0).outcome disk := by
  rw [createTemporary, Run.outcome_bind, Run.outcome_get, Run.continued]

/-- A file put elsewhere does not change which temporary file is made. -/
theorem createTemporaryFrom_after_put (folder : Path) (record : String) (tries more number : Nat)
    (disk : Disk) (location : Location) (bytes : ByteArray)
    (noFolder : disk.node? location ≠ some .folder)
    (apart : ∀ number, placeKey (temporaryPath folder record number) ≠ key location)
    (working : disk.failing ≠ some .create) (enough : tries ≤ more)
    (temporary : Path) (free : Location) (isFree : disk.locate temporary = .ok free)
    (made : (createTemporaryFrom folder record tries number).outcome disk =
      (.ok temporary, disk.put free (.file ByteArray.empty))) :
    (createTemporaryFrom folder record more number).outcome (disk.put location (.file bytes)) =
      (.ok temporary, (disk.put location (.file bytes)).put free (.file ByteArray.empty)) := by
  induction tries generalizing number more with
  | zero => cases made
  | succ tries inductionHypothesis =>
    obtain ⟨more, rfl⟩ : ∃ fewer, more = fewer + 1 := Nat.exists_eq_add_one.mpr (by omega)
    rw [outcome_createTemporaryFrom_eq folder record tries number disk working] at made
    rw [outcome_createTemporaryFrom_eq folder record more number (disk.put location _) working]
    cases found : disk.locate (temporaryPath folder record number) with
    | error fault =>
      rw [found] at made
      cases made
    | ok place =>
      have elsewhere : key location ≠ key place := by
        rw [key_of_locate disk _ place found]
        exact Ne.symm (apart number)
      rw [found] at made
      rw [locate_of_keepsFolders _ _ (keepsFolders_put disk location _ noFolder) _ _ found]
      dsimp only at made ⊢
      rw [node?_put_other disk location place _ elsewhere]
      cases occupied : disk.node? place with
      | some node =>
        rw [occupied] at made
        exact inductionHypothesis more (number + 1) (by omega) made
      | none =>
        rw [occupied] at made
        cases Except.ok.inj (congrArg Prod.fst made)
        cases found.symm.trans isFree
        rfl

/-! ### Making a folder -/

/-- If the work succeeds then there is a folder at the end of the path. -/
def Provides (work : Run Disk Unit) (path : Path) : Prop :=
  ∀ disk, (work.outcome disk).1 = .ok () → (work.outcome disk).2.hasFolder path = true

theorem provides_throw (fault : Fault) (path : Path) : Provides (throw fault) path :=
  fun _ succeeds => nomatch succeeds

theorem provides_makeFolder (path : Path) : Provides (makeFolder path) path := by
  intro disk succeeds
  unfold makeFolder at succeeds ⊢
  rcases outcome_attempt_locate .makeFolder path disk with
    ⟨fault, fails⟩ | ⟨location, found, goesOn⟩
  · rw [fails] at succeeds
    cases succeeds
  · rw [goesOn] at succeeds ⊢
    cases free : disk.node? location with
    | some node =>
      rw [free] at succeeds
      cases succeeds
    | none =>
      have noFolder : disk.node? location ≠ some .folder := by simp [free]
      have there := node?_put_self disk location .folder (below_of_ne_folder disk location noFolder)
      have keeps := keepsFolders_put disk location .folder noFolder
      show (disk.put location .folder).hasFolder path = true
      rw [hasFolder, locate_of_keepsFolders _ _ keeps path location found]
      dsimp only
      rw [there]

/-- What provides the folder may be done last. -/
theorem provides_bind {Result : Type} (work : Run Disk Result) (next : Result → Run Disk Unit)
    (path : Path) (last : ∀ result, Provides (next result) path) :
    Provides (work >>= next) path := by
  intro disk succeeds
  rw [Run.outcome_bind] at succeeds ⊢
  revert succeeds
  obtain ⟨fault | result, after⟩ := work.outcome disk
  · exact fun fails => nomatch fails
  · exact last result after

theorem provides_makeFolderOr (path : Path) (ifAbsent : Fault → Run Disk Unit)
    (provides : ∀ fault, Provides (ifAbsent fault) path) :
    Provides (makeFolderOr path ifAbsent) path := by
  have isThere (fault : Fault) : Provides (do
      if (← get).hasFolder path then return () else throw fault) path := by
    intro disk succeeds
    rw [Run.outcome_bind, Run.outcome_get, Run.continued] at succeeds ⊢
    split at succeeds
    case isTrue present =>
      rw [if_pos present]
      exact present
    case isFalse => cases succeeds
  intro disk succeeds
  have made := provides_makeFolder path disk
  rw [makeFolderOr, Run.outcome_tryCatch] at succeeds ⊢
  revert succeeds made
  obtain ⟨fault | _, after⟩ := (makeFolder path).outcome disk
  · intro succeeds _
    cases fault with
    | file trouble text =>
      cases trouble with
      | absent => exact provides _ after succeeds
      | _ => exact isThere _ after succeeds
    | _ => cases succeeds
  · exact fun _ made => made rfl

/-- Folders that were made are there. -/
theorem provides_makeFolders (path : Path) : Provides (makeFolders path) path := by
  have again : Provides (makeFolderOr path fun fault => throw fault) path :=
    provides_makeFolderOr path _ fun fault => provides_throw fault path
  unfold makeFolders
  cases path.steps.length with
  | zero => exact again
  | succ height =>
    refine provides_makeFolderOr path _ fun fault => ?_
    dsimp only
    split
    · exact provides_bind _ _ _ fun _ => provides_bind _ _ _ fun _ => again
    · exact provides_bind _ _ _ fun _ => again

/-! ### Room for a record -/

/-- A file that was put somewhere is no folder on the way. -/
theorem keepsFolders_of_put_file (disk : Disk) (location : Location) (bytes : ByteArray)
    (below : location ≠ []) : (disk.put location (.file bytes)).KeepsFolders disk := by
  intro other isFolder
  cases other with
  | nil => rfl
  | cons step rest =>
    by_cases same : key location = key (step :: rest)
    · have isFile := node?_put_self disk location (.file bytes) below
      rw [node?_eq _ _ below, same] at isFile
      cases isFile.symm.trans isFolder
    · rwa [node?_put_other disk location _ _ same] at isFolder

theorem outcome_writeBytes_located (path : Path) (location : Location) (bytes : ByteArray)
    (disk : Disk) (working : disk.failing ≠ some .write) (located : disk.locate path = .ok location)
    (noFolder : disk.node? location ≠ some .folder) :
    (writeBytes path bytes).outcome disk = (.ok (), disk.put location (.file bytes)) := by
  unfold writeBytes
  rcases outcome_attempt_bind .write path _ disk with ⟨failing, -⟩ | ⟨-, goesOn⟩
  · exact absurd (beq_iff_eq.mp failing) working
  · rw [goesOn, Run.outcome_bind, Run.outcome_get, Run.continued, Run.outcome_bind,
      Run.outcome_ofExcept, located, Run.continued]
    revert noFolder
    obtain _ | ⟨old | _⟩ := disk.node? location
    · exact fun _ => rfl
    · exact fun _ => rfl
    · exact fun isFolder => absurd rfl isFolder

/-- The disk with a temporary file that was made at a place and then written. -/
def filled (disk : Disk) (free : Location) (bytes : ByteArray) : Disk :=
  (disk.put free (.file ByteArray.empty)).put free (.file bytes)

section

variable {disk : Disk} {free : Location} (nothing : disk.node? free = none) (bytes : ByteArray)

include nothing

theorem node?_made :
    (disk.put free (.file ByteArray.empty)).node? free = some (.file ByteArray.empty) :=
  node?_put_self disk free _ (below_of_ne_folder disk free (by simp [nothing]))

/-- Neither making nor writing a temporary file bends a path. -/
theorem keepsFolders_filled : disk.KeepsFolders (disk.filled free bytes) := by
  have made : disk.KeepsFolders (disk.put free (.file ByteArray.empty)) :=
    keepsFolders_put disk free _ (by simp [nothing])
  have written : (disk.put free (.file ByteArray.empty)).KeepsFolders (disk.filled free bytes) :=
    keepsFolders_put _ free _ (by simp [node?_made nothing])
  exact fun place isFolder => written place (made place isFolder)

theorem keepsFolders_of_filled : (disk.filled free bytes).KeepsFolders disk := by
  have below : free ≠ [] := below_of_ne_folder disk free (by simp [nothing])
  exact fun place isFolder => keepsFolders_of_put_file disk free _ below place
    (keepsFolders_of_put_file _ free _ below place isFolder)

/-- A temporary file that takes the place of a record leaves nothing behind. -/
theorem filled_moved (location : Location) :
    (disk.filled free bytes).moved free location (.file bytes) =
      disk.put location (.file bytes) := by
  have restored : (disk.filled free bytes).nodes.erase (key free) = disk.nodes := by
    rw [filled, put, put, Table.erase_put, Table.erase_put,
      Table.erase_of_absent _ _ (get?_key_of_free disk free nothing)]
  rw [moved, restored]
  rfl

theorem outcome_writeBytes_made (temporary : Path) (working : disk.failing ≠ some .write)
    (isFree : disk.locate temporary = .ok free) :
    (writeBytes temporary bytes).outcome (disk.put free (.file ByteArray.empty)) =
      (.ok (), disk.filled free bytes) := by
  have made : disk.KeepsFolders (disk.put free (.file ByteArray.empty)) :=
    keepsFolders_put disk free _ (by simp [nothing])
  exact outcome_writeBytes_located temporary free bytes (disk.put free _) working
    (locate_of_keepsFolders _ _ made _ _ isFree) (by simp [node?_made nothing])

end

/-- What it takes to store a record in a folder that is there: a temporary file can be made where
nothing is, and the path of the record leads to where no folder is. -/
structure HasRoom (disk : Disk) (path : Path) (record : String) (temporary : Path)
    (free location : Location) : Prop where
  creates : disk.failing ≠ some .create
  writes : disk.failing ≠ some .write
  replaces : disk.failing ≠ some .replace
  made : (createTemporary path.parent record).outcome disk =
    (.ok temporary, disk.put free (.file ByteArray.empty))
  isTemporary : ∃ number, temporary = temporaryPath path.parent record number
  isFree : disk.locate temporary = .ok free
  nothing : disk.node? free = none
  target : disk.locate path = .ok location
  noFolder : disk.node? location ≠ some .folder

section

variable {disk : Disk} {path : Path} {record : String} {temporary : Path}
  {free location : Location}
  (apart : ∀ number, placeKey (temporaryPath path.parent record number) ≠ placeKey path)

include apart

theorem HasRoom.key_ne (room : disk.HasRoom path record temporary free location) :
    key free ≠ key location := by
  obtain ⟨number, isTemporary⟩ := room.isTemporary
  rw [key_of_locate disk _ free room.isFree, key_of_locate disk _ location room.target, isTemporary]
  exact apart number

/-- Where there is room, storing a record comes down to putting its bytes in place. -/
theorem HasRoom.outcome_placing (room : disk.HasRoom path record temporary free location)
    (value : Json) (bytes : ByteArray) (isBytes : recordBytes value = .ok bytes) :
    (placing path record value).outcome disk = (.ok (), disk.put location (.file bytes)) := by
  have elsewhere := room.key_ne apart
  have keeps := keepsFolders_filled room.nothing bytes
  have below : free ≠ [] := below_of_ne_folder disk free (by simp [room.nothing])
  have can : (disk.filled free bytes).CanReplace temporary path free location (.file bytes) := by
    refine ⟨beq_eq_false_iff_ne.mpr room.replaces, ?_, ?_, node?_put_self _ free _ below, ?_⟩
    · exact locate_of_keepsFolders _ _ keeps _ _ room.isFree
    · exact locate_of_keepsFolders _ _ keeps _ _ room.target
    · rw [filled, node?_put_other _ free location _ elsewhere,
        node?_put_other disk free location _ elsewhere]
      exact room.noFolder
  unfold placing
  rw [Run.outcome_bind, room.made, Run.continued, Run.outcome_bind, Run.outcome_ofExcept, isBytes,
    Run.continued, Run.outcome_bind,
    outcome_writeBytes_made room.nothing bytes temporary room.writes room.isFree, Run.continued,
    can.outcome, filled_moved room.nothing]

/-- A record that was stored leaves as much room as there was. -/
theorem HasRoom.again (room : disk.HasRoom path record temporary free location)
    (bytes : ByteArray) :
    (disk.put location (.file bytes)).HasRoom path record temporary free location := by
  have elsewhere := room.key_ne apart
  have keeps : disk.KeepsFolders (disk.put location (.file bytes)) :=
    keepsFolders_put disk location _ room.noFolder
  have below : location ≠ [] := below_of_ne_folder disk location room.noFolder
  have isFree := locate_of_keepsFolders _ _ keeps _ _ room.isFree
  have nothing : (disk.put location (.file bytes)).node? free = none := by
    rw [node?_put_other disk location free _ (Ne.symm elsewhere)]
    exact room.nothing
  have made : (createTemporary path.parent record).outcome (disk.put location (.file bytes)) =
      (.ok temporary, (disk.put location (.file bytes)).put free (.file ByteArray.empty)) := by
    have madeBefore := room.made
    rw [outcome_createTemporary] at madeBefore ⊢
    refine createTemporaryFrom_after_put path.parent record _ _ 0 disk location bytes room.noFolder
      (fun number => ?_) room.creates ?_ temporary free room.isFree madeBefore
    · rw [key_of_locate disk _ location room.target]
      exact apart number
    · exact Nat.add_le_add_right (Table.size_le_put _ _ _) 1
  refine ⟨room.creates, room.writes, room.replaces, made, room.isTemporary, isFree, nothing,
    locate_of_keepsFolders _ _ keeps _ _ room.target, ?_⟩
  rw [node?_put_self disk location _ below]
  nofun

end

/-- Where a record was stored there was room for it. -/
theorem hasRoom_of_placing (path : Path) (record : String) (value : Json) (disk after : Disk)
    (succeeds : (placing path record value).outcome disk = (.ok (), after)) :
    ∃ temporary free location, disk.HasRoom path record temporary free location := by
  obtain ⟨temporary, ready, made, succeeds⟩ := Run.exists_of_bind_eq_ok succeeds
  obtain ⟨bytes, between, noted, succeeds⟩ := Run.exists_of_bind_eq_ok succeeds
  obtain ⟨_, filled, written, replaced⟩ := Run.exists_of_bind_eq_ok succeeds
  rw [Run.outcome_ofExcept] at noted
  obtain rfl : ready = between := congrArg Prod.snd noted
  have writes : ready.failing ≠ some .write := working_of_attempt (congrArg Prod.fst written)
  have replaces : filled.failing ≠ some .replace := working_of_attempt (congrArg Prod.fst replaced)
  have madeFrom := made
  rw [outcome_createTemporary] at madeFrom
  have creates : disk.failing ≠ some .create := by
    rw [createTemporaryFrom] at madeFrom
    exact working_of_attempt (congrArg Prod.fst madeFrom)
  rcases outcome_createTemporaryFrom path.parent record (disk.nodes.size + 1) 0 disk with
    ⟨fault, fails⟩ | ⟨_, free, isTemporary, isFree, nothing, isMade⟩
  · cases madeFrom.symm.trans fails
  cases madeFrom.symm.trans isMade
  -- Where the path of the record leads is told after the temporary file was written, but it was the
  -- same before: neither of the two steps makes a folder or takes one away.
  cases written.symm.trans (outcome_writeBytes_made nothing bytes temporary writes isFree)
  rcases outcome_replaceFile temporary path (disk.filled free bytes) with
    ⟨fault, fails⟩ | ⟨origin, location, node, can⟩
  · cases replaced.symm.trans fails
  · have target := locate_of_keepsFolders _ _ (keepsFolders_of_filled nothing bytes) _ _
      can.isLocation
    have noFolder := mt (keepsFolders_filled nothing bytes location) can.noFolder
    exact ⟨temporary, free, location, creates, writes, replaces, made, isTemporary, isFree, nothing,
      target, noFolder⟩

/-- Storing a record makes its folder, and there it finds room. -/
theorem hasRoom_of_storing (path : Path) (record : String) (value : Json) (disk after : Disk)
    (stored : (storing path record value).outcome disk = (.ok (), after)) :
    ∃ first temporary free location, (makeFolders path.parent).outcome disk = (.ok (), first) ∧
      (placing path record value).outcome first = (.ok (), after) ∧
      first.HasRoom path record temporary free location := by
  have steps : storing path record value =
      makeFolders path.parent >>= fun _ => placing path record value := rfl
  rw [steps] at stored
  obtain ⟨_, first, made, placed⟩ := Run.exists_of_bind_eq_ok stored
  obtain ⟨temporary, free, location, room⟩ :=
    hasRoom_of_placing path record value first after placed
  exact ⟨first, temporary, free, location, made, placed, room⟩

/-- Where a record was stored, every record that has bytes can be stored afterwards. -/
theorem storing_again (path : Path) (record : String) (value next : Json)
    (bytes nextBytes : ByteArray)
    (apart : ∀ number, placeKey (temporaryPath path.parent record number) ≠ placeKey path)
    (disk after : Disk) (isBytes : recordBytes value = .ok bytes)
    (isNext : recordBytes next = .ok nextBytes)
    (stored : (storing path record value).outcome disk = (.ok (), after)) :
    ((storing path record next).outcome after).1 = .ok () := by
  obtain ⟨first, temporary, free, location, made, placed, room⟩ :=
    hasRoom_of_storing path record value disk after stored
  cases placed.symm.trans (room.outcome_placing apart value bytes isBytes)
  have present : first.hasFolder path.parent = true := by
    have provided := provides_makeFolders path.parent disk
    rw [made] at provided
    exact provided rfl
  have still : (first.put location (.file bytes)).hasFolder path.parent = true :=
    hasFolder_of_keepsFolders first _ (keepsFolders_put first location _ room.noFolder) _ present
  have steps : storing path record next =
      makeFolders path.parent >>= fun _ => placing path record next := rfl
  rw [steps, Run.outcome_bind, outcome_makeFolders_present path.parent _ still, Run.continued,
    (room.again apart bytes).outcome_placing apart next nextBytes isNext]

/-! ### Reading a record that is not there -/

/-- A name that is too long is so on every disk on which the path can be followed that far. -/
theorem walk_nameTooLong (before after : Disk) (keeps : before.KeepsFolders after)
    (folder : Location) (steps : List String)
    (tooLong : before.walk folder steps = .error .nameTooLong) :
    after.walk folder steps = .error .nameTooLong := by
  fun_induction before.walk folder steps with
  | case1 => cases tooLong
  | case2 folder rest inductionHypothesis =>
    rw [walk]
    exact inductionHypothesis tooLong
  | case3 folder step rest notUp isLong =>
    rw [walk_down after folder step rest notUp, if_pos isLong]
  | case4 => cases tooLong
  | case5 folder step rest notUp next notLong isFolder notLast inductionHypothesis =>
    rw [walk_folder after folder step rest notUp notLong (keeps next isFolder)]
    exact inductionHypothesis tooLong
  | case6 => cases tooLong
  | case7 => cases tooLong

theorem locate_nameTooLong (before after : Disk) (keeps : before.KeepsFolders after) (path : Path)
    (location : Location) (text : String) (found : after.locate path = .ok location) :
    before.locate path ≠ .error (.file .nameTooLong text) := by
  intro tooLong
  unfold locate at tooLong found
  split at found
  case isTrue => cases found
  case isFalse noZero =>
    rw [if_neg noZero] at tooLong
    split at found
    case isTrue => cases found
    case isFalse notLong =>
      rw [if_neg notLong] at tooLong
      split at tooLong
      case h_1 => cases tooLong
      case h_2 trouble fails =>
        cases tooLong
        rw [walk_nameTooLong before after keeps _ _ fails] at found
        cases found

/-- Where a record could be stored and no file is, null is read. -/
theorem readRecord_of_lacks (root : Path) (key : String) (probe : Json) (disk : Disk)
    (noFile : disk.file? (placeKey (recordPath root key)) = none)
    (takes : ((storing (recordPath root key) key probe).outcome disk).1 = .ok ()) :
    ((readRecord root key).outcome disk).1 = .ok .null := by
  have keeps := (extends_makeFolders (recordPath root key).parent disk).keepsFolders
  obtain ⟨first, temporary, free, location, made, -, room⟩ :=
    hasRoom_of_storing (recordPath root key) key probe disk _ (Prod.ext takes rfl)
  rw [made] at keeps
  have lacks : disk.has (recordPath root key) = .ok false := by
    unfold has
    cases found : disk.locate (recordPath root key) with
    | ok place =>
      cases (locate_of_keepsFolders _ _ keeps _ _ found).symm.trans room.target
      have noFolder : disk.node? location ≠ some .folder := mt (keeps location) room.noFolder
      rw [← key_of_locate disk _ location found, file?,
        ← node?_eq disk location (below_of_ne_folder disk location noFolder)] at noFile
      dsimp only
      cases here : disk.node? location with
      | none => rfl
      | some node =>
        rw [here] at noFile noFolder
        cases node with
        | file bytes => cases noFile
        | folder => exact absurd rfl noFolder
    | error fault =>
      have short (text : String) := locate_nameTooLong disk first keeps _ location text room.target
      rw [found] at short
      cases fault with
      | file trouble text =>
        cases trouble with
        | nameTooLong => exact absurd rfl (short text)
        | _ => rfl
      | _ => rfl
  rw [outcome_readRecord_eq, lacks]
  rfl

end Disk

/-! ### Storing where nothing fails -/

theorem Memory.outcome_write_eq (key : String) (value : Json) (memory : Memory)
    (takes : memory.refusesWrites = false) :
    (write key value).outcome memory =
      (.ok (), { memory with records := memory.records.put key value }) := by
  obtain ⟨records, refusesReads, refusesWrites⟩ := memory
  cases takes
  rfl

theorem Bucket.outcome_writeRecord_eq (name stem key : String) (value : Json) (bucket : Bucket)
    (bytes : ByteArray) (isBytes : recordBytes value = .ok bytes)
    (installed : bucket.installed = true) (works : bucket.failing = none) :
    ∃ calls, (writeRecord name stem key value).outcome bucket =
      (.ok (), { bucket with
        calls := calls, blobs := bucket.blobs.put (blobName name stem key) bytes }) := by
  obtain ⟨_, blobs, calls, _⟩ := bucket
  cases installed
  cases works
  unfold writeRecord
  rw [isBytes]
  exact ⟨_, rfl⟩

theorem Database.outcome_writeRecord_eq (url table key : String) (value : Json)
    (database : Database) (short : value.hasLongNumber = false)
    (installed : database.installed = true) (works : database.failing = none) :
    ∃ statements, (writeRecord url table key value).outcome database =
      (.ok (), { database with
        statements := statements, rows := database.rows.put key value }) := by
  obtain ⟨_, rows, statements, _⟩ := database
  cases installed
  cases works
  unfold writeRecord
  rw [short]
  exact ⟨_, rfl⟩

/-- What is answered does not depend on the calls before. -/
theorem SameMedia.read_eq {before after : World} (same : SameMedia before after)
    (store : RecordStore) (key : String) :
    ((store.read key).outcome after).1 = ((store.read key).outcome before).1 := by
  cases store with
  | memory => exact congrArg (fun memory => ((Memory.read key).outcome memory).1) same.memory
  | folder root =>
    rw [RecordStore.read, World.onDisk, Run.outcome_within, Run.outcome_within, same.disk]
  | bucket name stem =>
    obtain ⟨calls, sameBucket⟩ := same.bucket
    refine (Bucket.outcome_readRecord_eq name stem key after.bucket).trans ?_
    rw [sameBucket]
    exact (Bucket.outcome_readRecord_eq name stem key before.bucket).symm
  | database url table =>
    obtain ⟨statements, sameDatabase⟩ := same.database
    refine (Database.outcome_readRecord_eq url table key after.database).trans ?_
    rw [sameDatabase]
    exact (Database.outcome_readRecord_eq url table key before.database).symm

namespace RecordStore

/-! ### Stores that work -/

/-- No call of the store fails, and there is room for the record of the key. -/
def Works (store : RecordStore) (key : String) (world : World) : Prop :=
  match store with
  | .memory => world.memory.refusesReads = false ∧ world.memory.refusesWrites = false
  | .folder root => world.disk.failing ≠ some .read ∧
      ((Disk.storing (recordPath root key) key .null).outcome world.disk).1 = .ok ()
  | .bucket _ _ => world.bucket.installed = true ∧ world.bucket.failing = none
  | .database _ _ => world.database.installed = true ∧ world.database.failing = none

variable {store : RecordStore} {key : String} {world : World}

/-- Calls that were made before do not matter. -/
theorem Works.of_sameMedia (works : store.Works key world) {after : World}
    (same : SameMedia world after) : store.Works key after := by
  cases store with
  | memory =>
    show after.memory.refusesReads = false ∧ after.memory.refusesWrites = false
    rw [same.memory]
    exact works
  | folder root =>
    show after.disk.failing ≠ some .read ∧
      ((Disk.storing (recordPath root key) key .null).outcome after.disk).1 = .ok ()
    rw [same.disk]
    exact works
  | bucket name stem =>
    obtain ⟨calls, sameBucket⟩ := same.bucket
    show after.bucket.installed = true ∧ after.bucket.failing = none
    rw [sameBucket]
    exact works
  | database url table =>
    obtain ⟨statements, sameDatabase⟩ := same.database
    show after.database.installed = true ∧ after.database.failing = none
    rw [sameDatabase]
    exact works

/-- A store that works answers what it holds. -/
theorem Works.read_of_holds (works : store.Works key world) {value : Json}
    (holds : store.Holds key value world) : ((store.read key).outcome world).1 = .ok value := by
  cases store with
  | memory =>
    have kept : world.memory.records.get? key = some value := holds
    refine (Memory.outcome_read_eq key world.memory).trans ?_
    rw [works.1, kept]
    rfl
  | folder root =>
    obtain ⟨location, bytes, located, here, stands⟩ := holds
    have working : (world.disk.failing == some .read) = false := beq_eq_false_iff_ne.mpr works.1
    rw [read, World.onDisk, Run.outcome_within,
      Disk.outcome_readRecord root key location bytes world.disk located here, working,
      if_neg Bool.false_ne_true, stands]
  | bucket name stem =>
    obtain ⟨bytes, kept, stands⟩ := holds
    refine (Bucket.outcome_readRecord_eq name stem key world.bucket).trans ?_
    rw [works.1, works.2, kept, ← stands]
    rfl
  | database url table =>
    have kept : world.database.rows.get? key = some value := holds
    refine (Database.outcome_readRecord_eq url table key world.database).trans ?_
    rw [works.1, works.2, kept]
    rfl

/-- A store that works answers null where it holds nothing. -/
theorem Works.read_of_lacks (works : store.Works key world)
    (lacks : world.kept? (store.slot key) = none) :
    ((store.read key).outcome world).1 = .ok .null := by
  cases store with
  | memory =>
    have nothing : world.memory.records.get? key = none := Option.map_eq_none_iff.mp lacks
    refine (Memory.outcome_read_eq key world.memory).trans ?_
    rw [works.1, nothing]
    rfl
  | folder root =>
    rw [read, World.onDisk, Run.outcome_within]
    exact Disk.readRecord_of_lacks root key .null world.disk (Option.map_eq_none_iff.mp lacks)
      works.2
  | bucket name stem =>
    have nothing : world.bucket.blobs.get? (Bucket.blobName name stem key) = none :=
      Option.map_eq_none_iff.mp lacks
    refine (Bucket.outcome_readRecord_eq name stem key world.bucket).trans ?_
    rw [works.1, works.2, nothing]
    rfl
  | database url table =>
    have nothing : world.database.rows.get? key = none := Option.map_eq_none_iff.mp lacks
    refine (Database.outcome_readRecord_eq url table key world.database).trans ?_
    rw [works.1, works.2, nothing]
    rfl

/-- A folder that works takes a record, and another one afterwards. -/
theorem works_folderWrite (root : Path) (key : String) (noSlash : '/' ∉ key.toList) (world : World)
    (works : (RecordStore.folder root).Works key world) (value : Json)
    (short : value.hasLongNumber = false) :
    (((RecordStore.folder root).write key value).outcome world).1 = .ok () ∧
      (RecordStore.folder root).Works key
        (((RecordStore.folder root).write key value).outcome world).2 := by
  rw [write, World.onDisk, Run.outcome_within]
  obtain ⟨sameDisk, sameResult⟩ := outcome_writeRecord root key value world.disk
  have stored : ((Disk.storing (recordPath root key) key value).outcome world.disk).1 = .ok () :=
    Disk.storing_succeeds _ key .null value _ world.disk (recordBytes_eq value short) works.2
  refine ⟨sameResult.mpr stored, ?_, ?_⟩
  · show ((Disk.writeRecord root key value).outcome world.disk).2.failing ≠ some .read
    rw [Disk.keepsFailing_writeRecord root key value world.disk rfl]
    exact works.1
  · show ((Disk.storing (recordPath root key) key .null).outcome
      ((Disk.writeRecord root key value).outcome world.disk).2).1 = .ok ()
    rw [sameDisk]
    exact Disk.storing_again _ key value .null _ _
      (fun number => Disk.temporary_not_record _ root key key number noSlash) world.disk _
      (recordBytes_eq value short) (recordBytes_eq .null rfl) (Prod.ext stored rfl)

/-- A store that works takes every record that its text says all about, and still works then. -/
theorem Works.write (works : store.Works key world) (noSlash : '/' ∉ key.toList) {value : Json}
    (faithful : value.Faithful) :
    ((store.write key value).outcome world).1 = .ok () ∧
      store.Works key ((store.write key value).outcome world).2 := by
  cases store with
  | memory =>
    have stored := Memory.outcome_write_eq key value world.memory works.2
    refine ⟨congrArg Prod.fst stored, ?_⟩
    show ((Memory.write key value).outcome world.memory).2.refusesReads = false ∧
      ((Memory.write key value).outcome world.memory).2.refusesWrites = false
    rw [stored]
    exact works
  | folder root => exact works_folderWrite root key noSlash world works value faithful.short
  | bucket name stem =>
    obtain ⟨calls, stored⟩ := Bucket.outcome_writeRecord_eq name stem key value world.bucket _
      (recordBytes_eq value faithful.short) works.1 works.2
    refine ⟨congrArg Prod.fst stored, ?_⟩
    show ((Bucket.writeRecord name stem key value).outcome world.bucket).2.installed = true ∧
      ((Bucket.writeRecord name stem key value).outcome world.bucket).2.failing = none
    rw [stored]
    exact works
  | database url table =>
    obtain ⟨statements, stored⟩ := Database.outcome_writeRecord_eq url table key value
      world.database faithful.short works.1 works.2
    refine ⟨congrArg Prod.fst stored, ?_⟩
    show ((Database.writeRecord url table key value).outcome world.database).2.installed = true ∧
      ((Database.writeRecord url table key value).outcome world.database).2.failing = none
    rw [stored]
    exact works

end RecordStore

end MarketSignal
