/-
This file says when a store reports as its own refusal whatever keeps it from storing a record. It
always does, except in a folder whose path holds the character zero: nothing can be asked of such a
path, and the failure is none of the file system's that are put into the words of the store.
-/
import MarketSignal.Proofs.Storage.PlainKey

namespace MarketSignal

/-- Whatever fails, the store refuses. -/
abbrev Run.Refuses {State Result : Type} (work : Run State Result) : Prop :=
  work.FailsOnly fun fault => fault.isStorage = true

/-- Whatever fails, the file system refuses. -/
abbrev Run.FileRefuses {State Result : Type} (work : Run State Result) : Prop :=
  work.FailsOnly fun fault => fault.isFile = true

/-! ### Keys of records -/

/-- A plain key that can stand in a path. -/
structure PathKey (key : String) : Prop extends PlainKey key where
  noZero : Char.ofNat 0 ∉ key.toList

theorem pathKey_bookKey : PathKey bookKey := ⟨plainKey_bookKey, by decide⟩

theorem pathKey_assignmentsKey : PathKey assignmentsKey := ⟨plainKey_assignmentsKey, by decide⟩

namespace PathKey

variable {key : String} (isKey : PathKey key)

include isKey

theorem parent_recordPath (root : Path) : (recordPath root key).parent = root := by
  rw [isKey.recordPath_eq, Path.parent, List.dropLast_concat]

theorem hasZero_recordPath (root : Path) : (recordPath root key).HasZero ↔ root.HasZero := by
  have clean : Char.ofNat 0 ∉ (key ++ ".json").toList := by
    rw [String.toList_append, List.mem_append, not_or]
    exact ⟨isKey.noZero, by decide⟩
  rw [isKey.recordPath_eq]
  constructor
  · rintro ⟨step, member, zero⟩
    rcases List.mem_append.mp member with above | isName
    · exact ⟨step, above, zero⟩
    · rw [List.mem_singleton.mp isName] at zero
      exact absurd zero clean
  · rintro ⟨step, member, zero⟩
    exact ⟨step, List.mem_append_left _ member, zero⟩

theorem not_hasZero_temporaryPath (folder : Path) (number : Nat) (noZero : ¬ folder.HasZero) :
    ¬ (Disk.temporaryPath folder key number).HasZero := by
  rw [Disk.temporaryPath_eq folder key number isKey.noSlash]
  rintro ⟨step, member, zero⟩
  rcases List.mem_append.mp member with above | isName
  · rcases List.mem_append.mp (Disk.settled_mem _ step above) with started | further
    · have clean : ∀ step ∈ Disk.start folder, Char.ofNat 0 ∉ step.toList := by
        unfold Disk.start
        cases folder.anchor <;> decide
      exact clean step started zero
    · exact noZero ⟨step, further, zero⟩
  · rw [List.mem_singleton.mp isName] at zero
    rcases Disk.mem_temporaryName key number _ zero with isRecord | digit | ending
    · exact absurd isRecord isKey.noZero
    · exact absurd digit (by decide)
    · exact absurd ending (by decide)

end PathKey

/-! ### Folders -/

namespace Disk

theorem fileRefuses_attempt (call : DiskCall) (path : Path) : (attempt call path).FileRefuses := by
  refine Run.failsOnly_bind Run.failsOnly_get fun _ disk _ => ?_
  split
  · exact Run.failsOnly_throw _ rfl
  · exact Run.failsOnly_pure _

section

variable (path : Path) (noZero : ¬ path.HasZero)

include noZero

theorem fileRefuses_locate (disk : Disk) :
    (Run.ofExcept (disk.locate path) : Run Disk Location).FileRefuses :=
  Run.failsOnly_ofExcept _ fun fault fails => isFile_of_locate disk path noZero fault fails

/-- Work on what is at the end of a path. -/
theorem fileRefuses_attempt_locate {Result : Type} (call : DiskCall)
    (work : Disk → Location → Run Disk Result)
    (refuses : ∀ disk location, (work disk location).FileRefuses) :
    (attempt call path >>= fun _ => get >>= fun now =>
      Run.ofExcept (now.locate path) >>= work now).FileRefuses :=
  Run.failsOnly_bind (fileRefuses_attempt call path) fun _ _ _ =>
    Run.failsOnly_bind Run.failsOnly_get fun _ disk _ =>
      Run.failsOnly_bind (fileRefuses_locate path noZero disk) fun _ location _ =>
        refuses disk location

theorem fileRefuses_writeBytes (bytes : ByteArray) : (writeBytes path bytes).FileRefuses := by
  refine fileRefuses_attempt_locate path noZero .write _ fun disk location => ?_
  split
  · exact Run.failsOnly_throw _ rfl
  · exact Run.failsOnly_set _

theorem fileRefuses_makeFolder : (makeFolder path).FileRefuses := by
  refine fileRefuses_attempt_locate path noZero .makeFolder _ fun disk location => ?_
  split
  · exact Run.failsOnly_throw _ rfl
  · exact Run.failsOnly_set _

theorem fileRefuses_makeFolderOr (ifAbsent : Fault → Run Disk Unit)
    (refuses : ∀ fault, fault.isFile = true → (ifAbsent fault).FileRefuses) :
    (makeFolderOr path ifAbsent).FileRefuses := by
  refine Run.failsOnly_tryCatch (fileRefuses_makeFolder path noZero) fun fault isFile => ?_
  split
  · exact refuses _ isFile
  · refine Run.failsOnly_bind Run.failsOnly_get fun _ disk _ => ?_
    split
    · exact Run.failsOnly_pure _
    · exact Run.failsOnly_throw _ isFile
  · exact Run.failsOnly_throw _ isFile

theorem fileRefuses_makeFolders : (makeFolders path).FileRefuses := by
  have upTo (height : Nat) (path : Path) (noZero : ¬ path.HasZero) :
      (makeFoldersUpTo height path).FileRefuses := by
    induction height generalizing path with
    | zero =>
      exact fileRefuses_makeFolderOr path noZero _ fun fault isFile => Run.failsOnly_throw _ isFile
    | succ height inductionHypothesis =>
      refine fileRefuses_makeFolderOr path noZero _ fun fault isFile => ?_
      have noZeroAbove : ¬ path.parent.HasZero := fun ⟨step, member, zero⟩ =>
        noZero ⟨step, List.mem_of_mem_dropLast member, zero⟩
      have above : (makeFoldersUpTo height path.parent >>= fun _ =>
          makeFolderOr path fun fault => throw fault).FileRefuses :=
        Run.failsOnly_bind (inductionHypothesis path.parent noZeroAbove) fun _ _ _ =>
          fileRefuses_makeFolderOr path noZero _ fun fault isFile => Run.failsOnly_throw _ isFile
      dsimp only
      split
      · exact Run.failsOnly_bind (Run.failsOnly_throw _ isFile) fun _ _ _ => above
      · exact above
  exact upTo _ path noZero

theorem fileRefuses_replaceFile (source : Path) (noZeroThere : ¬ source.HasZero) :
    (replaceFile source path).FileRefuses := by
  refine Run.failsOnly_bind (fileRefuses_attempt _ _) fun _ _ _ =>
    Run.failsOnly_bind Run.failsOnly_get fun _ disk _ =>
      Run.failsOnly_bind (fileRefuses_locate source noZeroThere disk) fun _ origin _ =>
        Run.failsOnly_bind (fileRefuses_locate path noZero disk) fun _ location _ => ?_
  split
  · exact Run.failsOnly_throw _ rfl
  · exact Run.failsOnly_throw _ rfl
  · exact Run.failsOnly_set _

end

theorem fileRefuses_createTemporaryFrom (folder : Path) (record : String) (tries number : Nat)
    (noZero : ∀ number, ¬ (temporaryPath folder record number).HasZero) :
    (createTemporaryFrom folder record tries number).FileRefuses := by
  induction tries generalizing number with
  | zero => exact Run.failsOnly_throw _ rfl
  | succ tries inductionHypothesis =>
    refine fileRefuses_attempt_locate _ (noZero number) .create _ fun disk location => ?_
    split
    · exact inductionHypothesis (number + 1)
    · exact Run.failsOnly_bind (Run.failsOnly_set _) fun _ _ _ => Run.failsOnly_pure _

theorem exists_temporaryPath (folder temporary : Path) (record : String) (disk : Disk)
    (created : ((createTemporary folder record).outcome disk).1 = .ok temporary) :
    ∃ number, temporary = temporaryPath folder record number := by
  rw [createTemporary, Run.outcome_bind, Run.outcome_get, Run.continued] at created
  rcases outcome_createTemporaryFrom folder record (disk.nodes.size + 1) 0 disk with
    ⟨fault, fails⟩ | ⟨path, _, isTemporary, -, -, made⟩
  · rw [fails] at created
    cases created
  · rw [made] at created
    cases created
    exact isTemporary

/-- A folder without the character zero in its path refuses in its own words. -/
theorem refuses_writeRecord {key : String} (isKey : PathKey key) (root : Path)
    (noZero : ¬ root.HasZero) (value : Json) (short : value.hasLongNumber = false) :
    (writeRecord root key value).Refuses := by
  have parent := isKey.parent_recordPath root
  have storing : (storing (recordPath root key) key value).FileRefuses := by
    unfold storing
    rw [parent]
    refine Run.failsOnly_bind (fileRefuses_makeFolders root noZero) fun _ _ _ =>
      Run.failsOnly_bind ?_ fun before temporary created =>
        Run.failsOnly_bind ?_ fun _ bytes _ => ?_
    · exact Run.failsOnly_bind Run.failsOnly_get fun _ disk _ =>
        fileRefuses_createTemporaryFrom root key _ _
          (isKey.not_hasZero_temporaryPath root · noZero)
    · rw [recordBytes_eq value short]
      exact Run.failsOnly_pure _
    · obtain ⟨number, rfl⟩ := exists_temporaryPath root temporary key before created
      have noZeroHere := isKey.not_hasZero_temporaryPath root number noZero
      exact Run.failsOnly_bind (fileRefuses_writeBytes _ noZeroHere bytes) fun _ _ _ =>
        fileRefuses_replaceFile _ (mt (isKey.hasZero_recordPath root).mp noZero) _ noZeroHere
  refine Run.failsOnly_tryCatch storing fun fault isFile => Run.failsOnly_throw _ ?_
  rw [if_pos isFile]
  rfl

/-- A folder with the character zero in its path is not made. -/
theorem outcome_makeFolders_hasZero (path : Path) (zero : path.HasZero) (disk : Disk) :
    (makeFolders path).outcome disk =
      (.error (if disk.failing == some .makeFolder then .file .device path.text else .zeroInPath),
        disk) := by
  have fails : (makeFolder path).outcome disk =
      (.error (if disk.failing == some .makeFolder then .file .device path.text else .zeroInPath),
        disk) := by
    unfold makeFolder
    rcases outcome_attempt_bind .makeFolder path _ disk with ⟨failing, fails⟩ | ⟨working, goesOn⟩
    · rw [fails, failing]
      rfl
    · rw [goesOn, working, Run.outcome_bind, Run.outcome_get, Run.continued,
        locate_hasZero disk path zero]
      rfl
  have noFolder : disk.hasFolder path = false := by
    rw [hasFolder, locate_hasZero disk path zero]
  have present (text : String) : (if disk.failing == some .makeFolder then
      Fault.file .device path.text else .zeroInPath) ≠ .file .absent text := by
    split <;> exact fun same => by cases same
  rw [outcome_makeFolders_fails path disk fails present, noFolder, Bool.and_false,
    if_neg Bool.false_ne_true]

/-- Nor is a record stored in it. -/
theorem writeRecord_hasZero {key : String} (isKey : PathKey key) (root : Path)
    (zero : root.HasZero) (value : Json) (disk : Disk) :
    ∃ text, ((writeRecord root key value).outcome disk).1 =
      .error (if disk.failing == some .makeFolder then .storage text else .zeroInPath) := by
  have steps : (storing (recordPath root key) key value).outcome disk =
      (.error (if disk.failing == some .makeFolder then .file .device root.text else .zeroInPath),
        disk) := by
    unfold storing
    rw [isKey.parent_recordPath, Run.outcome_bind, outcome_makeFolders_hasZero root zero disk]
    rfl
  refine ⟨"Unable to write record '" ++ key ++ "' to " ++ (recordPath root key).text ++ ".", ?_⟩
  show ((refusingAs _ (storing (recordPath root key) key value)).outcome disk).1 = _
  rw [outcome_refusingAs, steps]
  cases disk.failing == some .makeFolder <;> rfl

end Disk

/-! ### The other stores -/

theorem Memory.refuses_write (key : String) (value : Json) : (Memory.write key value).Refuses := by
  refine Run.failsOnly_bind Run.failsOnly_get fun _ memory _ => ?_
  split
  · exact Run.failsOnly_bind (Run.failsOnly_throw _ rfl) fun _ _ _ => Run.failsOnly_set _
  · exact Run.failsOnly_set _

namespace Bucket

theorem refuses_perform (call : BlobCall) (name text : String) :
    (perform call name (.storage text)).Refuses := by
  refine Run.failsOnly_bind Run.failsOnly_get fun _ bucket _ =>
    Run.failsOnly_bind (Run.failsOnly_set _) fun _ _ _ => ?_
  split
  · exact Run.failsOnly_throw _ rfl
  · exact Run.failsOnly_pure _

theorem refuses_writeRecord (name stem key : String) (value : Json) :
    (writeRecord name stem key value).Refuses := by
  refine Run.failsOnly_bind (Run.failsOnly_bind Run.failsOnly_get fun _ bucket _ => ?_)
    fun _ _ _ => ?_
  · split
    · exact Run.failsOnly_throw _ rfl
    · exact Run.failsOnly_pure _
  · cases recordBytes value with
    | error fault => exact Run.failsOnly_throw _ rfl
    | ok bytes =>
      exact Run.failsOnly_bind (refuses_perform _ _ _) fun _ _ _ => Run.failsOnly_modify _

end Bucket

namespace Database

theorem refuses_say (statement : Statement) (kind : Option StatementKind) (text : String) :
    (say statement kind (.storage text)).Refuses := by
  refine Run.failsOnly_bind Run.failsOnly_get fun _ database _ =>
    Run.failsOnly_bind (Run.failsOnly_set _) fun _ _ _ => ?_
  split
  · exact Run.failsOnly_throw _ rfl
  · exact Run.failsOnly_pure _

theorem refuses_session {Result : Type} (url table text : String) (work : Run Database Result)
    (refuses : work.Refuses) : (session url table (.storage text) work).Refuses := by
  have guarded : (say (.createTable table) (some .create) (.storage text) >>= fun _ =>
      tell .commit >>= fun _ => work).Refuses :=
    Run.failsOnly_bind (refuses_say _ _ _) fun _ _ _ =>
      Run.failsOnly_bind (Run.failsOnly_modify _) fun _ _ _ => refuses
  have rest : (say (.connect url) (some .connect) (.storage "Unable to connect to Postgres.") >>=
      fun _ => tryCatch
        (say (.createTable table) (some .create) (.storage text) >>= fun _ =>
          tell .commit >>= fun _ => work)
        (fun fault => tell .close >>= fun _ => throw fault) >>= fun result =>
          tell .close >>= fun _ => (pure result : Run Database Result)).Refuses := by
    refine Run.failsOnly_bind (refuses_say _ _ _) fun _ _ _ => Run.failsOnly_bind
      (Run.failsOnly_tryCatch guarded fun fault isStorage => ?_) fun _ result _ =>
        Run.failsOnly_bind (Run.failsOnly_modify _) fun _ _ _ => Run.failsOnly_pure _
    exact Run.failsOnly_bind (Run.failsOnly_modify _) fun _ _ _ =>
      Run.failsOnly_throw fault isStorage
  refine Run.failsOnly_bind Run.failsOnly_get fun _ database _ => ?_
  cases database.installed with
  | false => exact Run.failsOnly_bind (Run.failsOnly_throw _ rfl) fun _ _ _ => rest
  | true => exact rest

theorem refuses_writeRecord (url table key : String) (value : Json)
    (short : value.hasLongNumber = false) : (writeRecord url table key value).Refuses := by
  refine refuses_session _ _ _ _ (Run.failsOnly_bind (refuses_say _ _ _) fun _ _ _ => ?_)
  rw [short]
  exact Run.failsOnly_bind (Run.failsOnly_modify _) fun _ _ _ => Run.failsOnly_modify _

end Database

/-! ### All stores -/

namespace RecordStore

/-- The store is a folder whose path holds the character zero, and making it is not refused
outright. -/
def Unwritable (store : RecordStore) (world : World) : Prop :=
  ∃ root, store = .folder root ∧ root.HasZero ∧ world.disk.failing ≠ some .makeFolder

variable (store : RecordStore) {key : String} (isKey : PathKey key) (value : Json) (world : World)

include isKey

/-- Whatever keeps a store from taking a value that can be written at all, it refuses, unless its
path holds the character zero. -/
theorem isStorage_of_write (short : value.hasLongNumber = false) (fault : Fault)
    (writable : ¬ store.Unwritable world)
    (fails : ((store.write key value).outcome world).1 = .error fault) :
    fault.isStorage = true := by
  cases store with
  | memory => exact Memory.refuses_write key value world.memory fault fails
  | folder root =>
    by_cases zero : root.HasZero
    · have failing : world.disk.failing = some .makeFolder := by
        by_contra working
        exact writable ⟨root, rfl, zero, working⟩
      obtain ⟨text, refused⟩ := Disk.writeRecord_hasZero isKey root zero value world.disk
      rw [failing] at refused
      cases (show Except.error fault = _ from fails.symm.trans refused)
      rfl
    · exact Disk.refuses_writeRecord isKey root zero value short world.disk fault fails
  | bucket name stem => exact Bucket.refuses_writeRecord name stem _ value world.bucket fault fails
  | database url table =>
    exact Database.refuses_writeRecord url table _ value short world.database fault fails

theorem write_unwritable (unwritable : store.Unwritable world) :
    ((store.write key value).outcome world).1 = .error .zeroInPath := by
  obtain ⟨root, rfl, zero, working⟩ := unwritable
  obtain ⟨text, fails⟩ := Disk.writeRecord_hasZero isKey root zero value world.disk
  rw [if_neg (by simpa using working)] at fails
  exact fails

end RecordStore

end MarketSignal
