/-
This file says what is left on the disk when a record cannot be stored in a folder. Up to the
temporary file the work only makes folders, so nothing is left if it stops there. From then on the
work never takes the temporary file back: the value may have no text, the file may not take the
bytes, or it may not take the place of the record, and each time the temporary file stays, empty or
with the bytes in it. All other files are as they were in any case.
-/
import MarketSignal.Proofs.Storage.Working

namespace MarketSignal

namespace Disk

/-! ### How far the work gets -/

/-- Storing a record gets as far as its temporary file. -/
def Begins (path : Path) (record : String) (temporary : Path) (disk : Disk) : Prop :=
  ((makeFolders path.parent >>= fun _ => createTemporary path.parent record).outcome disk).1 =
    .ok temporary

/-- What is in the temporary file once it was written as far as it can be. -/
def leftBytes (value : Json) (disk : Disk) : ByteArray :=
  match recordBytes value with
  | .ok bytes => if disk.failing = some .write then ByteArray.empty else bytes
  | .error _ => ByteArray.empty

/-- One file is new, and every other file is as it was. -/
structure Gains (before after : Disk) (name : String) (bytes : ByteArray) : Prop where
  isNew : before.file? name = none
  present : after.file? name = some bytes
  others : ∀ other, other ≠ name → after.file? other = before.file? other

/-- A temporary file was made where nothing was. -/
structure Makes (folder : Path) (record : String) (temporary : Path) (free : Location)
    (disk : Disk) : Prop where
  isTemporary : ∃ number, temporary = temporaryPath folder record number
  isFree : disk.locate temporary = .ok free
  nothing : disk.node? free = none
  made : (createTemporary folder record).outcome disk =
    (.ok temporary, disk.put free (.file ByteArray.empty))

/-- A temporary file cannot be made, and then the disk is as it was, or it is made. -/
theorem createTemporary_makes (folder : Path) (record : String) (disk : Disk) :
    (∃ fault, (createTemporary folder record).outcome disk = (.error fault, disk)) ∨
      ∃ temporary free, disk.Makes folder record temporary free := by
  rw [outcome_createTemporary]
  rcases outcome_createTemporaryFrom folder record (disk.nodes.size + 1) 0 disk with
    fails | ⟨temporary, free, isTemporary, isFree, nothing, made⟩
  · exact Or.inl fails
  · exact Or.inr ⟨temporary, free, isTemporary, isFree, nothing,
      (outcome_createTemporary folder record disk).trans made⟩

/-! ### Stopping after the temporary file was made -/

theorem gains_put (disk : Disk) (free : Location) (bytes : ByteArray)
    (nothing : disk.node? free = none) :
    disk.Gains (disk.put free (.file bytes)) (key free) bytes := by
  refine ⟨?_, ?_, fun other apart => ?_⟩
  · rw [file?, get?_key_of_free disk free nothing]
  · rw [file?, put, Table.get?_put_self]
  · exact file?_of_sameNode (get?_put_other disk free _ other apart.symm)

/-- What is written over the new file is in it. -/
theorem Gains.overwritten {before after : Disk} {place : Location} {old : ByteArray}
    (gains : before.Gains after (key place) old) (bytes : ByteArray) :
    before.Gains (after.put place (.file bytes)) (key place) bytes := by
  refine ⟨gains.isNew, ?_, fun other apart => ?_⟩
  · rw [file?, put, Table.get?_put_self]
  · rw [file?_of_sameNode (get?_put_other after place _ other apart.symm), gains.others other apart]

/-- Where storing fails although the temporary file was made, that file stays. -/
theorem Makes.gains_of_placing_fails {path temporary : Path} {record : String} {free : Location}
    {disk : Disk} (makes : disk.Makes path.parent record temporary free) (value : Json)
    (fault : Fault) (fails : ((placing path record value).outcome disk).1 = .error fault) :
    disk.Gains ((placing path record value).outcome disk).2 (key free) (leftBytes value disk) := by
  have empty := gains_put disk free ByteArray.empty makes.nothing
  unfold placing at fails ⊢
  rw [Run.outcome_bind, makes.made, Run.continued, Run.outcome_bind,
    Run.outcome_ofExcept] at fails ⊢
  unfold leftBytes
  revert fails
  cases recordBytes value with
  | error stopped => exact fun _ => empty
  | ok bytes =>
    intro fails
    rw [Run.continued, Run.outcome_bind] at fails ⊢
    dsimp only
    by_cases writeFails : disk.failing = some .write
    · rw [if_pos writeFails]
      rcases outcome_attempt_bind .write temporary _ (disk.put free (.file ByteArray.empty)) with
        ⟨-, stops⟩ | ⟨working, -⟩
      · rw [writeBytes, stops]
        exact empty
      · exact absurd writeFails (beq_eq_false_iff_ne.mp working)
    · rw [if_neg writeFails]
      rw [outcome_writeBytes_made makes.nothing bytes temporary writeFails makes.isFree,
        Run.continued] at fails ⊢
      rcases outcome_replaceFile temporary path (disk.filled free bytes) with
        ⟨_, stops⟩ | ⟨origin, location, node, can⟩
      · rw [stops]
        exact empty.overwritten bytes
      · rw [can.outcome] at fails
        cases fails

/-! ### Stopping anywhere -/

/-- Where storing fails, it left no file because it made none, or it left the one that it made. -/
theorem storing_fails (path : Path) (record : String) (value : Json) (disk : Disk) (fault : Fault)
    (fails : ((storing path record value).outcome disk).1 = .error fault) :
    ((∀ temporary, ¬ Begins path record temporary disk) ∧
        ∀ name, ((storing path record value).outcome disk).2.file? name = disk.file? name) ∨
      ∃ temporary number, Begins path record temporary disk ∧
        temporary = temporaryPath path.parent record number ∧
        disk.Gains ((storing path record value).outcome disk).2 (placeKey temporary)
          (leftBytes value disk) := by
  have folders := file?_makeFolders path.parent disk
  have sameCall := keepsFailing_makeFolders path.parent disk rfl
  have steps : storing path record value =
      makeFolders path.parent >>= fun _ => placing path record value := rfl
  unfold Begins
  rw [steps, Run.outcome_bind] at fails ⊢
  rw [Run.outcome_bind]
  revert fails folders sameCall
  obtain ⟨stopped | _, first⟩ := (makeFolders path.parent).outcome disk
  · intro _ folders _
    refine Or.inl ⟨fun temporary begins => ?_, folders⟩
    cases begins
  intro fails folders sameCall
  rw [Run.continued] at fails ⊢
  rw [Run.continued]
  rcases createTemporary_makes path.parent record first with
    ⟨stopped, stops⟩ | ⟨temporary, free, makes⟩
  · rw [stops, placing, Run.outcome_bind, stops]
    refine Or.inl ⟨fun temporary begins => ?_, folders⟩
    cases begins
  · obtain ⟨number, isTemporary⟩ := makes.isTemporary
    have gains := makes.gains_of_placing_fails value fault fails
    rw [key_of_locate first temporary free makes.isFree] at gains
    refine Or.inr ⟨temporary, number, by rw [makes.made], isTemporary, ?_, ?_, fun name apart => ?_⟩
    · rw [← folders, gains.isNew]
    · rw [gains.present, leftBytes, leftBytes, sameCall]
    · rw [gains.others name apart, folders]

/-- A record that could not be stored left all files as they were exactly if not even its temporary
file was made. Otherwise the temporary file is left, in the folder of the record, with what was
written to it, and all other files are as they were. -/
theorem writeRecord_leaves (root : Path) (key : String) (value : Json) (disk : Disk) (fault : Fault)
    (fails : ((writeRecord root key value).outcome disk).1 = .error fault) :
    let path := recordPath root key
    let after := ((writeRecord root key value).outcome disk).2
    ((∀ name, after.file? name = disk.file? name) ↔
        ∀ temporary, ¬ Begins path key temporary disk) ∧
      ∀ temporary, Begins path key temporary disk →
        (∃ number, temporary = temporaryPath path.parent key number) ∧
          disk.Gains after (placeKey temporary) (leftBytes value disk) := by
  intro path after
  obtain ⟨sameDisk, sameResult⟩ := RecordStore.outcome_writeRecord root key value disk
  have stops : ∃ fault, ((storing path key value).outcome disk).1 = .error fault := by
    cases result : ((storing path key value).outcome disk).1 with
    | error fault => exact ⟨fault, rfl⟩
    | ok _ => cases (sameResult.mpr result).symm.trans fails
  obtain ⟨stopped, stops⟩ := stops
  have isAfter : after = ((storing path key value).outcome disk).2 := sameDisk
  rw [isAfter]
  rcases storing_fails path key value disk stopped stops with
    ⟨never, same⟩ | ⟨temporary, number, begins, isTemporary, gains⟩
  · exact ⟨iff_of_true same never, fun temporary begins => absurd begins (never temporary)⟩
  · refine ⟨iff_of_false (fun same => ?_) fun never => never temporary begins, ?_⟩
    · have present := gains.present
      rw [same, gains.isNew] at present
      cases present
    · intro other alsoBegins
      cases Except.ok.inj (begins.symm.trans alsoBegins)
      exact ⟨⟨number, isTemporary⟩, gains⟩

/-! ### A folder in the place of a record -/

/-- A folder of records with another folder where the file of the record `k` would be. -/
def blockedDisk : Disk :=
  ⟨Table.ofEntries (fresh.nodes.entries ++
    [("work/data", .folder), ("work/data/k.json", .folder)]), none⟩

theorem writeRecord_blocked :
    ∃ fault, ((writeRecord ⟨.here, ["data"]⟩ "k" (.int 1)).outcome blockedDisk).1 =
      .error fault :=
  exists_error_of_toOption (by decide +kernel)

/-- The folder in its place keeps the record from being stored, and the temporary file is left with
the bytes in it. -/
theorem writeRecord_leaves_blocked :
    ∃ fault, ((writeRecord ⟨.here, ["data"]⟩ "k" (.int 1)).outcome blockedDisk).1 = .error fault ∧
      ∃ temporary, Begins (recordPath ⟨.here, ["data"]⟩ "k") "k" temporary blockedDisk ∧
        blockedDisk.Gains ((writeRecord ⟨.here, ["data"]⟩ "k" (.int 1)).outcome blockedDisk).2
          (placeKey temporary) (leftBytes (.int 1) blockedDisk) := by
  obtain ⟨fault, fails⟩ := writeRecord_blocked
  have begins : Begins (recordPath ⟨.here, ["data"]⟩ "k") "k"
      (temporaryPath ⟨.here, ["data"]⟩ "k" 0) blockedDisk :=
    eq_ok_of_toOption (by decide +kernel)
  obtain ⟨-, gains⟩ := (writeRecord_leaves _ _ _ _ fault fails).2 _ begins
  exact ⟨fault, fails, _, begins, gains⟩

/-- A record that cannot be stored leaves a file where none was. -/
theorem writeRecord_leaves_temporary :
    (∃ fault, ((writeRecord ⟨.here, ["data"]⟩ "k" (.int 1)).outcome blockedDisk).1 =
        .error fault) ∧
      blockedDisk.file? "work/data/.k.00000000.tmp" = none ∧
      ((writeRecord ⟨.here, ["data"]⟩ "k" (.int 1)).outcome blockedDisk).2.file?
        "work/data/.k.00000000.tmp" = some "1".toUTF8 :=
  ⟨writeRecord_blocked, by decide +kernel, by decide +kernel⟩

end Disk

end MarketSignal
