/-
This file says on what it depends how a read ends: on what fails while reading, and on what is in
the slot of the record. For a folder it also matters whether the folder itself is there. Then a path
into the folder leads to the same place however the disk grows, and work on one record is not
noticed when another one is read.
-/
import MarketSignal.Proofs.Storage.Durability

namespace MarketSignal

/-! ### Following a path into a folder -/

namespace Disk

theorem walk_down (disk : Disk) (folder : Location) (step : String) (rest : List String)
    (notUp : step ≠ "..") :
    disk.walk folder (step :: rest) =
      if nameLimit < step.utf8ByteSize then .error .nameTooLong
      else
        match rest, disk.node? (folder ++ [step]) with
        | [], _ => .ok (folder ++ [step])
        | _, some .folder => disk.walk (folder ++ [step]) rest
        | _, some (.file _) => .error .notFolder
        | _, none => .error .absent := by
  rw [walk.eq_def]
  split
  case h_1 same => cases same
  case h_2 same => exact absurd (List.cons.inj same).1 notUp
  case h_3 same =>
    cases same
    rfl

/-- A step to a folder leads on from there. -/
theorem walk_folder (disk : Disk) (folder : Location) (step : String) (rest : List String)
    (notUp : step ≠ "..") (notLong : ¬ nameLimit < step.utf8ByteSize)
    (isFolder : disk.node? (folder ++ [step]) = some .folder) :
    disk.walk folder (step :: rest) = disk.walk (folder ++ [step]) rest := by
  rw [walk_down disk folder step rest notUp, if_neg notLong, isFolder]
  cases rest <;> rfl

/-- More steps lead on from the folder that the steps before lead to. -/
theorem walk_append (disk : Disk) (folder location : Location) (steps more : List String)
    (found : disk.walk folder steps = .ok location)
    (isFolder : disk.node? location = some .folder) :
    disk.walk folder (steps ++ more) = disk.walk location more := by
  fun_induction disk.walk folder steps with
  | case1 folder =>
    cases found
    rfl
  | case2 folder rest inductionHypothesis =>
    rw [List.cons_append, walk]
    exact inductionHypothesis found
  | case3 => cases found
  | case4 folder step notUp next notLong =>
    have isNext : next = location := Except.ok.inj found
    rw [← isNext] at isFolder ⊢
    exact walk_folder disk folder step more notUp notLong isFolder
  | case5 folder step rest notUp next notLong isFolder notLast inductionHypothesis =>
    rw [List.cons_append, ← inductionHypothesis found]
    exact walk_folder disk folder step _ notUp notLong isFolder
  | case6 => cases found
  | case7 => cases found

theorem locate_of_hasFolder (disk : Disk) (root : Path) (present : disk.hasFolder root = true) :
    ∃ location, disk.locate root = .ok location ∧ disk.node? location = some .folder := by
  unfold hasFolder at present
  split at present
  case h_1 location found =>
    refine ⟨location, found, ?_⟩
    split at present
    case h_1 isFolder => exact isFolder
    case h_2 => cases present
  case h_2 => cases present

theorem hasFolder_of_keepsFolders (before after : Disk) (keeps : before.KeepsFolders after)
    (root : Path) (present : before.hasFolder root = true) : after.hasFolder root = true := by
  obtain ⟨location, found, isFolder⟩ := locate_of_hasFolder before root present
  rw [hasFolder, locate_of_keepsFolders before after keeps root location found]
  dsimp only
  rw [keeps location isFolder]

/-- What can be located is where the steps of the path lead. -/
theorem walk_of_locate (disk : Disk) (path : Path) (location : Location)
    (found : disk.locate path = .ok location) :
    disk.walk (start path) path.steps = .ok location := by
  unfold locate at found
  split at found
  · cases found
  · split at found
    · cases found
    · split at found
      case h_1 reached isReached => exact isReached.trans (Except.ok.inj found ▸ rfl)
      case h_2 => cases found

/-- A path into a folder leads to the same place as long as no folder vanishes. -/
theorem locate_in_folder (before after : Disk) (keeps : before.KeepsFolders after) (root : Path)
    (name : String) (present : before.hasFolder root = true) :
    after.locate ⟨root.anchor, root.steps ++ [name]⟩ =
      before.locate ⟨root.anchor, root.steps ++ [name]⟩ := by
  obtain ⟨location, located, isFolder⟩ := locate_of_hasFolder before root present
  have found := walk_of_locate before root location located
  have single (disk : Disk) : disk.walk location [name] = Disk.fresh.walk location [name] := by
    by_cases up : name = ".."
    · rw [up, walk, walk, walk, walk]
    · simp only [walk]
  have same : after.walk (start root) (root.steps ++ [name]) =
      before.walk (start root) (root.steps ++ [name]) := by
    rw [walk_append before _ location _ [name] found isFolder, walk_append after _ location _ [name]
      (walk_of_keepsFolders before after keeps _ _ _ found) (keeps location isFolder),
      single after, single before]
  have starts : start ⟨root.anchor, root.steps ++ [name]⟩ = start root := rfl
  rw [locate, locate, starts, same]

/-! ### Storing a record in a folder that is there -/

/-- Where the folder is there it need not be made, even if that would fail. -/
theorem outcome_makeFolders_present (path : Path) (disk : Disk)
    (present : disk.hasFolder path = true) :
    (makeFolders path).outcome disk = (.ok (), disk) := by
  obtain ⟨location, located, isFolder⟩ := locate_of_hasFolder disk path present
  have refused : ∃ trouble, trouble ≠ .absent ∧
      (makeFolder path).outcome disk = (.error (.file trouble path.text), disk) := by
    unfold makeFolder
    rcases outcome_attempt_bind .makeFolder path _ disk with ⟨-, fails⟩ | ⟨-, goesOn⟩
    · exact ⟨.device, by decide, fails⟩
    · rw [goesOn, Run.outcome_bind, Run.outcome_get, Run.continued, located, Run.outcome_bind,
        Run.outcome_ofExcept, Run.continued, isFolder]
      exact ⟨.occupied, by decide, rfl⟩
  obtain ⟨trouble, other, fails⟩ := refused
  rw [outcome_makeFolders_fails path disk fails fun _ same => other (Fault.file.inj same).1,
    present]
  rfl

theorem node?_of_sameNode {before after : Disk} {location : Location}
    (same : after.nodes.get? (key location) = before.nodes.get? (key location)) :
    after.node? location = before.node? location := by
  cases location with
  | nil => rfl
  | cons step rest => exact same

/-- Storing a record makes its folder first. -/
theorem storing_eq (root : Path) (record : String) (plain : PlainKey record) (value : Json) :
    storing (recordPath root record) record value =
      makeFolders root >>= fun _ => placing (recordPath root record) record value := by
  have parent : (recordPath root record).parent = root := by
    rw [plain.recordPath_eq, Path.parent, List.dropLast_concat]
  show (makeFolders (recordPath root record).parent >>= fun _ => placing _ record value) = _
  rw [parent]

/-- Where making the folder changes nothing under a key that is not one of a temporary file, nor
does storing a record, unless it succeeds and the key is its own. -/
theorem get?_storing (root : Path) (record name : String) (plain : PlainKey record) (value : Json)
    (disk : Disk)
    (made : ((makeFolders root).outcome disk).2.nodes.get? name = disk.nodes.get? name)
    (noTemporary : ¬ IsTemporary (recordPath root record) record name) :
    ((storing (recordPath root record) record value).outcome disk).2.nodes.get? name =
        disk.nodes.get? name ∨
      name = placeKey (recordPath root record) ∧
        ((storing (recordPath root record) record value).outcome disk).1 = .ok () := by
  rw [storing_eq root record plain value, Run.outcome_bind]
  revert made
  obtain ⟨fault | _, first⟩ := (makeFolders root).outcome disk
  · exact Or.inl
  · intro made
    refine (get?_placing _ record value first name fun temporary =>
      noTemporary temporary.1).imp_left fun same => same.trans made

theorem keepsFolders_writeRecord (root : Path) (key : String) (value : Json) (disk : Disk) :
    disk.KeepsFolders ((writeRecord root key value).outcome disk).2 := by
  rw [(RecordStore.outcome_writeRecord root key value disk).1]
  rcases outcome_storing (recordPath root key) key value disk with
    ⟨_, after, failed, keeps⟩ | ⟨_, _, after, -, stored, -, -, keeps⟩
  · rw [failed]
    exact keeps.folders
  · rw [stored]
    exact keeps.folders

/-- Where making the folder leaves the file of a record alone, so does storing another one, and so
does a failed attempt to store the record itself. -/
theorem get?_writeRecord (root : Path) (key other : String) (plain : PlainKey key)
    (plainOther : PlainKey other) (value : Json) (disk : Disk)
    (made : ((makeFolders root).outcome disk).2.nodes.get? (placeKey (recordPath root other)) =
      disk.nodes.get? (placeKey (recordPath root other)))
    (spared : key ≠ other ∨ ((writeRecord root key value).outcome disk).1 ≠ .ok ()) :
    ((writeRecord root key value).outcome disk).2.nodes.get? (placeKey (recordPath root other)) =
      disk.nodes.get? (placeKey (recordPath root other)) := by
  obtain ⟨sameDisk, sameResult⟩ := RecordStore.outcome_writeRecord root key value disk
  rw [sameDisk]
  have noTemporary : ¬ IsTemporary (recordPath root key) key (placeKey (recordPath root other)) :=
    fun ⟨number, same⟩ => temporary_not_record _ root key other number plain.noSlash same.symm
  refine (get?_storing root key _ plain value disk made noTemporary).resolve_right ?_
  rintro ⟨samePlace, succeeds⟩
  rcases spared with apart | fails
  · exact apart (plainOther.slot_injective plain (.folder root)
      (congrArg Slot.file samePlace)).symm
  · exact fails (sameResult.mpr succeeds)

/-! ### Reading a record of a folder -/

/-- The bytes that are read, or the fault, in the words of the store. -/
theorem outcome_readRecord_eq (root : Path) (key : String) (disk : Disk) :
    ((readRecord root key).outcome disk).1 =
      (disk.has (recordPath root key) >>= fun there =>
        if there then
          (match ((readBytes (recordPath root key)).outcome disk).1 with
            | .ok bytes => .ok bytes
            | .error fault => .error (if fault.isFile then .storage ("Unable to read record '" ++
                key ++ "' from " ++ (recordPath root key).text ++ ".") else fault)) >>=
            recordOfBytes key
        else .ok .null) := by
  unfold readRecord
  rw [Run.outcome_bind, Run.outcome_get, Run.continued, Run.outcome_bind, Run.outcome_ofExcept]
  cases disk.has (recordPath root key) with
  | error fault => rfl
  | ok there =>
    cases there with
    | false => rfl
    | true =>
      rw [Run.continued, if_pos rfl, Run.outcome_bind, outcome_refusingAs]
      obtain ⟨fault | bytes, after⟩ := (readBytes (recordPath root key)).outcome disk
      · rfl
      · exact congrArg Prod.fst (Run.outcome_ofExcept _ after)

/-- The bytes of what is at the end of a path. -/
def bytesAt (path : Path) : Option Node → Except Fault ByteArray
  | some (.file bytes) => .ok bytes
  | some .folder => .error (.file .folder path.text)
  | none => .error (.file .absent path.text)

theorem outcome_readBytes_eq (path : Path) (disk : Disk) :
    ((readBytes path).outcome disk).1 =
      if disk.failing == some .read then .error (.file .device path.text)
      else disk.locate path >>= fun location => bytesAt path (disk.node? location) := by
  unfold readBytes
  rw [Run.outcome_bind, outcome_attempt]
  split
  · rfl
  · rw [Run.continued, Run.outcome_bind, Run.outcome_get, Run.continued, Run.outcome_bind,
      Run.outcome_ofExcept]
    cases disk.locate path with
    | error fault => rfl
    | ok location =>
      rw [Run.continued, ok_bind]
      obtain _ | ⟨bytes | _⟩ := disk.node? location <;> rfl

/-- The bytes that are read depend on what fails, on where the path leads and on what is there. -/
theorem readBytes_congr (path : Path) (before after : Disk)
    (failing : after.failing = before.failing) (located : after.locate path = before.locate path)
    (nodes : ∀ location, before.locate path = .ok location →
      after.node? location = before.node? location) :
    ((readBytes path).outcome after).1 = ((readBytes path).outcome before).1 := by
  rw [outcome_readBytes_eq, outcome_readBytes_eq, failing, located]
  cases found : before.locate path with
  | error fault => rfl
  | ok location => rw [ok_bind, ok_bind, nodes location found]

/-- So does how a read ends. -/
theorem readRecord_congr (root : Path) (key : String) (before after : Disk)
    (failing : after.failing = before.failing)
    (located : after.locate (recordPath root key) = before.locate (recordPath root key))
    (nodes : ∀ location, before.locate (recordPath root key) = .ok location →
      after.node? location = before.node? location) :
    ((readRecord root key).outcome after).1 = ((readRecord root key).outcome before).1 := by
  have there : after.has (recordPath root key) = before.has (recordPath root key) := by
    rw [has, has, located]
    cases found : before.locate (recordPath root key) with
    | ok location =>
      dsimp only
      rw [nodes location found]
    | error fault =>
      cases fault
      case file trouble text => cases trouble <;> rfl
      all_goals rfl
  rw [outcome_readRecord_eq, outcome_readRecord_eq, there,
    readBytes_congr _ before after failing located nodes]

/-- Where no file is, null is answered if anything is. -/
theorem readRecord_of_noFile (root : Path) (key : String) (disk : Disk) (value : Json)
    (noFile : disk.file? (placeKey (recordPath root key)) = none)
    (answers : ((readRecord root key).outcome disk).1 = .ok value) : value = .null := by
  rw [outcome_readRecord_eq] at answers
  obtain ⟨there, has, answers⟩ := bind_eq_ok answers
  cases there with
  | false => exact (Except.ok.inj answers).symm
  | true =>
    obtain ⟨bytes, isRead, -⟩ := bind_eq_ok answers
    have readable : ((readBytes (recordPath root key)).outcome disk).1 = .ok bytes := by
      split at isRead
      case h_1 found => exact isRead ▸ found
      case h_2 => cases isRead
    rw [outcome_readBytes_eq] at readable
    split at readable
    case isTrue => cases readable
    case isFalse =>
      obtain ⟨location, found, isBytes⟩ := bind_eq_ok readable
      rw [← key_of_locate disk _ location found] at noFile
      cases location with
      | nil => cases isBytes
      | cons step rest =>
        cases node : disk.node? (step :: rest) with
        | none =>
          rw [node] at isBytes
          cases isBytes
        | some node_ =>
          rw [node] at isBytes
          cases node_ with
          | folder => cases isBytes
          | file held =>
            rw [file?, show disk.nodes.get? (Disk.key (step :: rest)) = _ from node] at noFile
            cases noFile

/-- How one record is read does not depend on what becomes of another one, nor on a failed attempt
to store the record itself, whatever fails while reading. -/
theorem readRecord_after_write (root : Path) (key other : String) (plain : PlainKey key)
    (plainOther : PlainKey other) (value : Json) (call : Option DiskCall) (disk : Disk)
    (present : disk.hasFolder root = true)
    (spared : key ≠ other ∨ ((writeRecord root key value).outcome disk).1 ≠ .ok ()) :
    ((readRecord root other).outcome
        { ((writeRecord root key value).outcome disk).2 with failing := call }).1 =
      ((readRecord root other).outcome { disk with failing := call }).1 := by
  have keeps := keepsFolders_writeRecord root key value disk
  have located : ∀ after : Disk, disk.KeepsFolders after →
      after.locate (recordPath root other) = disk.locate (recordPath root other) := by
    intro after keeps
    rw [plainOther.recordPath_eq]
    exact locate_in_folder disk after keeps root _ present
  have made : ((makeFolders root).outcome disk).2 = disk := by
    rw [outcome_makeFolders_present root disk present]
  have same := get?_writeRecord root key other plain plainOther value disk (by rw [made]) spared
  have spares (now : Disk) : now.KeepsFolders { now with failing := call } := fun place here => by
    cases place <;> exact here
  have locatedThen := located { ((writeRecord root key value).outcome disk).2 with failing := call }
    fun place here => spares _ place (keeps place here)
  have locatedNow := located { disk with failing := call } (spares disk)
  refine readRecord_congr root other { disk with failing := call } _ rfl
    (locatedThen.trans locatedNow.symm) fun location found => ?_
  have isPlace : Disk.key location = placeKey (recordPath root other) :=
    key_of_locate _ (recordPath root other) location found
  exact node?_of_sameNode (isPlace ▸ same)

end Disk

/-! ### Reading a record of another store -/

/-- How a read ends depends on whether reading is refused and on the record. -/
theorem Memory.outcome_read_eq (key : String) (memory : Memory) :
    ((read key).outcome memory).1 =
      if memory.refusesReads then .error refusal
      else .ok ((memory.records.get? key).getD .null) := by
  unfold read
  rw [Run.outcome_bind, Run.outcome_get, Run.continued]
  cases memory.refusesReads <;> rfl

/-- What a bucket answers, from what fails and from the blob of the record. -/
def Bucket.answer (key : String) (installed : Bool) (failing : Option BlobCall)
    (blob : Option ByteArray) : Except Fault Json :=
  let refusal := Fault.storage ("Unable to read record '" ++ key ++ "' from GCS.")
  if !installed then .error clientMissing
  else if failing == some .ask then .error refusal
  else
    match blob with
    | none => .ok .null
    | some bytes => if failing == some .download then .error refusal else recordOfBytes key bytes

/-- What follows a call, unless the call is the one that fails. -/
theorem Bucket.outcome_perform_eq {Result : Type} (call : BlobCall) (name : String)
    (refusal : Fault) (next : Unit → Run Bucket Result) (bucket : Bucket) :
    ∃ calls, (perform call name refusal >>= next).outcome bucket =
      if bucket.failing == some call then (.error refusal, { bucket with calls := calls })
      else (next ()).outcome { bucket with calls := calls } := by
  let calls := bucket.calls ++ [(call, name, bucket.failing != some call)]
  refine ⟨calls, ?_⟩
  have steps : (perform call name refusal >>= next).outcome bucket =
      ((if !(bucket.failing != some call) then throw refusal else pure () : Run Bucket Unit) >>=
        next).outcome { bucket with calls := calls } := rfl
  rw [steps]
  cases failing : bucket.failing == some call <;> simp only [bne, failing] <;> rfl

theorem Bucket.outcome_readRecord_eq (name stem key : String) (bucket : Bucket) :
    ((readRecord name stem key).outcome bucket).1 =
      answer key bucket.installed bucket.failing
        (bucket.blobs.get? (blobName name stem key)) := by
  have connected : (connect : Run Bucket Unit).outcome bucket =
      if bucket.installed then (.ok (), bucket) else (.error clientMissing, bucket) := by
    unfold connect
    rw [Run.outcome_bind, Run.outcome_get, Run.continued]
    cases bucket.installed <;> rfl
  unfold readRecord answer
  rw [Run.outcome_bind, connected]
  cases installed : bucket.installed with
  | false => rfl
  | true =>
    rw [if_pos rfl, Run.continued, if_neg (by decide)]
    obtain ⟨calls, asked⟩ := outcome_perform_eq .ask (blobName name stem key)
      (.storage ("Unable to read record '" ++ key ++ "' from GCS.")) _ bucket
    rw [asked]
    by_cases refuses : (bucket.failing == some BlobCall.ask) = true
    · rw [if_pos refuses, if_pos refuses]
    · rw [if_neg refuses, if_neg refuses, Run.outcome_bind, Run.outcome_get, Run.continued,
        Table.has]
      dsimp only
      cases found : bucket.blobs.get? (blobName name stem key) with
      | none => rfl
      | some bytes =>
        obtain ⟨more, downloaded⟩ := outcome_perform_eq .download (blobName name stem key)
          (.storage ("Unable to read record '" ++ key ++ "' from GCS.")) _
          { bucket with calls := calls }
        rw [if_pos (show (some bytes).isSome = true from rfl), downloaded]
        dsimp only
        split
        · rfl
        · rw [Run.outcome_bind, Run.outcome_get, Run.continued]
          dsimp only
          rw [found, Run.outcome_ofExcept]

/-- What a database answers, from what fails and from the row of the record. -/
def Database.answer (key : String) (installed : Bool) (failing : Option StatementKind)
    (row : Option Json) : Except Fault Json :=
  let refusal := Fault.storage ("Unable to read record '" ++ key ++ "' from Postgres.")
  if !installed then .error clientMissing
  else if failing == some .connect then .error (.storage "Unable to connect to Postgres.")
  else if failing == some .create || failing == some .select then .error refusal
  else .ok (row.getD .null)

theorem Database.outcome_readRecord_eq (url table key : String) (database : Database) :
    ((readRecord url table key).outcome database).1 =
      answer key database.installed database.failing (database.rows.get? key) := by
  obtain ⟨installed, rows, statements, failing⟩ := database
  cases installed with
  | false => rfl
  | true => obtain _ | ⟨_ | _ | _ | _⟩ := failing <;> rfl

namespace RecordStore

/-- Of a record of which nothing is kept, null is answered if anything is. -/
theorem read_of_lacks (store : RecordStore) (key : String) (value : Json) (world : World)
    (lacks : world.kept? (store.slot key) = none)
    (answers : ((store.read key).outcome world).1 = .ok value) : value = .null := by
  cases store with
  | memory =>
    have nothing : world.memory.records.get? key = none := Option.map_eq_none_iff.mp lacks
    replace answers := (Memory.outcome_read_eq key world.memory).symm.trans answers
    rw [nothing] at answers
    split at answers
    · cases answers
    · exact (Except.ok.inj answers).symm
  | folder root =>
    rw [read, World.onDisk, Run.outcome_within] at answers
    exact Disk.readRecord_of_noFile root key world.disk value (Option.map_eq_none_iff.mp lacks)
      answers
  | bucket name stem =>
    have nothing : world.bucket.blobs.get? (Bucket.blobName name stem key) = none :=
      Option.map_eq_none_iff.mp lacks
    replace answers := (Bucket.outcome_readRecord_eq name stem key world.bucket).symm.trans answers
    rw [nothing, Bucket.answer] at answers
    split_ifs at answers
    exact (Except.ok.inj answers).symm
  | database url table =>
    have nothing : world.database.rows.get? key = none := Option.map_eq_none_iff.mp lacks
    replace answers :=
      (Database.outcome_readRecord_eq url table key world.database).symm.trans answers
    rw [nothing, Database.answer] at answers
    split_ifs at answers
    exact (Except.ok.inj answers).symm

/-! ### Reading after storing something else -/

variable (store : RecordStore) (key other : String) (plain : PlainKey key)
  (plainOther : PlainKey other) (value : Json) (world : World)
  (spared : key ≠ other ∨ ((store.write key value).outcome world).1 ≠ .ok ())

include plain plainOther spared

/-- Storing a record leaves the slots of other plain keys alone; failing to do so, all of them. -/
theorem kept?_after_write :
    ((store.write key value).outcome world).2.kept? (store.slot other) =
      world.kept? (store.slot other) := by
  rcases spared with apart | fails
  · refine (changesOnly_write store key value world plain.noSlash).records store other ?_
    exact fun same => apart (plainOther.slot_injective plain store same).symm
  · cases failed : ((store.write key value).outcome world).1 with
    | ok _ => exact absurd failed fails
    | error fault =>
      exact kept?_of_failed_write store key value world fault plain.noSlash failed store other

/-- So reading them comes to the same, whatever fails by then. -/
theorem read_after_write (failures : Failures)
    (present : ∀ root, store = .folder root → world.disk.hasFolder root = true) :
    ((store.read other).outcome
        (((store.write key value).outcome world).2.withFailures failures)).1 =
      ((store.read other).outcome (world.withFailures failures)).1 := by
  have kept := kept?_after_write store key other plain plainOther value world spared
  cases store with
  | memory =>
    have same : ((Memory.write key value).outcome world.memory).2.records.get? other =
        world.memory.records.get? other := Option.map_injective Sum.inl_injective kept
    refine (Memory.outcome_read_eq other _).trans
      (Eq.trans ?_ (Memory.outcome_read_eq other _).symm)
    exact congrArg (fun record => if failures.memoryReads then Except.error Memory.refusal
      else Except.ok (Option.getD record Json.null)) same
  | folder root =>
    rw [write, World.onDisk, Run.outcome_within] at spared ⊢
    rw [read, World.onDisk, Run.outcome_within, Run.outcome_within]
    exact Disk.readRecord_after_write root key other plain plainOther value failures.disk
      world.disk (present root rfl) spared
  | bucket name stem =>
    have same : ((Bucket.writeRecord name stem key value).outcome world.bucket).2.blobs.get?
        (Bucket.blobName name stem other) =
          world.bucket.blobs.get? (Bucket.blobName name stem other) :=
      Option.map_injective Sum.inr_injective kept
    refine (Bucket.outcome_readRecord_eq name stem other _).trans
      (Eq.trans ?_ (Bucket.outcome_readRecord_eq name stem other _).symm)
    exact congrArg _ same
  | database url table =>
    have same : ((Database.writeRecord url table key value).outcome world.database).2.rows.get?
        other = world.database.rows.get? other := Option.map_injective Sum.inl_injective kept
    refine (Database.outcome_readRecord_eq url table other _).trans
      (Eq.trans ?_ (Database.outcome_readRecord_eq url table other _).symm)
    exact congrArg _ same

end RecordStore

end MarketSignal
