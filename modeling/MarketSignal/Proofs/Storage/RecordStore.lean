/-
This file proves what record stores promise. A record that was stored is what reading answers from
then on, whatever else is stored under another key and however other attempts to store something
fail; and reading changes nothing.

Only the folder needs an argument. A record is written to a temporary file first, so the file of the
record changes in one step at the very end, and the temporary file stands where nothing was before.
-/
import MarketSignal.Proofs.Json.Plain
import MarketSignal.Proofs.Storage.Disk
import MarketSignal.Storage.Library

namespace MarketSignal

theorem outcome_refusingAs {State Result : Type} (text : String) (work : Run State Result)
    (state : State) :
    (refusingAs text work).outcome state =
      match work.outcome state with
      | (.ok result, after) => (.ok result, after)
      | (.error fault, after) =>
        (.error (if fault.isFile then .storage text else fault), after) := by
  rw [refusingAs, Run.outcome_tryCatch]
  obtain ⟨fault | result, after⟩ := work.outcome state <;> rfl

namespace Disk

/-! ### A record in a folder -/

/-- Folders and files stay, the files at some places excepted. -/
structure KeepsAllBut (excepted : Location → Prop) (before after : Disk) : Prop where
  folders : before.KeepsFolders after
  files : ∀ location (bytes : ByteArray), ¬ excepted location →
    before.node? location = some (.file bytes) → after.node? location = some (.file bytes)

theorem Extends.keepsAllBut {before after : Disk} (excepted : Location → Prop)
    (grows : before.Extends after) : KeepsAllBut excepted before after :=
  ⟨grows.keepsFolders, fun location _ _ here => grows location _ here⟩

/-- The work of storing a record, before its refusals are put into the words of the store. -/
def storing (path : Path) (key : String) (value : Json) : Run Disk Unit := do
  makeFolders path.parent
  let temporary ← createTemporary path.parent key
  writeBytes temporary (← Run.ofExcept (recordBytes value))
  replaceFile temporary path

/-- The last step of storing a record, where the temporary file holds the bytes and stands where no
file was at first. -/
theorem outcome_replacing (temporary path : Path) (place : Location) (bytes : ByteArray)
    (disk ready : Disk) (located : ready.locate temporary = .ok place)
    (holds : ready.node? place = some (.file bytes)) (keeps : disk.KeepsFolders ready)
    (others : ∀ other old, disk.node? other = some (.file old) →
      Disk.key place ≠ Disk.key other ∧ ready.node? other = some (.file old)) :
    (∃ fault after, (replaceFile temporary path).outcome ready = (.error fault, after) ∧
        disk.KeepsAllBut (fun _ => False) after) ∨
      ∃ location after, (replaceFile temporary path).outcome ready = (.ok (), after) ∧
        after.locate path = .ok location ∧ after.node? location = some (.file bytes) ∧
        disk.KeepsAllBut (fun other => Disk.key other = Disk.key location) after := by
  rcases outcome_replaceFile temporary path ready with
    ⟨fault, fails⟩ | ⟨origin, location, node, can⟩
  · exact Or.inl ⟨fault, ready, fails, keeps, fun other old _ here => (others other old here).2⟩
  · have sameOrigin : place = origin := Except.ok.inj (located.symm.trans can.isOrigin)
    subst sameOrigin
    have sameNode : node = .file bytes := Option.some.inj (can.held.symm.trans holds)
    subst sameNode
    have folders : ready.KeepsFolders (ready.moved place location (.file bytes)) :=
      keepsFolders_moved ready place location _ (by simp [holds]) can.noFolder
    refine Or.inr ⟨location, _, can.outcome, ?_, ?_, ?_, ?_⟩
    · exact locate_of_keepsFolders _ _ folders path location can.isLocation
    · exact node?_put_self _ location _ (below_of_ne_folder ready location can.noFolder)
    · exact fun other here => folders other (keeps other here)
    · intro other old elsewhere here
      obtain ⟨apart, still⟩ := others other old here
      rw [node?_moved_other ready place location other _ apart (Ne.symm elsewhere)]
      exact still

/-- Storing a record either fails and leaves every file alone, or it succeeds, the record is in its
place and every file with another key is left alone. -/
theorem outcome_storing (path : Path) (key : String) (value : Json) (disk : Disk) :
    (∃ fault after, (storing path key value).outcome disk = (.error fault, after) ∧
        disk.KeepsAllBut (fun _ => False) after) ∨
      ∃ bytes location after, recordBytes value = .ok bytes ∧
        (storing path key value).outcome disk = (.ok (), after) ∧
        after.locate path = .ok location ∧ after.node? location = some (.file bytes) ∧
        disk.KeepsAllBut (fun other => Disk.key other = Disk.key location) after := by
  have grows := extends_makeFolders path.parent disk
  unfold storing
  rw [Run.outcome_bind]
  revert grows
  obtain ⟨fault | _, first⟩ := (makeFolders path.parent).outcome disk
  · exact fun grows => Or.inl ⟨fault, first, rfl, grows.keepsAllBut _⟩
  intro grows
  rw [Run.continued, Run.outcome_bind, createTemporary, Run.outcome_bind, Run.outcome_get,
    Run.continued]
  rcases outcome_createTemporaryFrom path.parent key (first.nodes.size + 1) 0 first with
    ⟨fault, fails⟩ | ⟨temporary, free, -, isFree, nothing, made⟩
  · rw [fails]
    exact Or.inl ⟨fault, first, rfl, grows.keepsAllBut _⟩
  have grown : first.Extends (first.put free (.file ByteArray.empty)) :=
    extends_put first free _ nothing
  rw [made, Run.continued, Run.outcome_bind, Run.outcome_ofExcept]
  cases isBytes : recordBytes value with
  | error fault => exact Or.inl ⟨fault, _, rfl, (grows.trans grown).keepsAllBut _⟩
  | ok bytes =>
    rw [Run.continued, Run.outcome_bind]
    rcases outcome_writeBytes temporary (first.put free (.file ByteArray.empty)) with
      ⟨fault, fails⟩ | ⟨place, isPlace, noFolder, written⟩
    · rw [fails]
      exact Or.inl ⟨fault, _, rfl, (grows.trans grown).keepsAllBut _⟩
    have same : place = free := by
      have again := locate_of_keepsFolders _ _ grown.keepsFolders temporary free isFree
      rw [isPlace] at again
      exact Except.ok.inj again
    subst same
    rw [written, Run.continued]
    have folders := keepsFolders_put _ place (.file bytes) noFolder
    have below : place ≠ [] := below_of_ne_folder _ place noFolder
    have others (other : Location) (old : ByteArray) (here : disk.node? other = some (.file old)) :
        Disk.key place ≠ Disk.key other ∧
          ((first.put place (.file ByteArray.empty)).put place (.file bytes)).node? other =
            some (.file old) := by
      have still := grows other _ here
      have otherBelow : other ≠ [] := by
        rintro rfl
        cases here
      have apart := key_ne first place other below otherBelow (by simp [nothing, still])
      refine ⟨apart, ?_⟩
      rw [node?_put_other _ place other _ apart, node?_put_other _ place other _ apart]
      exact still
    rcases outcome_replacing temporary path place bytes disk _
        (locate_of_keepsFolders _ _ folders temporary place isPlace)
        (node?_put_self _ place _ below)
        (fun other here => folders other ((grows.trans grown).keepsFolders other here)) others with
      fails | ⟨location, after, succeeds⟩
    · exact Or.inl fails
    · exact Or.inr ⟨bytes, location, after, rfl, succeeds⟩

/-! ### Reading a record of a folder -/

theorem keeps_attempt {kept : Disk → Prop} (call : DiskCall) (path : Path) :
    (attempt call path).Keeps kept := by
  intro disk holds
  rw [outcome_attempt]
  split <;> exact holds

/-- Reading changes nothing. -/
theorem keeps_readBytes {kept : Disk → Prop} (path : Path) : (readBytes path).Keeps kept := by
  refine Run.keeps_bind (keeps_attempt .read path) fun _ => Run.keeps_bind Run.keeps_get fun disk =>
    Run.keeps_bind (Run.keeps_ofExcept _) fun location => ?_
  split
  · exact Run.keeps_pure _
  · exact Run.keeps_throw _
  · exact Run.keeps_throw _

theorem keeps_readRecord {kept : Disk → Prop} (root : Path) (key : String) :
    (readRecord root key).Keeps kept := by
  refine Run.keeps_bind Run.keeps_get fun disk => ?_
  refine Run.keeps_bind (Run.keeps_ofExcept _) fun there => ?_
  split
  · refine Run.keeps_bind (Run.keeps_tryCatch (keeps_readBytes _) fun fault => Run.keeps_throw _)
      fun bytes => Run.keeps_ofExcept _
  · exact Run.keeps_pure _

/-- The bytes of a file that is there are read, unless reading fails. -/
theorem outcome_readBytes (path : Path) (location : Location) (bytes : ByteArray) (disk : Disk)
    (located : disk.locate path = .ok location) (here : disk.node? location = some (.file bytes)) :
    (readBytes path).outcome disk =
      if disk.failing == some .read then (.error (.file .device path.text), disk)
      else (.ok bytes, disk) := by
  unfold readBytes
  rcases outcome_attempt_bind .read path _ disk with ⟨failing, fails⟩ | ⟨working, goesOn⟩
  · rw [fails, failing]
    rfl
  · rw [goesOn, working, Run.outcome_bind, Run.outcome_get, Run.continued, located,
      Run.outcome_bind, Run.outcome_ofExcept, Run.continued, here]
    rfl

/-- A record that is there is read, unless reading fails. -/
theorem outcome_readRecord (root : Path) (key : String) (location : Location) (bytes : ByteArray)
    (disk : Disk) (located : disk.locate (recordPath root key) = .ok location)
    (here : disk.node? location = some (.file bytes)) :
    ((readRecord root key).outcome disk).1 =
      if disk.failing == some .read then
        .error (.storage ("Unable to read record '" ++ key ++ "' from " ++
          (recordPath root key).text ++ "."))
      else recordOfBytes key bytes := by
  have there : disk.has (recordPath root key) = .ok true := by
    rw [has, located]
    simp only [here, Option.isSome_some]
  unfold readRecord
  rw [Run.outcome_bind, Run.outcome_get, Run.continued, Run.outcome_bind, there,
    Run.outcome_ofExcept, Run.continued, if_pos rfl, Run.outcome_bind, outcome_refusingAs,
    outcome_readBytes _ location bytes disk located here]
  cases disk.failing == some .read
  · show ((Run.ofExcept (recordOfBytes key bytes) : Run Disk Json).outcome disk).1 = _
    rw [Run.outcome_ofExcept]
    rfl
  · rfl

end Disk

/-! ### Buckets -/

namespace Bucket

/-- A call leaves the blobs alone. -/
theorem outcome_perform (call : BlobCall) (name : String) (refusal : Fault) (bucket : Bucket) :
    ∃ after, after.blobs = bucket.blobs ∧
      ((perform call name refusal).outcome bucket = (.error refusal, after) ∨
        (perform call name refusal).outcome bucket = (.ok (), after)) := by
  let succeeds := bucket.failing != some call
  let after : Bucket := { bucket with calls := bucket.calls ++ [(call, name, succeeds)] }
  have steps : (perform call name refusal).outcome bucket =
      (if !succeeds then throw refusal else pure () : Run Bucket Unit).outcome after := rfl
  refine ⟨after, rfl, ?_⟩
  rw [steps]
  cases succeeds
  · exact Or.inl rfl
  · exact Or.inr rfl

/-- What follows a call, or the refusal if it fails. -/
theorem outcome_perform_bind {Result : Type} (call : BlobCall) (name : String) (refusal : Fault)
    (next : Unit → Run Bucket Result) (bucket : Bucket) :
    ∃ after, after.blobs = bucket.blobs ∧
      ((perform call name refusal >>= next).outcome bucket = (.error refusal, after) ∨
        (perform call name refusal >>= next).outcome bucket = (next ()).outcome after) := by
  obtain ⟨after, same, fails | goesOn⟩ := outcome_perform call name refusal bucket
  · refine ⟨after, same, Or.inl ?_⟩
    rw [Run.outcome_bind, fails, Run.continued]
  · refine ⟨after, same, Or.inr ?_⟩
    rw [Run.outcome_bind, goesOn, Run.continued]

/-- Without a client nothing is done. -/
theorem outcome_connect_bind {Result : Type} (next : Unit → Run Bucket Result) (bucket : Bucket) :
    (connect >>= next).outcome bucket = (.error clientMissing, bucket) ∨
      (connect >>= next).outcome bucket = (next ()).outcome bucket := by
  have steps : (connect >>= next).outcome bucket =
      ((if !bucket.installed then throw clientMissing else pure () : Run Bucket Unit) >>=
        next).outcome bucket := rfl
  rw [steps]
  cases bucket.installed
  · exact Or.inl rfl
  · exact Or.inr rfl

/-- Reading a record leaves the blobs alone and answers a refusal or what the blob stands for. -/
theorem outcome_readRecord (name stem key : String) (bucket : Bucket) :
    ∃ after, after.blobs = bucket.blobs ∧
      ((∃ text, (readRecord name stem key).outcome bucket = (.error (.storage text), after)) ∨
        (readRecord name stem key).outcome bucket =
          (match bucket.blobs.get? (blobName name stem key) with
            | some bytes => recordOfBytes key bytes
            | none => .ok .null, after)) := by
  unfold readRecord
  rcases outcome_connect_bind _ bucket with missing | goesOn
  · exact ⟨bucket, rfl, Or.inl ⟨_, missing⟩⟩
  rw [goesOn]
  obtain ⟨asked, sameAsked, fails | goesOn⟩ := outcome_perform_bind .ask (blobName name stem key)
    (.storage ("Unable to read record '" ++ key ++ "' from GCS.")) _ bucket
  · exact ⟨asked, sameAsked, Or.inl ⟨_, fails⟩⟩
  rw [goesOn, Run.outcome_bind, Run.outcome_get, Run.continued]
  cases found : bucket.blobs.get? (blobName name stem key) with
  | none =>
    have absent : asked.blobs.has (blobName name stem key) = false := by
      rw [Table.has, sameAsked, found]
      rfl
    rw [absent]
    exact ⟨asked, sameAsked, Or.inr rfl⟩
  | some bytes =>
    have present : asked.blobs.has (blobName name stem key) = true := by
      rw [Table.has, sameAsked, found]
      rfl
    rw [present, if_pos rfl]
    obtain ⟨downloaded, same, fails | goesOn⟩ :=
      outcome_perform_bind .download (blobName name stem key)
        (.storage ("Unable to read record '" ++ key ++ "' from GCS.")) _ asked
    · exact ⟨downloaded, same.trans sameAsked, Or.inl ⟨_, fails⟩⟩
    · refine ⟨downloaded, same.trans sameAsked, Or.inr ?_⟩
      rw [goesOn, Run.outcome_bind, Run.outcome_get, Run.continued, same, sameAsked, found]
      exact Run.outcome_ofExcept _ _

/-- Storing a record fails and leaves the blobs alone, or puts the bytes of the record in its
blob. -/
theorem outcome_writeRecord (name stem key : String) (value : Json) (bucket : Bucket) :
    (∃ fault after, (writeRecord name stem key value).outcome bucket = (.error fault, after) ∧
        after.blobs = bucket.blobs) ∨
      ∃ bytes after, recordBytes value = .ok bytes ∧
        (writeRecord name stem key value).outcome bucket = (.ok (), after) ∧
        after.blobs = bucket.blobs.put (blobName name stem key) bytes := by
  unfold writeRecord
  rcases outcome_connect_bind _ bucket with missing | goesOn
  · exact Or.inl ⟨_, bucket, missing, rfl⟩
  rw [goesOn]
  cases isBytes : recordBytes value with
  | error fault => exact Or.inl ⟨_, bucket, rfl, rfl⟩
  | ok bytes =>
    obtain ⟨uploaded, same, fails | goesOn⟩ :=
      outcome_perform_bind .upload (blobName name stem key)
        (.storage ("Unable to write record '" ++ key ++ "' to GCS.")) _ bucket
    · exact Or.inl ⟨_, uploaded, fails, same⟩
    · refine Or.inr ⟨bytes, _, rfl, goesOn, ?_⟩
      show uploaded.blobs.put _ _ = _
      rw [same]

end Bucket

/-! ### Databases -/

namespace Database

/-- A statement leaves the rows alone, and fails with a refusal if at all. -/
theorem outcome_say_bind {Result : Type} (statement : Statement) (kind : Option StatementKind)
    (refusal : Fault) (next : Unit → Run Database Result) (database : Database) :
    ∃ after, after.rows = database.rows ∧
      ((say statement kind refusal >>= next).outcome database = (.error refusal, after) ∨
        (say statement kind refusal >>= next).outcome database = (next ()).outcome after) := by
  let after : Database := { database with statements := database.statements ++ [statement] }
  have steps : (say statement kind refusal >>= next).outcome database =
      ((if kind.isSome && database.failing == kind then throw refusal else pure () :
        Run Database Unit) >>= next).outcome after := rfl
  refine ⟨after, rfl, ?_⟩
  rw [steps]
  cases kind.isSome && database.failing == kind
  · exact Or.inr rfl
  · exact Or.inl rfl

/-- The work of a session is refused before it is begun, or done; the rows are those that it
leaves. -/
theorem outcome_session {Result : Type} (url table text : String) (work : Run Database Result)
    (database : Database) :
    (∃ reason after, (session url table (.storage text) work).outcome database =
        (.error (.storage reason), after) ∧ after.rows = database.rows) ∨
      ∃ before after, before.rows = database.rows ∧ after.rows = (work.outcome before).2.rows ∧
        (session url table (.storage text) work).outcome database =
          ((work.outcome before).1, after) := by
  unfold session
  rw [Run.outcome_bind, Run.outcome_get, Run.continued]
  cases database.installed with
  | false => exact Or.inl ⟨_, database, rfl, rfl⟩
  | true =>
    rw [if_neg (show ¬ (!true) = true by decide)]
    obtain ⟨connected, sameConnected, fails | goesOn⟩ := outcome_say_bind (.connect url)
      (some .connect) (.storage "Unable to connect to Postgres.") _ database
    · exact Or.inl ⟨_, connected, fails, sameConnected⟩
    rw [goesOn, Run.outcome_bind, Run.outcome_tryCatch]
    obtain ⟨created, sameCreated, fails | goesOn⟩ := outcome_say_bind (.createTable table)
      (some .create) (.storage text) (fun _ => tell .commit >>= fun _ => work) connected
    · rw [fails]
      exact Or.inl ⟨_, _, rfl, sameCreated.trans sameConnected⟩
    · rw [goesOn]
      let committed : Database := { created with statements := created.statements ++ [.commit] }
      have steps : (tell .commit >>= fun _ => work).outcome created = work.outcome committed := rfl
      have sameRows : committed.rows = database.rows := sameCreated.trans sameConnected
      rw [steps]
      refine Or.inr ⟨committed, ?_⟩
      obtain ⟨fault | result, after⟩ := work.outcome committed
      · refine ⟨_, sameRows, ?_, rfl⟩
        rfl
      · refine ⟨_, sameRows, ?_, rfl⟩
        rfl

/-- Reading a record leaves the rows alone and answers a refusal or what is in the row. -/
theorem outcome_readRecord (url table key : String) (database : Database) :
    ∃ after, after.rows = database.rows ∧
      ((∃ text, (readRecord url table key).outcome database = (.error (.storage text), after)) ∨
        (readRecord url table key).outcome database =
          (.ok ((database.rows.get? key).getD .null), after)) := by
  unfold readRecord
  rcases outcome_session url table ("Unable to read record '" ++ key ++ "' from Postgres.") _
    database with ⟨reason, after, fails, same⟩ | ⟨before, after, sameBefore, sameAfter, goesOn⟩
  · exact ⟨after, same, Or.inl ⟨reason, fails⟩⟩
  · rw [goesOn]
    obtain ⟨selected, same, fails | succeeds⟩ := outcome_say_bind (.selectValue table key)
      (some .select) (.storage ("Unable to read record '" ++ key ++ "' from Postgres."))
      (fun _ => do return ((← get).rows.get? key).getD .null) before
    · rw [fails] at sameAfter ⊢
      exact ⟨after, sameAfter.trans (same.trans sameBefore), Or.inl ⟨_, rfl⟩⟩
    · rw [succeeds] at sameAfter ⊢
      refine ⟨after, sameAfter.trans (same.trans sameBefore), Or.inr ?_⟩
      rw [← sameBefore, ← same]
      rfl

/-- Storing a record fails and leaves the rows alone, or puts the record in its row. -/
theorem outcome_writeRecord (url table key : String) (value : Json) (database : Database) :
    (∃ fault after, (writeRecord url table key value).outcome database = (.error fault, after) ∧
        after.rows = database.rows) ∨
      ∃ after, (writeRecord url table key value).outcome database = (.ok (), after) ∧
        after.rows = database.rows.put key value := by
  unfold writeRecord
  rcases outcome_session url table ("Unable to write record '" ++ key ++ "' to Postgres.") _
    database with ⟨reason, after, fails, same⟩ | ⟨before, after, sameBefore, sameAfter, goesOn⟩
  · exact Or.inl ⟨_, after, fails, same⟩
  · rw [goesOn]
    obtain ⟨inserted, same, fails | succeeds⟩ := outcome_say_bind (.insertValue table key value)
      (some .insert) (.storage ("Unable to write record '" ++ key ++ "' to Postgres."))
      (fun _ => do
        if value.hasLongNumber then throw .longNumber
        modify fun database => { database with rows := database.rows.put key value }
        tell .commit) before
    · rw [fails] at sameAfter ⊢
      exact Or.inl ⟨_, after, rfl, sameAfter.trans (same.trans sameBefore)⟩
    · have rows : inserted.rows = database.rows := same.trans sameBefore
      rw [succeeds] at sameAfter ⊢
      cases long : value.hasLongNumber with
      | true =>
        rw [long] at sameAfter
        exact Or.inl ⟨_, after, rfl, sameAfter.trans rows⟩
      | false =>
        rw [long] at sameAfter
        refine Or.inr ⟨after, rfl, sameAfter.trans ?_⟩
        rw [← rows]
        rfl

end Database

end MarketSignal
