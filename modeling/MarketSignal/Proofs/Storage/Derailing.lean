/-
This file says what makes the operations of a library fail with a fault that is not of the program's
own making. A record cannot be read where its path is too long to be asked for, or where it holds a
whole number that is too long; it cannot be written in a folder whose path holds the character zero.
Loading also fails at a record that the reader is not up to, and a post at a wait that cannot be
computed. Nothing else that is stored, and nothing that a store refuses, makes an operation fail
that way.
-/
import MarketSignal.Proofs.Derailing
import MarketSignal.Proofs.Storage.Assignments
import MarketSignal.Proofs.Storage.Seeding

namespace MarketSignal

/-! ### Reading a record -/

/-- Bytes of a text with a whole number that is too long. -/
def Overlong (bytes : ByteArray) : Prop :=
  ∃ text digits, Text.decode bytes = .ok text ∧ Json.read text = .error (.tooManyDigits digits)

/-- The path of a record is too long to be asked for, or the record that is kept cannot be read for
the length of a number. -/
inductive RecordStore.Unreadable (key : String) (world : World) : RecordStore → Prop where
  | nameTooLong {root : Path} {text : String}
    (refused : world.disk.has (recordPath root key) = .error (.file .nameTooLong text)) :
    Unreadable key world (.folder root)
  | inFile {root : Path} {bytes : ByteArray}
    (there : world.disk.has (recordPath root key) = .ok true)
    (isRead : ((Disk.readBytes (recordPath root key)).outcome world.disk).1 = .ok bytes)
    (overlong : Overlong bytes) : Unreadable key world (.folder root)
  | inBlob {name stem : String} {bytes : ByteArray} (installed : world.bucket.installed = true)
    (asks : world.bucket.failing ≠ some .ask) (downloads : world.bucket.failing ≠ some .download)
    (kept : world.bucket.blobs.get? (Bucket.blobName name stem key) = some bytes)
    (overlong : Overlong bytes) : Unreadable key world (.bucket name stem)

/-- A fault comes from outside the program if the condition holds, and is a refusal of the store if
it does not. -/
structure RefusesUnless {Result : Type} (condition : Prop) (outcome : Except Fault Result) :
    Prop where
  foreign : condition → Foreign outcome
  refused : ¬ condition → ∀ fault, outcome = .error fault → fault.isStorage = true

theorem RefusesUnless.foreign_iff {Result : Type} {condition : Prop}
    {outcome : Except Fault Result} (refuses : RefusesUnless condition outcome) :
    Foreign outcome ↔ condition := by
  refine ⟨fun foreign => ?_, refuses.foreign⟩
  by_contra holds
  exact not_foreign_of_own
    (fun fault fails => isOwn_of_isStorage (refuses.refused holds fault fails)) foreign

theorem RefusesUnless.congr {Result : Type} {first second : Prop} {outcome : Except Fault Result}
    (refuses : RefusesUnless first outcome) (same : first ↔ second) :
    RefusesUnless second outcome where
  foreign holds := refuses.foreign (same.mpr holds)
  refused never := refuses.refused fun holds => never (same.mp holds)

/-- Where the condition does not hold, a result is no fault at all, and a refusal is one. -/
theorem refusesUnless_ok {Result : Type} {condition : Prop} (never : ¬ condition)
    (result : Result) : RefusesUnless condition (.ok result : Except Fault Result) := by
  refine ⟨fun holds => absurd holds never, fun _ fault fails => ?_⟩
  cases fails

theorem refusesUnless_error {Result : Type} {condition : Prop} (never : ¬ condition) {fault : Fault}
    (isStorage : fault.isStorage = true) :
    RefusesUnless condition (.error fault : Except Fault Result) := by
  refine ⟨fun holds => absurd holds never, fun _ other fails => ?_⟩
  cases fails
  exact isStorage

theorem refusesUnless_recordOfBytes (key : String) (bytes : ByteArray) :
    RefusesUnless (Overlong bytes) (recordOfBytes key bytes) := by
  unfold recordOfBytes Overlong
  cases Text.decode bytes with
  | error damage =>
    refine refusesUnless_error ?_ rfl
    rintro ⟨text, digits, isText, -⟩
    cases isText
  | ok text =>
    dsimp only
    cases isRead : Json.read text with
    | ok value =>
      refine refusesUnless_ok ?_ value
      rintro ⟨_, digits, isText, fails⟩
      cases isText
      rw [isRead] at fails
      cases fails
    | error misread =>
      cases misread with
      | malformed complaint position line column =>
        refine refusesUnless_error ?_ rfl
        rintro ⟨_, digits, isText, fails⟩
        cases isText
        rw [isRead] at fails
        cases fails
      | tooManyDigits digits =>
        refine ⟨fun _ => ⟨_, rfl, rfl⟩, fun short => ?_⟩
        exact absurd ⟨text, digits, rfl, isRead⟩ short

namespace Disk

/-- Asking for a path fails for its length only. -/
theorem has_eq_error {disk : Disk} {path : Path} {fault : Fault}
    (fails : disk.has path = .error fault) : ∃ text, fault = .file .nameTooLong text := by
  unfold has at fails
  split at fails
  · cases fails
  · cases fails
    exact ⟨_, rfl⟩
  · cases fails

/-- Where something is at the end of a path, the file system refuses to read it if anything does. -/
theorem isFile_of_readBytes {disk : Disk} {path : Path} (there : disk.has path = .ok true)
    {fault : Fault} (fails : ((readBytes path).outcome disk).1 = .error fault) :
    fault.isFile = true := by
  rw [outcome_readBytes_eq] at fails
  split at fails
  · cases fails
    rfl
  · unfold has at there
    split at there
    case h_1 location isPlace =>
      rw [isPlace, ok_bind] at fails
      unfold bytesAt at fails
      split at fails
      · cases fails
      · cases fails
        rfl
      · cases fails
        rfl
    case h_2 => cases there
    case h_3 => cases there

end Disk

namespace RecordStore

section

variable (key : String) (world : World)

/-- A record that a folder has is unreadable for what its bytes hold only. -/
theorem unreadable_folder_iff {root : Path} {bytes : ByteArray}
    (there : world.disk.has (recordPath root key) = .ok true)
    (isRead : ((Disk.readBytes (recordPath root key)).outcome world.disk).1 = .ok bytes) :
    Unreadable key world (.folder root) ↔ Overlong bytes := by
  refine ⟨?_, .inFile there isRead⟩
  rintro (tooLong | ⟨-, same, overlong⟩)
  · rw [there] at tooLong
    cases tooLong
  · rw [isRead] at same
    cases same
    exact overlong

theorem refusesUnless_readFolder (root : Path) :
    RefusesUnless (Unreadable key world (.folder root))
      (((folder root).read key).outcome world).1 := by
  rw [read, World.onDisk, Run.outcome_within, Disk.outcome_readRecord_eq]
  cases there : world.disk.has (recordPath root key) with
  | error fault =>
    obtain ⟨text, rfl⟩ := Disk.has_eq_error there
    exact ⟨fun _ => ⟨_, rfl, rfl⟩, fun readable => absurd (.nameTooLong there) readable⟩
  | ok isThere =>
    cases isThere with
    | false =>
      refine refusesUnless_ok ?_ _
      rintro (refused | ⟨isThere, -, -⟩)
      · rw [there] at refused
        cases refused
      · rw [there] at isThere
        cases isThere
    | true =>
      rw [ok_bind, if_pos rfl]
      cases isRead : ((Disk.readBytes (recordPath root key)).outcome world.disk).1 with
      | error fault =>
        dsimp only
        rw [if_pos (Disk.isFile_of_readBytes there isRead)]
        refine refusesUnless_error ?_ rfl
        rintro (refused | ⟨-, same, -⟩)
        · rw [there] at refused
          cases refused
        · rw [isRead] at same
          cases same
      | ok bytes =>
        exact (refusesUnless_recordOfBytes key bytes).congr
          (unreadable_folder_iff key world there isRead).symm

/-- A record that a bucket hands out is unreadable for what its bytes hold only. -/
theorem unreadable_bucket_iff {name stem : String} {bytes : ByteArray}
    (installed : world.bucket.installed = true) (asks : world.bucket.failing ≠ some .ask)
    (downloads : world.bucket.failing ≠ some .download)
    (kept : world.bucket.blobs.get? (Bucket.blobName name stem key) = some bytes) :
    Unreadable key world (.bucket name stem) ↔ Overlong bytes := by
  refine ⟨?_, .inBlob installed asks downloads kept⟩
  rintro (_ | _ | ⟨-, -, -, same, overlong⟩)
  rw [kept] at same
  cases same
  exact overlong

theorem refusesUnless_readBucket (name stem : String) :
    RefusesUnless (Unreadable key world (.bucket name stem))
      (((bucket name stem).read key).outcome world).1 := by
  rw [read, World.onBucket, Run.outcome_within,
    Bucket.outcome_readRecord_eq name stem key world.bucket]
  unfold Bucket.answer
  dsimp only
  split
  case isTrue missing =>
    refine refusesUnless_error ?_ rfl
    rintro (_ | _ | ⟨installed, -, -, -, -⟩)
    rw [installed] at missing
    cases missing
  case isFalse present =>
    split
    case isTrue failing =>
      refine refusesUnless_error ?_ rfl
      rintro (_ | _ | ⟨-, asks, -, -, -⟩)
      exact asks (by simpa using failing)
    case isFalse asks =>
      cases kept : world.bucket.blobs.get? (Bucket.blobName name stem key) with
      | none =>
        refine refusesUnless_ok ?_ _
        rintro (_ | _ | ⟨-, -, -, same, -⟩)
        rw [kept] at same
        cases same
      | some bytes =>
        dsimp only
        split
        case isTrue failing =>
          refine refusesUnless_error ?_ rfl
          rintro (_ | _ | ⟨-, -, downloads, -, -⟩)
          exact downloads (by simpa using failing)
        case isFalse downloads =>
          exact (refusesUnless_recordOfBytes key bytes).congr
            (unreadable_bucket_iff key world (by simpa using present) (by simpa using asks)
              (by simpa using downloads) kept).symm

end

/-- Memory and a database keep values, not bytes, so that only a folder and a bucket can hold a
record that cannot be read. -/
theorem refusesUnless_read (store : RecordStore) (key : String) (world : World) :
    RefusesUnless (store.Unreadable key world) ((store.read key).outcome world).1 := by
  cases store with
  | memory =>
    have never : ¬ Unreadable key world .memory := by rintro ⟨⟩
    have answers := Memory.outcome_read_eq key world.memory
    rw [read, World.onMemory, Run.outcome_within, answers]
    split
    · exact refusesUnless_error never rfl
    · exact refusesUnless_ok never _
  | folder root => exact refusesUnless_readFolder key world root
  | bucket name stem => exact refusesUnless_readBucket key world name stem
  | database url table =>
    have never : ¬ Unreadable key world (.database url table) := by rintro ⟨⟩
    have answers := Database.outcome_readRecord_eq url table key world.database
    rw [read, World.onDatabase, Run.outcome_within, answers]
    unfold Database.answer
    dsimp only
    split_ifs
    case neg => exact refusesUnless_ok never _
    all_goals exact refusesUnless_error never rfl

/-- A value that can be written at all is refused, unless the path holds the character zero. -/
theorem refusesUnless_write (store : RecordStore) {key : String} (isKey : PathKey key)
    {value : Json} (short : value.hasLongNumber = false) (world : World) :
    RefusesUnless (store.Unwritable world) ((store.write key value).outcome world).1 :=
  ⟨fun unwritable => ⟨_, store.write_unwritable isKey value world unwritable, rfl⟩,
    fun writable fault fails =>
      store.isStorage_of_write isKey value world short fault writable fails⟩

/-- A folder whose path holds the character zero is read as if it were empty. -/
theorem read_hasZero {root : Path} (zero : root.HasZero) {key : String} (isKey : PathKey key)
    (world : World) : (((folder root).read key).outcome world).1 = .ok .null := by
  have nothing : world.disk.has (recordPath root key) = .ok false := by
    rw [Disk.has, Disk.locate_hasZero world.disk _ ((isKey.hasZero_recordPath root).mpr zero)]
  rw [read, World.onDisk, Run.outcome_within, Disk.outcome_readRecord_eq, nothing]
  rfl

end RecordStore

namespace Library

/-! ### Loading -/

/-- What makes loading fail with a fault from outside the program. -/
inductive FailsToLoad (library : Library) (world : World) : Prop where
  | unreadable {store : RecordStore} (isPrimary : library.primary = some store)
    (unreadable : store.Unreadable bookKey world)
  | overwhelmed (overwhelmed : library.Overwhelmed world)
  | unwritable {store : RecordStore} {book : Book} (isPrimary : library.primary = some store)
    (unwritable : store.Unwritable world) (supplies : library.supplied? world = some book)

theorem foreign_load_of_unreadable (library : Library) (world : World) {store : RecordStore}
    (isPrimary : library.primary = some store) (unreadable : store.Unreadable bookKey world) :
    Foreign (library.load.outcome world).1 := by
  obtain ⟨fault, fails, isForeign⟩ := (store.refusesUnless_read bookKey world).foreign unreadable
  obtain ⟨journal, last, done⟩ := outcome_operation "load_scenarios" library.loadBook world
  have found := (outcome_readStored library store isPrimary { world with journal := journal }).1
  have noStorage : fault.isStorage = false := Bool.eq_false_iff.mpr fun isStorage =>
    Bool.false_ne_true (isForeign.symm.trans (isOwn_of_isStorage isStorage))
  rw [read_withJournal, fails] at found
  dsimp only at found
  rw [noStorage, if_neg Bool.false_ne_true] at found
  refine ⟨fault, ?_, isForeign⟩
  rw [load, done, loadBook, Run.outcome_bind]
  revert found
  obtain ⟨outcome, after⟩ := library.readStored.outcome { world with journal := journal }
  rintro rfl
  rfl

/-- Where there is no record and the seed supplies nothing, the default book is loaded. -/
theorem load_absent_unsupplied (library : Library) (store : RecordStore)
    (isPrimary : library.primary = some store) (world : World)
    (absent : ((store.read bookKey).outcome world).1 = .ok .null)
    (nothing : library.supplied? world = none) :
    (library.load.outcome world).1 = .ok defaultBook := by
  obtain ⟨journal, last, done⟩ := outcome_operation "load_scenarios" library.loadBook world
  rw [← read_withJournal store bookKey world journal] at absent
  rw [← supplied?_of_sameSources library world { world with journal := journal } ⟨rfl, rfl⟩]
    at nothing
  obtain ⟨asked, -, supplied, loads⟩ := loadBook_absent library store isPrimary _ absent
  rw [load, done, loads, loadFromSeed, Run.outcome_bind, supplied, nothing]
  rfl

/-- Loading fails with a fault from outside the program, or answers a book. -/
theorem load_ends (library : Library) (world : World) :
    (library.FailsToLoad world → Foreign (library.load.outcome world).1) ∧
      (¬ library.FailsToLoad world → ∃ book, (library.load.outcome world).1 = .ok book) := by
  constructor
  · rintro (⟨isPrimary, unreadable⟩ | overwhelmed | ⟨isPrimary, unwritable, supplies⟩)
    · exact foreign_load_of_unreadable library world isPrimary unreadable
    · rcases load_overwhelmed library world overwhelmed with long | large
      · exact ⟨_, long, rfl⟩
      · exact ⟨_, large, rfl⟩
    · obtain ⟨root, rfl, zero, working⟩ := unwritable
      have absent := RecordStore.read_hasZero zero pathKey_bookKey world
      obtain ⟨-, -, -, answer⟩ := load_supplied library _ isPrimary world absent _ supplies
      rw [RecordStore.write_unwritable _ pathKey_bookKey _ world ⟨root, rfl, zero, working⟩]
        at answer
      exact ⟨_, answer, rfl⟩
  · intro holds
    have bearable : ¬ library.Overwhelmed world :=
      fun overwhelmed => holds (.overwhelmed overwhelmed)
    by_cases zero : ∃ root, library.primary = some (.folder root) ∧ root.HasZero
    · obtain ⟨root, isPrimary, zero⟩ := zero
      have absent := RecordStore.read_hasZero zero pathKey_bookKey world
      cases supplies : library.supplied? world with
      | none => exact ⟨_, load_absent_unsupplied library _ isPrimary world absent supplies⟩
      | some book =>
        refine ⟨book, (load_supplied_iff library _ isPrimary world absent book supplies).mpr ?_⟩
        exact fun unwritable => holds (.unwritable isPrimary unwritable supplies)
    · refine ⟨_, (load_answers library world fun store isPrimary => ⟨?_, ?_⟩).2 bearable⟩
      · exact (store.refusesUnless_read bookKey world).refused fun unreadable =>
          holds (.unreadable isPrimary unreadable)
      · intro book after fault typed
        have short := (Book.faithful_toJson book typed.textual).short
        refine (store.refusesUnless_write pathKey_bookKey short after).refused ?_ fault
        rintro ⟨root, rfl, hasZero, -⟩
        exact zero ⟨root, isPrimary, hasZero⟩

/-- Loading fails with no other fault. -/
theorem derails_load_iff (library : Library) (world : World) :
    library.load.Derails world ↔ library.FailsToLoad world :=
  foreign_iff_of_ends (library.load_ends world).1 (library.load_ends world).2

/-! ### Assignments -/

/-- What makes reading the assignments fail with a fault from outside the program. -/
inductive HidesAssignments (library : Library) (world : World) : Prop where
  | unreadable {store : RecordStore} (isPrimary : library.primary = some store)
    (unreadable : store.Unreadable assignmentsKey world)
  | overlong {store : RecordStore} {members : List (String × Json)}
    (isPrimary : library.primary = some store)
    (isRecord : ((store.read assignmentsKey).outcome world).1 = .ok (.obj members))
    (long : ∃ value ∈ members.map Prod.snd, value.hasLongNumber = true)

theorem assignmentsOf_ends (record : Json) :
    (∀ members, record = .obj members →
        (∃ value ∈ members.map Prod.snd, value.hasLongNumber = true) →
          Foreign (assignmentsOf record)) ∧
      ∀ fault, assignmentsOf record = .error fault →
        fault.isFormat = true ∨ ∃ members, record = .obj members ∧
          ∃ value ∈ members.map Prod.snd, value.hasLongNumber = true := by
  cases record
  case null => exact ⟨nofun, nofun⟩
  case obj members =>
    have exactly : FailsExactly .longNumber
        (∃ value ∈ members.map Prod.snd, value.hasLongNumber = true)
        (readMembers (fun _ value => value.display) members) :=
      readMembers_failsExactly fun entry _ => entry.2.display_failsExactly
    refine ⟨?_, fun fault fails => ?_⟩
    · rintro _ ⟨⟩ long
      exact ⟨_, exactly.fails long, rfl⟩
    · by_contra neither
      obtain ⟨table, isTable⟩ := exactly.succeeds fun long =>
        neither (Or.inr ⟨members, rfl, long⟩)
      rw [assignmentsOf, isTable] at fails
      cases fails
  all_goals
    refine ⟨nofun, fun fault fails => Or.inl ?_⟩
    cases fails
    rfl

theorem foreign_readAssignments (library : Library) (world : World)
    (hides : library.HidesAssignments world) :
    Foreign (library.readAssignments.outcome world).1 := by
  rcases hides with @⟨store, isPrimary, unreadable⟩ | @⟨store, members, isPrimary, isRecord, long⟩
  · obtain ⟨fault, fails, isForeign⟩ :=
      (store.refusesUnless_read assignmentsKey world).foreign unreadable
    rw [outcome_readAssignments library store isPrimary, fails]
    exact ⟨fault, rfl, isForeign⟩
  · rw [outcome_readAssignments library store isPrimary, isRecord]
    exact (assignmentsOf_ends _).1 members rfl long

/-- Any other failure to read the assignments is noted where they are listed. -/
theorem isNoted_readAssignments (library : Library) (world : World)
    (shows : ¬ library.HidesAssignments world) (fault : Fault)
    (fails : (library.readAssignments.outcome world).1 = .error fault) :
    (fault.isStorage || fault.isFormat) = true := by
  cases isPrimary : library.primary with
  | none =>
    rw [outcome_readAssignments_none library isPrimary] at fails
    cases fails
  | some store =>
    rw [outcome_readAssignments library store isPrimary] at fails
    dsimp only at fails
    cases isRead : ((store.read assignmentsKey).outcome world).1 with
    | error other =>
      rw [isRead] at fails
      cases fails
      have isStorage := (store.refusesUnless_read assignmentsKey world).refused
        (fun unreadable => shows (.unreadable isPrimary unreadable)) fault isRead
      rw [isStorage, Bool.true_or]
    | ok record =>
      rw [isRead, ok_bind] at fails
      rcases (assignmentsOf_ends record).2 fault fails with isFormat | ⟨members, rfl, long⟩
      · rw [isFormat, Bool.or_true]
      · exact absurd (.overlong isPrimary isRead long) shows

theorem isOwn_of_isNoted {fault : Fault} (noted : (fault.isStorage || fault.isFormat) = true) :
    fault.isOwn = true :=
  (Bool.or_eq_true_iff.mp noted).elim isOwn_of_isStorage isOwn_of_isFormat

theorem derails_readAssignments_iff (library : Library) (world : World) :
    library.readAssignments.Derails world ↔ library.HidesAssignments world := by
  refine ⟨fun derails => ?_, library.foreign_readAssignments world⟩
  by_contra shows
  exact not_foreign_of_own (fun fault fails =>
    isOwn_of_isNoted (library.isNoted_readAssignments world shows fault fails)) derails

theorem readAssignments_withJournal (library : Library) (world : World) (journal : Journal) :
    (library.readAssignments.outcome { world with journal := journal }).1 =
      (library.readAssignments.outcome world).1 := by
  cases isPrimary : library.primary with
  | none =>
    rw [outcome_readAssignments_none library isPrimary,
      outcome_readAssignments_none library isPrimary]
  | some store =>
    rw [outcome_readAssignments library store isPrimary,
      outcome_readAssignments library store isPrimary, read_withJournal]

/-- Where the assignments are listed, none stand for those that a store refuses or a record is not
fit for; any other fault is passed on. -/
theorem assignments_eq (library : Library) (world : World) :
    (library.assignments.outcome world).1 =
      match (library.readAssignments.outcome world).1 with
      | .ok table => .ok table
      | .error fault =>
        if fault.isStorage || fault.isFormat then .ok Table.empty else .error fault := by
  obtain ⟨journal, last, done⟩ := outcome_operation "get_market_assignments"
    (tryCatch library.readAssignments fun fault => do
      if fault.isStorage || fault.isFormat then
        World.note .error ("Error getting market assignments: " ++ fault.message)
        return Table.empty
      else throw fault) world
  rw [← library.readAssignments_withJournal world journal, assignments, done, Run.outcome_tryCatch]
  obtain ⟨fault | table, after⟩ := library.readAssignments.outcome { world with journal := journal }
  · dsimp only [Run.handled]
    cases fault.isStorage || fault.isFormat <;> rfl
  · rfl

/-- Listing the assignments fails with a fault from outside the program, or answers some. -/
theorem assignments_ends (library : Library) (world : World) :
    (library.HidesAssignments world → Foreign (library.assignments.outcome world).1) ∧
      (¬ library.HidesAssignments world →
        ∃ table, (library.assignments.outcome world).1 = .ok table) := by
  have foreign := library.foreign_readAssignments world
  have noted := library.isNoted_readAssignments world
  rw [assignments_eq]
  revert foreign noted
  obtain fault | table := (library.readAssignments.outcome world).1
  · intro foreign noted
    dsimp only
    constructor
    · intro hides
      obtain ⟨_, same, isForeign⟩ := foreign hides
      cases same
      have notNoted : (fault.isStorage || fault.isFormat) = false :=
        Bool.eq_false_iff.mpr fun isNoted =>
          Bool.false_ne_true (isForeign.symm.trans (isOwn_of_isNoted isNoted))
      rw [notNoted, if_neg Bool.false_ne_true]
      exact ⟨fault, rfl, isForeign⟩
    · intro shows
      rw [if_pos (noted shows fault rfl)]
      exact ⟨_, rfl⟩
  · exact fun foreign _ => ⟨fun hides => absurd (foreign hides) (not_foreign_ok table),
      fun _ => ⟨table, rfl⟩⟩

theorem derails_assignments_iff (library : Library) (world : World) :
    library.assignments.Derails world ↔ library.HidesAssignments world :=
  foreign_iff_of_ends (library.assignments_ends world).1 (library.assignments_ends world).2

/-! ### Changing assignments -/

/-- The record store is one that cannot be written. -/
def Unwritable (library : Library) (world : World) : Prop :=
  ∃ store, library.primary = some store ∧ store.Unwritable world

theorem derails_writeAssignments_iff (library : Library) (written : Table String) (world : World) :
    (library.writeAssignments (written.map Json.str)).Derails world ↔ library.Unwritable world := by
  unfold writeAssignments Unwritable
  rw [readTexts]
  cases isPrimary : library.primary with
  | none =>
    refine iff_of_false (not_foreign_ok ()) ?_
    rintro ⟨store, some_, -⟩
    cases some_
  | some store =>
    have short : (Json.ofTexts written).hasLongNumber = false := by
      refine (Json.anyLongMember_eq_false_iff _).mpr fun member present => ?_
      obtain ⟨entry, -, rfl⟩ := List.mem_map.mp present
      rfl
    have refuses := store.refusesUnless_write pathKey_assignmentsKey short world
    simp only [Option.some.injEq, exists_eq_left']
    exact refuses.foreign_iff

theorem unwritable_of_sameDisk (library : Library) {before after : World}
    (same : after.disk = before.disk) : library.Unwritable after ↔ library.Unwritable before := by
  unfold Unwritable RecordStore.Unwritable
  rw [same]

theorem sameDisk_readAssignments (library : Library) (world : World) :
    (library.readAssignments.outcome world).2.disk = world.disk := by
  cases isPrimary : library.primary with
  | none => rw [outcome_readAssignments_none library isPrimary]
  | some store =>
    rw [outcome_readAssignments library store isPrimary]
    exact (SameMedia.keeps_read world store assignmentsKey world (.refl world)).disk

/-- A store that cannot be written answers that there are no assignments. -/
theorem readAssignments_of_unwritable (library : Library) (world : World)
    (unwritable : library.Unwritable world) :
    (library.readAssignments.outcome world).1 = .ok Table.empty := by
  obtain ⟨store, isPrimary, root, rfl, zero, -⟩ := unwritable
  rw [outcome_readAssignments library _ isPrimary,
    RecordStore.read_hasZero zero pathKey_assignmentsKey]
  rfl

theorem derails_operation {Result : Type} (name : String) (work : Run World Result)
    (world : World) :
    ∃ journal, ((operation name work).Derails world ↔
      work.Derails { world with journal := journal }) := by
  obtain ⟨journal, last, done⟩ := outcome_operation name work world
  exact ⟨journal, by rw [Run.Derails, done]; rfl⟩

section

variable (library : Library) (name : String) (change : Table Json → Table Json)
  (texts : ∀ table : Table String, ∃ after : Table String, change (table.map .str) = after.map .str)

/-- Work that reads the assignments, changes them and writes them back. -/
def rewriting : Run World (Table Json) :=
  operation name do
    let changed := change ((← library.readAssignments).map Json.str)
    library.writeAssignments changed
    return changed

include texts

/-- A change of the assignments fails with a fault from outside the program if they cannot be read,
or if the store cannot be written. -/
theorem derails_rewriting_iff (world : World) :
    (library.rewriting name change).Derails world ↔
      library.HidesAssignments world ∨ library.Unwritable world := by
  obtain ⟨journal, here⟩ := derails_operation name (do
    let changed := change ((← library.readAssignments).map Json.str)
    library.writeAssignments changed
    return changed) world
  have same := library.readAssignments_withJournal world journal
  have written (table : Table String) (after : World) :
      ((library.writeAssignments (change (table.map Json.str)) >>= fun _ =>
        return change (table.map Json.str)).Derails after) ↔ library.Unwritable after := by
    obtain ⟨others, areOthers⟩ := texts table
    rw [Run.derails_bind_iff, areOthers, library.derails_writeAssignments_iff]
    refine or_iff_left ?_
    rintro ⟨_, _, -, derails⟩
    exact Run.not_derails_pure _ _ derails
  have reads : library.readAssignments.Derails { world with journal := journal } ↔
      library.HidesAssignments world := by
    rw [Run.Derails, same]
    exact library.derails_readAssignments_iff world
  rw [rewriting, here, Run.derails_bind_iff, reads]
  refine or_congr_right ?_
  simp only [written]
  constructor
  · rintro ⟨table, after, isRead, unwritable⟩
    have sameDisk := library.sameDisk_readAssignments { world with journal := journal }
    rw [isRead] at sameDisk
    exact (library.unwritable_of_sameDisk sameDisk).mp unwritable
  · intro unwritable
    have isEmpty :=
      library.readAssignments_of_unwritable { world with journal := journal } unwritable
    refine ⟨_, _, Prod.ext isEmpty rfl, ?_⟩
    exact (library.unwritable_of_sameDisk (library.sameDisk_readAssignments _)).mpr unwritable

/-- What it answers are texts. -/
theorem answersOnly_rewriting :
    (library.rewriting name change).AnswersOnly fun changed =>
      ∃ after : Table String, changed = after.map .str := by
  intro world changed answers
  obtain ⟨journal, last, done⟩ := outcome_operation name (do
    let changed := change ((← library.readAssignments).map Json.str)
    library.writeAssignments changed
    return changed) world
  rw [rewriting, done] at answers
  obtain ⟨table, _, -, behind⟩ := Run.exists_of_bind_eq_ok (Prod.ext answers rfl)
  obtain ⟨_, _, -, isChanged⟩ := Run.exists_of_bind_eq_ok behind
  cases isChanged
  exact texts table

end

theorem texts_put (market id : String) (table : Table String) :
    ∃ after : Table String, (table.map Json.str).put market (.str id) = after.map .str :=
  ⟨_, Table.map_put Json.str table market id⟩

theorem texts_erase (market : String) (table : Table String) :
    ∃ after : Table String, (table.map Json.str).erase market = after.map .str :=
  ⟨_, Table.map_erase Json.str table market⟩

theorem assign_eq (library : Library) (market id : String) :
    library.assign market (.str id) =
      library.rewriting "assign_scenario_to_market" fun table => table.put market (.str id) := rfl

theorem unassign_eq (library : Library) (market : String) :
    library.unassign market =
      library.rewriting "unassign_scenario_from_market" fun table => table.erase market := rfl

end Library

end MarketSignal
