/-
This file proves what the operations of a library do to the record of its book. Where the record
store holds a book, loading finds it there or, if reading fails, makes do with the seed, and in
neither case stores anything. Work on the assignments never touches the book.
-/
import MarketSignal.Proofs.Scenario.RoundTrip
import MarketSignal.Proofs.Storage.PlainKey

namespace MarketSignal

namespace RecordStore

/-! ### Work that does not concern the records -/

theorem SameRecords.refl (world : World) : SameRecords world world := ⟨rfl, rfl, rfl, rfl⟩

theorem SameRecords.trans {first second third : World} (left : SameRecords first second)
    (right : SameRecords second third) : SameRecords first third :=
  ⟨right.records.trans left.records, right.nodes.trans left.nodes,
    right.blobs.trans left.blobs, right.rows.trans left.rows⟩

/-- Work that does not concern the records. -/
def Harmless {Result : Type} (work : Run World Result) : Prop :=
  ∀ before, work.Keeps (SameRecords before)

theorem Harmless.keeps {Result : Type} {work : Run World Result} (harmless : Harmless work)
    (store : RecordStore) (key : String) (value : Json) : work.Keeps (store.Holds key value) :=
  keeps_of_sameRecords store key value work fun world => harmless world world (.refl world)

theorem harmless_read (store : RecordStore) (key : String) : Harmless (store.read key) :=
  fun _ world same => same.trans (sameRecords_read store key world)

theorem harmless_inJournal {Result : Type} (work : Run Journal Result) :
    Harmless (World.inJournal work) :=
  fun _ _ same => same.trans ⟨rfl, rfl, rfl, rfl⟩

theorem harmless_note (level : Level) (message : String) : Harmless (World.note level message) :=
  harmless_inJournal _

end RecordStore

/-! ### Looking for a book -/

/-- The journal, exchanges and consultations do not decide the property. -/
structure Undisturbed (kept : World → Prop) : Prop where
  journal : ∀ world journal, kept world → kept { world with journal := journal }
  exchange : ∀ world exchange, kept world → kept { world with exchange := exchange }
  consultations : ∀ world number, kept world → kept { world with consultations := number }

theorem undisturbed_sameRecords (before : World) :
    Undisturbed (RecordStore.SameRecords before) :=
  ⟨fun _ _ same => same.trans ⟨rfl, rfl, rfl, rfl⟩, fun _ _ same => same.trans ⟨rfl, rfl, rfl, rfl⟩,
    fun _ _ same => same.trans ⟨rfl, rfl, rfl, rfl⟩⟩

section

variable {kept : World → Prop} (undisturbed : Undisturbed kept)

/-- Reading a text file changes nothing. -/
theorem keeps_readText (path : Path) : (World.onDisk (Disk.readText path)).Keeps kept := by
  intro world holds
  have unchanged : (Disk.readText path).Keeps fun disk => disk = world.disk := by
    refine Run.keeps_bind (Disk.keeps_readBytes path) fun bytes => ?_
    split
    · exact Run.keeps_pure _
    · exact Run.keeps_throw _
  rw [World.onDisk, Run.outcome_within, unchanged world.disk rfl]
  exact holds

include undisturbed

theorem Undisturbed.keeps_note (level : Level) (message : String) :
    (World.note level message).Keeps kept := fun world => undisturbed.journal world _

/-- Fetching the document of a seed touches the exchange and the consultations at most. -/
theorem Undisturbed.keeps_fetch (seed : Seed) : seed.fetch.Keeps kept := by
  have consults : World.consult.Keeps kept := fun world => undisturbed.consultations world _
  cases seed with
  | packaged resource =>
    exact Run.keeps_bind (keeps_readText _) fun text => Run.keeps_ofExcept _
  | file path => exact Run.keeps_bind (keeps_readText _) fun text => Run.keeps_ofExcept _
  | web url timeout =>
    refine Run.keeps_bind (fun world => undisturbed.exchange world _) fun response => ?_
    split
    · exact Run.keeps_throw _
    · exact Run.keeps_ofExcept _
  | given document => exact Run.keeps_bind consults fun _ => Run.keeps_ofExcept _
  | unreachable text => exact Run.keeps_bind consults fun _ => Run.keeps_throw _

/-- So does asking the seed for its book. -/
theorem Undisturbed.keeps_readSeed (library : Library) : library.readSeed.Keeps kept := by
  unfold Library.readSeed
  split
  · exact Run.keeps_pure _
  · refine Run.keeps_tryCatch ?_ fun fault =>
      Run.keeps_bind (undisturbed.keeps_note _ _) fun _ => Run.keeps_pure _
    exact Run.keeps_bind (undisturbed.keeps_fetch _) fun document =>
      Run.keeps_bind (Run.keeps_ofExcept _) fun book => Run.keeps_pure _

omit undisturbed in
/-- Looking for the book in the record store reads the record and leaves notices. -/
theorem keeps_readStored (library : Library)
    (notes : ∀ level message, (World.note level message).Keeps kept)
    (reads : ∀ store, library.primary = some store → (store.read bookKey).Keeps kept) :
    library.readStored.Keeps kept := by
  unfold Library.readStored
  cases isPrimary : library.primary with
  | none => exact Run.keeps_pure _
  | some store =>
    refine Run.keeps_bind (Run.keeps_tryCatch (Run.keeps_map _ (reads store isPrimary))
      fun fault => ?_) fun record => ?_
    · split
      · exact Run.keeps_bind (notes _ _) fun _ => Run.keeps_pure _
      · exact Run.keeps_throw _
    · split
      · exact Run.keeps_pure _
      · exact Run.keeps_pure _
      · split
        · exact Run.keeps_pure _
        · split
          · exact Run.keeps_bind (notes _ _) fun _ => Run.keeps_pure _
          · exact Run.keeps_throw _

end

/-! ### Observed operations -/

/-- Observing adds notices and nothing else: the operation is done in a world with another journal,
its result stands, and only the journal of the world that it leaves is another. -/
theorem outcome_operation {Result : Type} (name : String) (work : Run World Result)
    (world : World) :
    ∃ first last : Journal, (Library.operation name work).outcome world =
      ((work.outcome { world with journal := first }).1,
        { (work.outcome { world with journal := first }).2 with journal := last }) := by
  obtain ⟨last, done⟩ := outcome_observed World.inJournal ("ScenarioStore." ++ name) work
    (fun _ _ _ _ => rfl) world
  exact ⟨_, _, done⟩

namespace Library

open RecordStore

/-! ### Loading -/

/-- Where there is a record, whatever it is, loading from the seed stores nothing. -/
theorem harmless_loadFromSeed (library : Library) : Harmless (library.loadFromSeed false) := by
  intro before
  refine Run.keeps_bind ((undisturbed_sameRecords before).keeps_readSeed library)
    fun supplied => ?_
  cases supplied with
  | none => exact Run.keeps_bind (harmless_note _ _ before) fun _ => Run.keeps_pure _
  | some book =>
    dsimp only
    split
    case h_1 recordAbsent => cases recordAbsent
    case h_2 => exact Run.keeps_pure _

variable (library : Library) (store : RecordStore) (isPrimary : library.primary = some store)

include isPrimary

omit isPrimary in
/-- What a record says about the book. -/
def judged (record : Json) : Except Fault Stored :=
  match record with
  | .null => .ok .absent
  | record =>
    match Book.ofDocument (documentOf record) with
    | .ok book => .ok (.book book)
    | .error fault => if fault.isFormat then .ok .unusable else .error fault

/-- Looking for the book comes down to what the record says, or to the refusal of the store. -/
theorem outcome_readStored (world : World) :
    ((library.readStored).outcome world).1 =
        (match ((store.read bookKey).outcome world).1 with
          | .ok record => judged record
          | .error fault => if fault.isStorage then .ok .unusable else .error fault) ∧
      SameRecords world ((library.readStored).outcome world).2 := by
  have same := sameRecords_read store bookKey world
  unfold readStored
  rw [isPrimary]
  dsimp only
  rw [Run.outcome_bind, readRecord, Run.outcome_tryCatch, Run.outcome_map]
  revert same
  obtain ⟨fault | record, after⟩ := (store.read bookKey).outcome world
  · intro same
    rw [Run.continued, Run.handled]
    dsimp only
    cases fault.isStorage
    · exact ⟨rfl, same⟩
    · exact ⟨rfl, same.trans ⟨rfl, rfl, rfl, rfl⟩⟩
  · intro same
    rw [Run.continued, Run.outcome_pure, Run.handled, Run.continued]
    cases record
    case null => exact ⟨rfl, same⟩
    -- Any other value is judged by what it is read as.
    all_goals
      dsimp only [judged]
      generalize Book.ofDocument _ = read
      cases read with
      | ok book => exact ⟨rfl, same⟩
      | error fault =>
        dsimp only
        cases fault.isFormat
        · exact ⟨rfl, same⟩
        · exact ⟨rfl, same.trans ⟨rfl, rfl, rfl, rfl⟩⟩

omit isPrimary in
theorem judged_toJson (book : Book) (textual : Book.Textual book) :
    judged (Book.toJson book) = .ok (.book (Book.asRead book)) := by
  show (match Book.ofDocument (documentOf (Book.toJson book)) with
    | .ok book => Except.ok (Stored.book book)
    | .error fault => if fault.isFormat then .ok .unusable else .error fault) = _
  rw [Book.ofDocument_documentOf book textual]

/-- A book that the store holds is found as it is read back, or reading it is refused. -/
theorem readStored_of_holds (book : Book) (textual : Book.Textual book) (world : World)
    (holds : store.Holds bookKey (Book.toJson book) world) :
    (library.readStored.outcome world).1 = .ok (.book (Book.asRead book)) ∨
      (library.readStored.outcome world).1 = .ok .unusable ∧
        ∃ text, ((store.read bookKey).outcome world).1 = .error (.storage text) := by
  rw [(outcome_readStored library store isPrimary world).1]
  rcases read_of_holds store bookKey (Book.toJson book) world holds with answered | ⟨text, refused⟩
  · rw [answered]
    exact Or.inl (judged_toJson book textual)
  · rw [refused]
    exact Or.inr ⟨rfl, text, rfl⟩

/-- Loading leaves a book that the store holds in place, and answers it if it can be read. -/
theorem loadBook_of_holds (book : Book) (textual : Book.Textual book) (world : World)
    (holds : store.Holds bookKey (Book.toJson book) world) :
    SameRecords world (library.loadBook.outcome world).2 ∧
      ((∃ record, ((store.read bookKey).outcome world).1 = .ok record) →
        (library.loadBook.outcome world).1 = .ok (Book.asRead book)) := by
  have same := (outcome_readStored library store isPrimary world).2
  have found := readStored_of_holds library store isPrimary book textual world holds
  unfold loadBook
  rw [Run.outcome_bind]
  revert same found
  obtain ⟨outcome, after⟩ := library.readStored.outcome world
  rintro same (isBook | ⟨unusable, text, refused⟩)
  · replace isBook : outcome = .ok (.book (Book.asRead book)) := isBook
    subst isBook
    exact ⟨same, fun _ => rfl⟩
  · replace unusable : outcome = .ok .unusable := unusable
    subst unusable
    refine ⟨harmless_loadFromSeed library world after same, fun ⟨record, answered⟩ => ?_⟩
    rw [refused] at answered
    cases answered

omit isPrimary in
/-- What is read does not depend on the journal. -/
theorem read_withJournal (key : String) (world : World) (journal : Journal) :
    ((store.read key).outcome { world with journal := journal }).1 =
      ((store.read key).outcome world).1 := by
  cases store <;> rfl

/-- A book that the store holds is loaded as it is read back, if reading is not refused. -/
theorem load_asRead_of_holds (book : Book) (textual : Book.Textual book) (world : World)
    (holds : store.Holds bookKey (Book.toJson book) world) (record : Json)
    (readable : ((store.read bookKey).outcome world).1 = .ok record) :
    (library.load.outcome world).1 = .ok (Book.asRead book) := by
  obtain ⟨journal, last, done⟩ := outcome_operation "load_scenarios" library.loadBook world
  have holdsThere : store.Holds bookKey (Book.toJson book) { world with journal := journal } :=
    holds.of_sameRecords ⟨rfl, rfl, rfl, rfl⟩
  rw [load, done]
  refine (loadBook_of_holds library store isPrimary book textual
    { world with journal := journal } holdsThere).2 ⟨record, ?_⟩
  rw [read_withJournal, readable]

/-- A book that was read before is loaded as itself. -/
theorem load_of_holds (book : Book) (typed : Book.Typed book) (world : World)
    (holds : store.Holds bookKey (Book.toJson book) world) (record : Json)
    (readable : ((store.read bookKey).outcome world).1 = .ok record) :
    (library.load.outcome world).1 = .ok book := by
  rw [load_asRead_of_holds library store isPrimary book typed.textual world holds record readable,
    Book.asRead_eq book typed]

/-! ### Assignments -/

/-- Reading the assignments reads their record and no more. -/
theorem outcome_readAssignments (world : World) :
    library.readAssignments.outcome world =
      (((store.read assignmentsKey).outcome world).1 >>= assignmentsOf,
        ((store.read assignmentsKey).outcome world).2) := by
  unfold readAssignments
  rw [isPrimary]
  dsimp only
  rw [Run.outcome_bind]
  obtain ⟨fault | record, after⟩ := (store.read assignmentsKey).outcome world
  · rfl
  · exact Run.outcome_ofExcept _ after

omit isPrimary in
theorem outcome_readAssignments_none (noPrimary : library.primary = none) (world : World) :
    library.readAssignments.outcome world = (.ok world.session, world) := by
  unfold readAssignments
  rw [noPrimary]
  rfl

theorem keeps_readAssignments (key : String) (value : Json) :
    library.readAssignments.Keeps (store.Holds key value) := by
  intro world holds
  rw [outcome_readAssignments library store isPrimary]
  exact (harmless_read store assignmentsKey).keeps store key value world holds

theorem keeps_writeAssignments (value : Json) (assignments : Table Json) :
    (library.writeAssignments assignments).Keeps (store.Holds bookKey value) := by
  unfold writeAssignments
  rw [isPrimary]
  exact Run.keeps_bind (Run.keeps_ofExcept _) fun clean =>
    store.keeps_write_other bookKey assignmentsKey value _ (slot_assignmentsKey_ne store)

/-! ### Observed operations -/

omit isPrimary in
theorem keeps_operation {Result : Type} (key : String) (value : Json) (name : String)
    (work : Run World Result) (keeps : work.Keeps (store.Holds key value)) :
    (operation name work).Keeps (store.Holds key value) :=
  keeps_observed World.inJournal _ work
    (fun notices => (harmless_inJournal notices).keeps store key value) keeps

/-- Loading leaves the book in place. -/
theorem keeps_load (book : Book) (textual : Book.Textual book) :
    library.load.Keeps (store.Holds bookKey (Book.toJson book)) :=
  keeps_operation store _ _ _ _ fun world holds =>
    holds.of_sameRecords (loadBook_of_holds library store isPrimary book textual world holds).1

theorem keeps_assignments (value : Json) :
    library.assignments.Keeps (store.Holds bookKey value) := by
  refine keeps_operation store _ _ _ _ (Run.keeps_tryCatch
    (keeps_readAssignments library store isPrimary _ _) fun fault => ?_)
  split
  · exact Run.keeps_bind ((harmless_note _ _).keeps store _ _) fun _ => Run.keeps_pure _
  · exact Run.keeps_throw _

theorem keeps_saveAssignments (value assignments : Json) :
    (library.saveAssignments assignments).Keeps (store.Holds bookKey value) :=
  keeps_operation store _ _ _ _ (Run.keeps_bind (Run.keeps_ofExcept _) fun _ =>
    keeps_writeAssignments library store isPrimary value _)

theorem keeps_assign (value : Json) (market : String) (id : Json) :
    (library.assign market id).Keeps (store.Holds bookKey value) :=
  keeps_operation store _ _ _ _
    (Run.keeps_bind (keeps_readAssignments library store isPrimary _ _) fun _ =>
      Run.keeps_bind (keeps_writeAssignments library store isPrimary value _) fun _ =>
        Run.keeps_pure _)

theorem keeps_unassign (value : Json) (market : String) :
    (library.unassign market).Keeps (store.Holds bookKey value) :=
  keeps_operation store _ _ _ _
    (Run.keeps_bind (keeps_readAssignments library store isPrimary _ _) fun _ =>
      Run.keeps_bind (keeps_writeAssignments library store isPrimary value _) fun _ =>
        Run.keeps_pure _)

/-- Saving a book makes the store hold it, or fails and leaves the book before in place. -/
theorem holds_of_save (book : Book) (world : World) :
    (((library.save book).outcome world).1 = .ok () → Book.Textual book →
      store.Holds bookKey (Book.toJson book) ((library.save book).outcome world).2) ∧
      ∀ value, ((library.save book).outcome world).1 ≠ .ok () → store.Holds bookKey value world →
        store.Holds bookKey value ((library.save book).outcome world).2 := by
  have steps : library.save book =
      operation "save_scenarios" (store.write bookKey (Book.toJson book)) := by
    unfold save saveBook
    rw [isPrimary]
  rw [steps]
  obtain ⟨first, last, done⟩ :=
    outcome_operation "save_scenarios" (store.write bookKey (Book.toJson book)) world
  rw [done]
  constructor
  · intro succeeds textual
    exact (holds_of_write store bookKey _ _ (Book.faithful_toJson book textual)
      succeeds).of_sameRecords ⟨rfl, rfl, rfl, rfl⟩
  · intro value fails holds
    have before : store.Holds bookKey value { world with journal := first } :=
      holds.of_sameRecords ⟨rfl, rfl, rfl, rfl⟩
    cases outcome : ((store.write bookKey (Book.toJson book)).outcome
      { world with journal := first }).1 with
    | ok done => exact absurd outcome fails
    | error fault =>
      exact (holds_of_failed_write store bookKey value _ _ fault before outcome).of_sameRecords
        ⟨rfl, rfl, rfl, rfl⟩

end Library

end MarketSignal
