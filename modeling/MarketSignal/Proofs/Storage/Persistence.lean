/-
This file proves that a book comes back from every text form in which it persists: a backup, the
record in a folder, and the document in a file. What can be read is read as the book that was
written; this file adds that writing succeeds. A place that takes one record takes every record that
can be written at all, because the disk never looks at the bytes: two disks that differ in the
contents of files answer every call alike.
-/
import MarketSignal.Proofs.Storage.Library

namespace MarketSignal

namespace Disk

/-! ### Disks that differ in the contents of files -/

/-- The same call fails, and the same places hold folders or nothing. -/
structure Alike (left right : Disk) : Prop where
  failing : left.failing = right.failing
  folders : ∀ location, left.node? location = some .folder ↔ right.node? location = some .folder
  free : ∀ location, left.node? location = none ↔ right.node? location = none

/-- A disk with one file or another at a place. -/
theorem alike_put (disk : Disk) (location : Location) (left right : ByteArray)
    (below : location ≠ []) :
    (disk.put location (.file left)).Alike (disk.put location (.file right)) := by
  have nodes (other : Location) :
      (disk.put location (.file left)).node? other = (disk.put location (.file right)).node? other ∨
        (disk.put location (.file left)).node? other = some (.file left) ∧
          (disk.put location (.file right)).node? other = some (.file right) := by
    cases other with
    | nil => exact Or.inl rfl
    | cons step rest =>
      by_cases same : key location = key (step :: rest)
      · refine Or.inr ⟨?_, ?_⟩
        · rw [← node?_put_self disk location (.file left) below, node?_eq _ _ below, same]
          rfl
        · rw [← node?_put_self disk location (.file right) below, node?_eq _ _ below, same]
          rfl
      · rw [node?_put_other disk location _ _ same, node?_put_other disk location _ _ same]
        exact Or.inl rfl
  refine ⟨rfl, fun other => ?_, fun other => ?_⟩
  · rcases nodes other with same | ⟨here, there⟩
    · rw [same]
    · simp [here, there]
  · rcases nodes other with same | ⟨here, there⟩
    · rw [same]
    · simp [here, there]

/-- What can be replaced on one disk can be replaced on the other. -/
theorem Alike.canReplace {left right : Disk} (alike : left.Alike right) {source target : Path}
    {origin location : Location} {node : Node}
    (can : left.CanReplace source target origin location node) :
    ∃ other, right.CanReplace source target origin location other := by
  have keeps : left.KeepsFolders right := fun place isFolder => (alike.folders place).mp isFolder
  cases held : right.node? origin with
  | none =>
    have nothing := (alike.free origin).mpr held
    rw [can.held] at nothing
    cases nothing
  | some other =>
    refine ⟨other, ?_, ?_, ?_, held, ?_⟩
    · rw [← alike.failing]
      exact can.working
    · exact locate_of_keepsFolders _ _ keeps source origin can.isOrigin
    · exact locate_of_keepsFolders _ _ keeps target location can.isLocation
    · exact fun isFolder => can.noFolder ((alike.folders location).mpr isFolder)

/-! ### Writing succeeds whatever is written -/

/-- A folder that takes some record takes every record that has bytes. -/
theorem storing_succeeds (path : Path) (key : String) (probe value : Json) (bytes : ByteArray)
    (disk : Disk) (isBytes : recordBytes value = .ok bytes)
    (takes : ((storing path key probe).outcome disk).1 = .ok ()) :
    ((storing path key value).outcome disk).1 = .ok () := by
  refine Run.succeeds_bind takes fun _ first takes => ?_
  refine Run.succeeds_bind takes fun temporary second takes => ?_
  rw [isBytes, Run.outcome_bind, Run.outcome_ofExcept, Run.continued]
  cases isProbe : recordBytes probe with
  | error fault =>
    rw [isProbe] at takes
    cases takes
  | ok probeBytes =>
    rw [isProbe, Run.outcome_bind, Run.outcome_ofExcept, Run.continued] at takes
    rw [Run.outcome_bind] at takes ⊢
    rcases outcome_writeBytes temporary second with ⟨fault, fails⟩ | ⟨place, -, noFolder, written⟩
    · rw [fails] at takes
      cases takes
    · rw [written, Run.continued] at takes ⊢
      rcases outcome_replaceFile temporary path _ with
        ⟨fault, fails⟩ | ⟨origin, location, node, can⟩
      · rw [fails] at takes
        cases takes
      · obtain ⟨other, can⟩ := (alike_put second place probeBytes bytes
          (below_of_ne_folder second place noFolder)).canReplace can
        rw [can.outcome]

/-! ### Work does not change which call fails -/

variable {call : Option DiskCall}

theorem keepsFailing_makeFolders (path : Path) :
    (makeFolders path).Keeps fun disk => disk.failing = call :=
  keeps_makeFolders fun _ _ _ _ same => same

theorem keepsFailing_writeBytes (path : Path) (bytes : ByteArray) :
    (writeBytes path bytes).Keeps fun disk => disk.failing = call := by
  intro disk same
  rcases outcome_writeBytes path disk with ⟨fault, fails⟩ | ⟨location, -, -, written⟩
  · rw [fails]
    exact same
  · rw [written]
    exact same

theorem keepsFailing_createTemporary (folder : Path) (record : String) :
    (createTemporary folder record).Keeps fun disk => disk.failing = call := by
  refine Run.keeps_bind Run.keeps_get fun seen disk same => ?_
  rcases outcome_createTemporaryFrom folder record (seen.nodes.size + 1) 0 disk with
    ⟨fault, fails⟩ | ⟨path, location, -, -, -, made⟩
  · rw [fails]
    exact same
  · rw [made]
    exact same

theorem keepsFailing_replaceFile (source target : Path) :
    (replaceFile source target).Keeps fun disk => disk.failing = call := by
  intro disk same
  rcases outcome_replaceFile source target disk with
    ⟨fault, fails⟩ | ⟨origin, location, node, can⟩
  · rw [fails]
    exact same
  · rw [can.outcome]
    exact same

theorem keepsFailing_writeRecord (root : Path) (key : String) (value : Json) :
    (writeRecord root key value).Keeps fun disk => disk.failing = call :=
  Run.keeps_tryCatch
    (Run.keeps_bind (keepsFailing_makeFolders _) fun _ =>
      Run.keeps_bind (keepsFailing_createTemporary _ _) fun _ =>
        Run.keeps_bind (Run.keeps_ofExcept _) fun _ =>
          Run.keeps_bind (keepsFailing_writeBytes _ _) fun _ => keepsFailing_replaceFile _ _)
    fun _ => Run.keeps_throw _

/-! ### A document in a file -/

/-- A path that takes some document takes every document that has a text, which then is the contents
of the file. -/
theorem outcome_writeDocument (path : Path) (probe document : Json) (text : String) (disk : Disk)
    (isText : document.writePage = .ok text)
    (takes : ((writeDocument path probe).outcome disk).1 = .ok ()) :
    ∃ location after, (writeDocument path document).outcome disk = (.ok (), after) ∧
      after.failing = disk.failing ∧ after.locate path = .ok location ∧
      after.node? location = some (.file text.toUTF8) := by
  have sameFailing : ((makeFolders path.parent).outcome disk).2.failing = disk.failing :=
    keepsFailing_makeFolders path.parent disk rfl
  unfold writeDocument at takes ⊢
  rw [Run.outcome_tryCatch, Run.outcome_bind] at takes ⊢
  revert takes sameFailing
  obtain ⟨fault | _, first⟩ := (makeFolders path.parent).outcome disk
  · intro fails _
    cases fails
  intro takes sameFailing
  dsimp only [Run.continued] at takes ⊢
  rw [isText, Run.outcome_bind, Run.outcome_ofExcept, Run.continued]
  cases isProbe : probe.writePage with
  | error fault =>
    rw [isProbe] at takes
    cases takes
  | ok probeText =>
    rw [isProbe, Run.outcome_bind, Run.outcome_ofExcept, Run.continued] at takes
    rcases outcome_writeBytes path first with
      ⟨fault, fails⟩ | ⟨location, located, noFolder, written⟩
    · rw [fails] at takes
      cases takes
    · rw [written]
      refine ⟨location, _, rfl, sameFailing, ?_, ?_⟩
      · exact locate_of_keepsFolders _ _ (keepsFolders_put first location _ noFolder) path location
          located
      · exact node?_put_self first location _ (below_of_ne_folder first location noFolder)

/-- The text of a file is read with one kind of line ends. -/
theorem outcome_readText (path : Path) (location : Location) (text : String) (disk : Disk)
    (located : disk.locate path = .ok location)
    (here : disk.node? location = some (.file text.toUTF8)) (works : disk.failing ≠ some .read) :
    (readText path).outcome disk =
      (.ok (String.ofList (Text.unifyLineEnds text.toList)), disk) := by
  have working : (disk.failing == some .read) = false := by simpa using works
  unfold readText
  rw [Run.outcome_bind, outcome_readBytes path location _ disk located here, working,
    if_neg Bool.false_ne_true, Run.continued, Text.decode_toUTF8]
  rfl

end Disk

/-- The seed of a file supplies the document whose text is in the file. -/
theorem Seed.outcome_fetch_file (path : Path) {text : String} {document : Json} (world : World)
    (isText : (Disk.readText path).outcome world.disk = (.ok text, world.disk))
    (isDocument : Json.load text = .ok document) :
    (Seed.file path).fetch.outcome world = (.ok document, world) := by
  rw [fetch, Run.outcome_bind, World.onDisk, Run.outcome_within, isText, Run.continued,
    isDocument, Run.outcome_ofExcept]

namespace Library

open RecordStore

/-- A book that is saved in a folder that takes records is loaded from there. -/
theorem load_saved_inFolder (root : Path) (seed : Option Seed) (outbox : Option Outbox)
    (book : Book) (typed : Book.Typed book) (world : World)
    (takes : (((RecordStore.folder root).write bookKey .null).outcome world).1 = .ok ())
    (reads : world.disk.failing ≠ some .read) :
    let library : Library := ⟨some (.folder root), seed, outbox⟩
    ((library.save book).outcome world).1 = .ok () ∧
      (library.load.outcome ((library.save book).outcome world).2).1 = .ok book := by
  intro library
  obtain ⟨first, last, done⟩ := outcome_operation "save_scenarios"
    ((RecordStore.folder root).write bookKey (Book.toJson book)) world
  replace done : (library.save book).outcome world = _ := done
  have saved : ((library.save book).outcome world).1 = .ok () := by
    rw [done]
    refine (outcome_writeRecord root bookKey (Book.toJson book) world.disk).2.mpr ?_
    refine Disk.storing_succeeds _ _ .null _ _ world.disk
      (recordBytes_eq _ (Book.faithful_toJson book typed.textual).short) ?_
    exact (outcome_writeRecord root bookKey .null world.disk).2.mp takes
  refine ⟨saved, ?_⟩
  have holds := (holds_of_save library (.folder root) rfl book world).1 saved typed.textual
  refine load_of_holds library (.folder root) rfl book typed _ holds (Book.toJson book) ?_
  have sameFailing :
      ((library.save book).outcome world).2.disk.failing = world.disk.failing := by
    rw [done]
    exact Disk.keepsFailing_writeRecord root bookKey (Book.toJson book) world.disk rfl
  obtain ⟨location, bytes, located, here, stands⟩ := holds
  have working : (((library.save book).outcome world).2.disk.failing == some .read) = false := by
    rw [sameFailing]
    simpa using reads
  have answer := Disk.outcome_readRecord root bookKey location bytes _ located here
  rw [working, if_neg Bool.false_ne_true, stands] at answer
  exact answer

/-- A library without a record store sends a book to its outbox. -/
theorem outcome_save_inFile (path : Path) (seed : Option Seed) (book : Book) (world : World)
    (after : Disk)
    (written : (Disk.writeDocument path (documentOf (Book.toJson book))).outcome world.disk =
      (.ok (), after)) :
    ∃ journal, ((⟨none, seed, some (.file path)⟩ : Library).save book).outcome world =
      (.ok (), { world with disk := after, journal := journal }) := by
  obtain ⟨first, last, done⟩ := outcome_operation "save_scenarios"
    ((⟨none, seed, some (.file path)⟩ : Library).saveBook book) world
  have steps : ∃ journal, ((⟨none, seed, some (.file path)⟩ : Library).saveBook book).outcome
      { world with journal := first } =
        (((Disk.writeDocument path (documentOf (Book.toJson book))).outcome world.disk).1,
          { world with
            disk := ((Disk.writeDocument path (documentOf (Book.toJson book))).outcome world.disk).2
            journal := journal }) := ⟨_, rfl⟩
  obtain ⟨noted, steps⟩ := steps
  refine ⟨last, ?_⟩
  rw [save, done, steps, written]

/-- A library without a record store loads the book of the document in the file of its seed. -/
theorem outcome_load_fromFile (path : Path) (outbox : Option Outbox) (book : Book) (text : String)
    (document : Json) (world : World) (isText : (Disk.readText path).outcome world.disk =
      (.ok text, world.disk)) (isDocument : Json.load text = .ok document)
    (isBook : Book.ofDocument document = .ok book) :
    (((⟨none, some (.file path), outbox⟩ : Library).load).outcome world).1 = .ok book := by
  obtain ⟨first, last, done⟩ := outcome_operation "load_scenarios"
    (⟨none, some (.file path), outbox⟩ : Library).loadBook world
  have fetched : (Seed.file path).fetch.outcome { world with journal := first } =
      (.ok document, { world with journal := first }) :=
    Seed.outcome_fetch_file path _ isText isDocument
  have supplied : (⟨none, some (.file path), outbox⟩ : Library).readSeed.outcome
      { world with journal := first } = (.ok (some book), { world with journal := first }) := by
    unfold readSeed
    dsimp only
    rw [Run.outcome_tryCatch, Run.outcome_bind, fetched, Run.continued, isBook]
    rfl
  rw [load, done]
  have steps : (⟨none, some (.file path), outbox⟩ : Library).loadBook =
      (⟨none, some (.file path), outbox⟩ : Library).loadFromSeed true := rfl
  rw [steps, loadFromSeed, Run.outcome_bind, supplied]
  rfl

/-- A book that is sent to a file that takes documents is loaded from the file. -/
theorem load_saved_inFile (path : Path) (book : Book) (typed : Book.Typed book) (world : World)
    (takes : (((Outbox.file path).send .null).outcome world).1 = .ok ())
    (reads : world.disk.failing ≠ some .read) :
    let library : Library := ⟨none, some (.file path), some (.file path)⟩
    ((library.save book).outcome world).1 = .ok () ∧
      (library.load.outcome ((library.save book).outcome world).2).1 = .ok book := by
  intro library
  have faithful := Book.faithful_documentOf book typed.textual
  have isText : (documentOf (Book.toJson book)).writePage =
      .ok (documentOf (Book.toJson book)).page := by
    rw [Json.writePage, faithful.short, if_neg Bool.false_ne_true]
  obtain ⟨location, after, written, sameFailing, located, here⟩ :=
    Disk.outcome_writeDocument path .null _ _ world.disk isText takes
  obtain ⟨journal, saved⟩ := outcome_save_inFile path (some (.file path)) book world after written
  rw [saved]
  refine ⟨rfl, outcome_load_fromFile path _ book _ _ _ ?_ (load_unifyLineEnds _ faithful)
    (Book.ofDocument_documentOf_typed book typed)⟩
  exact Disk.outcome_readText path location _ after located here (sameFailing ▸ reads)

end Library

/-! ### Every text form -/

/-- A book that a document can be read as comes back from a backup, from a folder that takes records
and from a file that takes documents. -/
theorem Book.persists (document : Json) (book : Book)
    (isRead : Book.ofDocument document = .ok book) :
    (Book.backupText book >>= Book.restore) = .ok book ∧
      (∀ (root : Path) (seed : Option Seed) (outbox : Option Outbox) (world : World),
        (((RecordStore.folder root).write bookKey .null).outcome world).1 = .ok () →
        world.disk.failing ≠ some .read →
        let library : Library := ⟨some (.folder root), seed, outbox⟩
        ((library.save book).outcome world).1 = .ok () ∧
          (library.load.outcome ((library.save book).outcome world).2).1 = .ok book) ∧
      ∀ (path : Path) (world : World),
        (((Outbox.file path).send .null).outcome world).1 = .ok () →
        world.disk.failing ≠ some .read →
        let library : Library := ⟨none, some (.file path), some (.file path)⟩
        ((library.save book).outcome world).1 = .ok () ∧
          (library.load.outcome ((library.save book).outcome world).2).1 = .ok book := by
  have typed := Book.typed_of_ofDocument document book isRead
  refine ⟨?_, ?_, ?_⟩
  · rw [Book.restore_backupText book typed.textual, Book.asRead_eq book typed]
  · intro root seed outbox world takes reads
    exact Library.load_saved_inFolder root seed outbox book typed world takes reads
  · intro path world takes reads
    exact Library.load_saved_inFile path book typed world takes reads

/-- The default book comes back from a backup, from the folder of records in the working folder and
from a file in a folder that is still to be made. -/
theorem Book.persists_default :
    let folderLibrary : Library := ⟨some (.folder ⟨.here, ["records"]⟩), none, none⟩
    let file : Path := ⟨.here, ["documents", "scenarios.json"]⟩
    let fileLibrary : Library := ⟨none, some (.file file), some (.file file)⟩
    (Book.backupText defaultBook >>= Book.restore) = .ok defaultBook ∧
      (((folderLibrary.save defaultBook).outcome World.fresh).1 = .ok () ∧
        (folderLibrary.load.outcome ((folderLibrary.save defaultBook).outcome World.fresh).2).1 =
          .ok defaultBook) ∧
      ((fileLibrary.save defaultBook).outcome World.fresh).1 = .ok () ∧
        (fileLibrary.load.outcome ((fileLibrary.save defaultBook).outcome World.fresh).2).1 =
          .ok defaultBook := by
  have persists := Book.persists (documentOf (Book.toJson defaultBook)) defaultBook rfl
  exact ⟨persists.1, persists.2.1 _ _ _ World.fresh rfl nofun,
    persists.2.2 _ World.fresh rfl nofun⟩

end MarketSignal
