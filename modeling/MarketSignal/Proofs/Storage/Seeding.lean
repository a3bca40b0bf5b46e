/-
This file proves that loading never destroys what is stored and seeds a record store at most once.
Where there is a record, and where the seed supplies nothing, loading stores nothing. Where there is
none, the book of the seed is answered and stored, nothing else is changed, and from then on, until
another book is saved, every load that can read the record answers that book and asks no seed. The
one exception is a folder whose path holds the character zero: it answers like an empty folder, but
the failure to store the book in it is passed on.
-/
import MarketSignal.Proofs.Storage.Durability
import MarketSignal.Proofs.Storage.Footprint
import MarketSignal.Proofs.Storage.Loading
import MarketSignal.Proofs.Storage.Media
import MarketSignal.Proofs.Storage.Refusing

namespace MarketSignal

theorem undisturbed_sameMedia (before : World) : Undisturbed (SameMedia before) :=
  ⟨fun _ _ same => ⟨same.memory, same.disk, same.bucket, same.database⟩,
    fun _ _ same => ⟨same.memory, same.disk, same.bucket, same.database⟩,
    fun _ _ same => ⟨same.memory, same.disk, same.bucket, same.database⟩⟩

namespace Library

open RecordStore

variable (library : Library) (store : RecordStore) (isPrimary : library.primary = some store)

/-! ### Where there is a record -/

/-- Only null says that there is no record. -/
theorem judged_absent (record : Json) (absent : judged record = .ok .absent) : record = .null := by
  by_contra some_
  rw [judged_of_ne_null record some_] at absent
  split at absent
  · cases absent
  · split at absent <;> cases absent

include isPrimary

/-- Loading stores nothing unless the record is read as null. -/
theorem loadBook_present (world : World)
    (present : ((store.read bookKey).outcome world).1 ≠ .ok .null) :
    SameRecords world (library.loadBook.outcome world).2 := by
  obtain ⟨found, same⟩ := outcome_readStored library store isPrimary world
  have notAbsent : (library.readStored.outcome world).1 ≠ .ok .absent := by
    intro absent
    rw [found] at absent
    split at absent
    case h_1 record isRecord =>
      exact present (judged_absent record absent ▸ isRecord)
    case h_2 => split at absent <;> cases absent
  unfold loadBook
  rw [Run.outcome_bind]
  revert same notAbsent
  obtain ⟨fault | ⟨book | _ | _⟩, after⟩ := library.readStored.outcome world
  · exact fun same _ => same
  · exact fun same _ => same
  · exact fun same _ => harmless_loadFromSeed library world after same
  · exact fun _ notAbsent => absurd rfl notAbsent

/-! ### Where there is none -/

section

variable (world : World) (absent : ((store.read bookKey).outcome world).1 = .ok .null)

include absent

/-- Where there is no record, the seed is asked in a world with the same stores. -/
theorem loadBook_absent :
    ∃ asked, SameMedia world asked ∧
      library.readSeed.outcome (library.readStored.outcome world).2 =
        (.ok (library.supplied? world), asked) ∧
      library.loadBook.outcome world =
        (library.loadFromSeed true).outcome (library.readStored.outcome world).2 := by
  have found := (outcome_readStored library store isPrimary world).1
  rw [absent] at found
  have media : SameMedia world (library.readStored.outcome world).2 :=
    keeps_readStored library (undisturbed_sameMedia world).keeps_note
      (fun store _ => SameMedia.keeps_read world store bookKey) world (SameMedia.refl world)
  have sources := sameSources_readStored library world world ⟨rfl, rfl⟩
  refine ⟨_, (undisturbed_sameMedia world).keeps_readSeed library _ media, Prod.ext ?_ rfl, ?_⟩
  · rw [outcome_readSeed, supplied?_of_sameSources library world _ sources]
  · unfold loadBook
    rw [Run.outcome_bind]
    revert found
    obtain ⟨outcome, after⟩ := library.readStored.outcome world
    rintro rfl
    rfl

/-- Where the seed supplies nothing, nothing is stored. -/
theorem loadBook_unsupplied (nothing : library.supplied? world = none) :
    SameRecords world (library.loadBook.outcome world).2 := by
  obtain ⟨asked, media, supplied, loads⟩ := loadBook_absent library store isPrimary world absent
  rw [loads, loadFromSeed, Run.outcome_bind, supplied, nothing]
  exact media.sameRecords.trans ⟨rfl, rfl, rfl, rfl⟩

/-- What the seed supplies is stored in a world with the same stores, and is answered unless storing
it fails with something else than a refusal. -/
theorem loadBook_supplied (book : Book) (supplies : library.supplied? world = some book) :
    ∃ asked, SameMedia world asked ∧
      SameRecords ((store.write bookKey (Book.toJson book)).outcome asked).2
        (library.loadBook.outcome world).2 ∧
      (library.loadBook.outcome world).1 =
        match ((store.write bookKey (Book.toJson book)).outcome asked).1 with
        | .ok () => .ok book
        | .error fault => if fault.isStorage then .ok book else .error fault := by
  obtain ⟨asked, media, supplied, loads⟩ := loadBook_absent library store isPrimary world absent
  refine ⟨asked, media, ?_⟩
  rw [loads, loadFromSeed, Run.outcome_bind, supplied, supplies]
  dsimp only [Run.continued]
  rw [isPrimary]
  dsimp only
  rw [Run.outcome_bind, keepSeed, Run.outcome_tryCatch]
  obtain ⟨fault | _, after⟩ := (store.write bookKey (Book.toJson book)).outcome asked
  · dsimp only [Run.handled]
    cases fault.isStorage
    · exact ⟨.refl _, rfl⟩
    · exact ⟨⟨rfl, rfl, rfl, rfl⟩, rfl⟩
  · exact ⟨.refl _, rfl⟩

end

/-! ### Observed loads -/

theorem load_present (world : World)
    (present : ((store.read bookKey).outcome world).1 ≠ .ok .null) :
    SameRecords world (library.load.outcome world).2 := by
  obtain ⟨first, last, done⟩ := outcome_operation "load_scenarios" library.loadBook world
  rw [← read_withJournal store bookKey world first] at present
  have spares := loadBook_present library store isPrimary _ present
  rw [load, done]
  exact ⟨spares.records, spares.nodes, spares.blobs, spares.rows⟩

section

variable (world : World) (absent : ((store.read bookKey).outcome world).1 = .ok .null)

include absent

theorem load_unsupplied (nothing : library.supplied? world = none) :
    SameRecords world (library.load.outcome world).2 := by
  obtain ⟨first, last, done⟩ := outcome_operation "load_scenarios" library.loadBook world
  rw [← read_withJournal store bookKey world first] at absent
  rw [← supplied?_of_sameSources library world { world with journal := first } ⟨rfl, rfl⟩]
    at nothing
  have spares := loadBook_unsupplied library store isPrimary _ absent nothing
  rw [load, done]
  exact ⟨spares.records, spares.nodes, spares.blobs, spares.rows⟩

theorem load_supplied (book : Book) (supplies : library.supplied? world = some book) :
    ∃ asked, SameMedia world asked ∧
      SameRecords ((store.write bookKey (Book.toJson book)).outcome asked).2
        (library.load.outcome world).2 ∧
      (library.load.outcome world).1 =
        match ((store.write bookKey (Book.toJson book)).outcome world).1 with
        | .ok () => .ok book
        | .error fault => if fault.isStorage then .ok book else .error fault := by
  obtain ⟨first, last, done⟩ := outcome_operation "load_scenarios" library.loadBook world
  rw [← read_withJournal store bookKey world first] at absent
  rw [← supplied?_of_sameSources library world { world with journal := first } ⟨rfl, rfl⟩]
    at supplies
  obtain ⟨asked, media, stored, answer⟩ :=
    loadBook_supplied library store isPrimary _ absent book supplies
  have sameMedia : SameMedia world asked :=
    ⟨media.memory, media.disk, media.bucket, media.database⟩
  rw [sameMedia.write_eq] at answer
  rw [load, done]
  exact ⟨asked, sameMedia, stored.trans ⟨rfl, rfl, rfl, rfl⟩, answer⟩

/-- The book of the seed is answered, except by a store that cannot be written. -/
theorem load_supplied_iff (book : Book) (supplies : library.supplied? world = some book) :
    (library.load.outcome world).1 = .ok book ↔ ¬ store.Unwritable world := by
  have typed := typed_of_supplied library world book supplies
  have short := (Book.faithful_toJson book typed.textual).short
  obtain ⟨asked, -, -, answer⟩ := load_supplied library store isPrimary world absent book supplies
  rw [answer]
  constructor
  · intro answered unwritable
    rw [store.write_unwritable pathKey_bookKey _ world unwritable] at answered
    cases answered
  · intro writable
    cases wrote : ((store.write bookKey (Book.toJson book)).outcome world).1 with
    | ok done => rfl
    | error fault =>
      exact if_pos (store.isStorage_of_write pathKey_bookKey _ world short fault writable wrote)

/-- Nothing but the record of the book is changed. -/
theorem load_changesOnly (book : Book) (supplies : library.supplied? world = some book) :
    store.ChangesOnly bookKey world (library.load.outcome world).2 := by
  obtain ⟨asked, media, stored, -⟩ :=
    load_supplied library store isPrimary world absent book supplies
  exact (store.changesOnly_write bookKey _ asked (by decide)).between media.sameRecords stored

/-- If the store takes the book, it holds the book from then on. -/
theorem load_holds (book : Book) (supplies : library.supplied? world = some book)
    (takes : ((store.write bookKey (Book.toJson book)).outcome world).1 = .ok ()) :
    store.Holds bookKey (Book.toJson book) (library.load.outcome world).2 := by
  have typed := typed_of_supplied library world book supplies
  have faithful := Book.faithful_toJson book typed.textual
  obtain ⟨asked, media, stored, -⟩ :=
    load_supplied library store isPrimary world absent book supplies
  rw [← media.write_eq] at takes
  exact (holds_of_write store bookKey _ asked faithful takes).of_sameRecords stored

end

/-! ### Later loads -/

omit isPrimary

/-- Loading a book that the store holds comes down to looking for it there. -/
theorem loadBook_found (seed : Option Seed) (outbox : Option Outbox) (book : Book)
    (typed : Book.Typed book) (world : World)
    (holds : store.Holds bookKey (Book.toJson book) world) (record : Json)
    (readable : ((store.read bookKey).outcome world).1 = .ok record) :
    (⟨some store, seed, outbox⟩ : Library).loadBook.outcome world =
      (.ok book, ((⟨some store, none, none⟩ : Library).readStored.outcome world).2) := by
  have sameLook : (⟨some store, seed, outbox⟩ : Library).readStored =
      (⟨some store, none, none⟩ : Library).readStored := rfl
  have found : ((⟨some store, none, none⟩ : Library).readStored.outcome world).1 =
      .ok (.book book) := by
    rw [← Book.asRead_eq book typed]
    refine (readStored_of_holds _ store rfl book typed.textual world holds).resolve_right ?_
    rintro ⟨-, text, refused⟩
    rw [readable] at refused
    cases refused
  unfold loadBook
  rw [sameLook, Run.outcome_bind]
  revert found
  obtain ⟨outcome, after⟩ := (⟨some store, none, none⟩ : Library).readStored.outcome world
  rintro rfl
  rfl

/-- Neither the seed nor the outbox makes a difference where the store holds a book that it lets be
read. -/
theorem load_asksNoSeed (seed : Option Seed) (outbox : Option Outbox) (book : Book)
    (typed : Book.Typed book) (world : World)
    (holds : store.Holds bookKey (Book.toJson book) world) (record : Json)
    (readable : ((store.read bookKey).outcome world).1 = .ok record) :
    (⟨some store, seed, outbox⟩ : Library).load.outcome world =
      (⟨some store, none, none⟩ : Library).load.outcome world := by
  refine observed_congr _ _ _ _ world ?_
  have holdsThere : store.Holds bookKey (Book.toJson book)
      (afterStart World.inJournal "ScenarioStore.load_scenarios" world) :=
    holds.of_sameRecords ⟨rfl, rfl, rfl, rfl⟩
  have readableThere : ((store.read bookKey).outcome
      (afterStart World.inJournal "ScenarioStore.load_scenarios" world)).1 = .ok record :=
    (read_withJournal store bookKey world _).trans readable
  exact (loadBook_found store seed outbox book typed _ holdsThere record readableThere).trans
    (loadBook_found store none none book typed _ holdsThere record readableThere).symm

namespace History

/-- Whatever happens from here on except another save, a load that can read the record answers the
book, and all that comes of it is what comes of it without any seed or outbox. -/
def Lasts (store : RecordStore) (book : Book) (history : History) : Prop :=
  ∀ events, (∀ other, Event.save other ∉ events) →
    let later := (history.run store events).world
    ∀ record, ((store.read bookKey).outcome later).1 = .ok record →
      ∀ seed outbox,
        ((⟨some store, seed, outbox⟩ : Library).load.outcome later).1 = .ok book ∧
          (⟨some store, seed, outbox⟩ : Library).load.outcome later =
            (⟨some store, none, none⟩ : Library).load.outcome later

/-- Nothing but a save changes which book was saved last. -/
theorem saved_after (history : History) (event : Event) (noSave : ∀ other, event ≠ .save other) :
    (history.after store event).saved = history.saved := by
  cases event with
  | save other => exact absurd rfl (noSave other)
  | _ => rfl

theorem saved_run (history : History) (events : List Event)
    (noSave : ∀ other, Event.save other ∉ events) :
    (history.run store events).saved = history.saved := by
  induction events generalizing history with
  | nil => rfl
  | cons event rest inductionHypothesis =>
    have first := saved_after store history event fun other same =>
      noSave other (same ▸ List.mem_cons_self)
    exact (inductionHypothesis _ fun other member =>
      noSave other (List.mem_cons_of_mem _ member)).trans first

/-- A book that the store holds lasts. -/
theorem lasts_of_holds (book : Book) (typed : Book.Typed book) (history : History)
    (isSaved : history.saved = some book)
    (holds : store.Holds bookKey (Book.toJson book) history.world) : history.Lasts store book := by
  intro events noSave later record readable seed outbox
  have sound : history.Sound store := by
    intro saved same _
    rw [isSaved] at same
    cases same
    exact holds
  have stillSaved := (saved_run store history events noSave).trans isSaved
  have holdsLater : store.Holds bookKey (Book.toJson book) later :=
    sound_run store history sound events book stillSaved typed
  exact ⟨load_of_holds _ store rfl book typed later holdsLater record readable,
    load_asksNoSeed store seed outbox book typed later holdsLater record readable⟩

end History

/-! ### What loading does to the stores -/

/-- Where there is a record or reading it fails, and where the seed supplies nothing, loading stores
nothing. Where there is none and the seed supplies a book, loading changes nothing but the record of
the book, answers the book unless the store is one that cannot be written, and if the store takes
the book, the book lasts. -/
theorem load_seeds_exactly (library : Library) (store : RecordStore)
    (isPrimary : library.primary = some store) (world : World) :
    let record := ((store.read bookKey).outcome world).1
    let after := (library.load.outcome world).2
    (record ≠ .ok .null → SameRecords world after) ∧
      (record = .ok .null → library.supplied? world = none → SameRecords world after) ∧
      ∀ book, record = .ok .null → library.supplied? world = some book →
        ((library.load.outcome world).1 = .ok book ↔ ¬ store.Unwritable world) ∧
        store.ChangesOnly bookKey world after ∧
        (((store.write bookKey (Book.toJson book)).outcome world).1 = .ok () →
          (⟨after, library.seed, library.outbox, some book⟩ : History).Lasts store book) := by
  refine ⟨load_present library store isPrimary world, load_unsupplied library store isPrimary world,
    fun book absent supplies =>
      ⟨load_supplied_iff library store isPrimary world absent book supplies,
        load_changesOnly library store isPrimary world absent book supplies, fun takes => ?_⟩⟩
  exact History.lasts_of_holds store book (typed_of_supplied library world book supplies) _ rfl
    (load_holds library store isPrimary world absent book supplies takes)

/-- An empty store in memory is seeded with the default book; after a market was assigned and the
seed went out of reach, the book is still answered, without the seed. -/
theorem load_seeds_inMemory :
    let library : Library :=
      ⟨some .memory, some (.given (.ok (documentOf (Book.toJson defaultBook)))), none⟩
    let after := (library.load.outcome World.fresh).2
    let later := ((⟨after, library.seed, none, some defaultBook⟩ : History).run .memory
      [.assign "BTC" (.str "default"), .reseed (some (.unreachable "gone"))]).world
    (library.load.outcome World.fresh).1 = .ok defaultBook ∧
      RecordStore.memory.ChangesOnly bookKey World.fresh after ∧
      ((⟨some .memory, some (.unreachable "gone"), none⟩ : Library).load.outcome later).1 =
        .ok defaultBook := by
  intro library after later
  obtain ⟨answers, changes, lasts⟩ :=
    (load_seeds_exactly library .memory rfl World.fresh).2.2 defaultBook rfl rfl
  refine ⟨answers.mpr nofun, changes, ?_⟩
  exact (lasts rfl _ (by simp) (Book.toJson defaultBook) rfl _ _).1

/-- A folder whose path holds the character zero is read as empty, and loading fails although the
seed supplies a book. -/
theorem load_fails_zeroInPath :
    let library : Library := ⟨some (.folder ⟨.here, ["a\x00b"]⟩),
      some (.given (.ok (documentOf (Book.toJson defaultBook)))), none⟩
    (((RecordStore.folder ⟨.here, ["a\x00b"]⟩).read bookKey).outcome World.fresh).1 = .ok .null ∧
      library.supplied? World.fresh = some defaultBook ∧
      (library.load.outcome World.fresh).1 = .error .zeroInPath :=
  ⟨rfl, rfl, rfl⟩

end Library

end MarketSignal
