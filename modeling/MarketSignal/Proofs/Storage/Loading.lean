/-
This file says exactly what loading a book comes to. If the record store reports its refusals as
such, loading answers the book in the record store, or else that of the seed, or else the default
one, whatever is stored and whatever the seed does. The one exception is a record that the reader is
not up to: its failure, unlike the same failure of a document of the seed, is passed on. Any book
that is loaded has the form of books that were read.
-/
import MarketSignal.Proofs.Document.Refusal
import MarketSignal.Proofs.Storage.Library

namespace MarketSignal

/-- What the store refuses to read now, and whatever books it refuses to store at any time, it
reports as refusals. -/
structure RecordStore.ReportsRefusals (store : RecordStore) (world : World) : Prop where
  reads : ∀ fault, ((store.read bookKey).outcome world).1 = .error fault → fault.isStorage = true
  writes : ∀ book after fault, Book.Typed book →
    ((store.write bookKey (Book.toJson book)).outcome after).1 = .error fault →
      fault.isStorage = true

/-- A store in memory has no other failures than refusals. -/
theorem RecordStore.reportsRefusals_memory (world : World) :
    RecordStore.memory.ReportsRefusals world := by
  constructor
  · intro fault fails
    replace fails : ((Memory.read bookKey).outcome world.memory).1 = .error fault := fails
    unfold Memory.read at fails
    rw [Run.outcome_bind, Run.outcome_get, Run.continued] at fails
    cases refuses : world.memory.refusesReads
    · rw [refuses] at fails
      cases fails
    · rw [refuses] at fails
      cases fails
      rfl
  · intro book after fault _ fails
    replace fails : ((Memory.write bookKey (Book.toJson book)).outcome after.memory).1 =
      .error fault := fails
    rcases outcome_write bookKey (Book.toJson book) after.memory with refused | stored
    · rw [refused] at fails
      cases fails
      rfl
    · rw [stored] at fails
      cases fails

namespace Library

open RecordStore

/-! ### Where a book comes from -/

/-- The book in the record store, if it can be read and is one. -/
def stored? (library : Library) (world : World) : Option Book :=
  library.primary.bind fun store =>
    (((store.read bookKey).outcome world).1 >>= fun record =>
      Book.ofDocument (documentOf record)).toOption

/-- The book of the seed, if it supplies one. -/
def supplied? (library : Library) (world : World) : Option Book :=
  library.seed.bind fun seed => ((seed.fetch.outcome world).1 >>= Book.ofDocument).toOption

/-- There is a record, and the reader is not up to it. -/
def Overwhelmed (library : Library) (world : World) : Prop :=
  ∃ store record, library.primary = some store ∧
    ((store.read bookKey).outcome world).1 = .ok record ∧ (documentOf record).Overwhelming

/-! ### The seed -/

/-- What a seed supplies depends on the disk and on the exchange only. -/
def SameSources (before after : World) : Prop :=
  after.disk = before.disk ∧ after.exchange = before.exchange

theorem supplied?_of_sameSources (library : Library) (before after : World)
    (same : SameSources before after) : library.supplied? after = library.supplied? before := by
  obtain ⟨sameDisk, sameExchange⟩ := same
  have fromText (path : Path) :
      ((World.onDisk (Disk.readText path) >>= fun text =>
          Run.ofExcept (Json.load text)).outcome after).1 =
        ((World.onDisk (Disk.readText path) >>= fun text =>
          Run.ofExcept (Json.load text)).outcome before).1 := by
    rw [Run.outcome_bind, Run.outcome_bind, World.onDisk, Run.outcome_within, Run.outcome_within,
      sameDisk]
    obtain ⟨fault | text, disk⟩ := (Disk.readText path).outcome before.disk
    · rfl
    · dsimp only [Run.continued]
      rw [Run.outcome_ofExcept, Run.outcome_ofExcept]
  have fetch (seed : Seed) : (seed.fetch.outcome after).1 = (seed.fetch.outcome before).1 := by
    cases seed with
    | packaged resource => exact fromText _
    | file path => exact fromText path
    | web url timeout =>
      unfold Seed.fetch
      dsimp only
      rw [Run.outcome_bind, Run.outcome_bind, World.onExchange, Run.outcome_within,
        Run.outcome_within, sameExchange]
      obtain ⟨fault | response, exchange⟩ :=
        (Exchange.perform (.fetch url timeout)).outcome before.exchange
      · rfl
      · dsimp only [Run.continued]
        split
        · rfl
        · rw [Run.outcome_ofExcept, Run.outcome_ofExcept]
    | given document =>
      cases document <;> rfl
    | unreachable text => rfl
  unfold supplied?
  cases library.seed with
  | none => rfl
  | some seed =>
    show ((seed.fetch.outcome after).1 >>= Book.ofDocument).toOption = _
    rw [fetch]
    rfl

theorem sameSources_read (store : RecordStore) (key : String) (world : World) :
    SameSources world ((store.read key).outcome world).2 := by
  cases store with
  | memory => exact ⟨rfl, rfl⟩
  | folder root =>
    have same : (Disk.readRecord root key).Keeps fun disk => disk = world.disk :=
      Disk.keeps_readRecord root key
    rw [RecordStore.read, World.onDisk, Run.outcome_within]
    exact ⟨same world.disk rfl, rfl⟩
  | bucket name stem => exact ⟨rfl, rfl⟩
  | database url table => exact ⟨rfl, rfl⟩

/-- Looking for the book in the record store does not touch what a seed depends on. -/
theorem sameSources_readStored (library : Library) (before : World) :
    library.readStored.Keeps (SameSources before) := by
  refine keeps_readStored library (fun _ _ _ same => same) fun store _ world same => ?_
  have step := sameSources_read store bookKey world
  exact ⟨step.1.trans same.1, step.2.trans same.2⟩

/-- What a seed supplies is supplied, and any failure of it is noted and forgotten. -/
theorem outcome_readSeed (library : Library) (world : World) :
    (library.readSeed.outcome world).1 = .ok (library.supplied? world) := by
  unfold readSeed supplied?
  cases library.seed with
  | none => rfl
  | some seed =>
    dsimp only [Option.bind_some]
    rw [Run.outcome_tryCatch, Run.outcome_bind]
    obtain ⟨fault | document, after⟩ := seed.fetch.outcome world
    · rfl
    · dsimp only [Run.continued]
      rw [Run.outcome_bind, Run.outcome_ofExcept, ok_bind]
      cases Book.ofDocument document <;> rfl

/-- A book that was supplied is a book as it is read. -/
theorem typed_of_supplied (library : Library) (world : World) (book : Book)
    (supplied : library.supplied? world = some book) : Book.Typed book := by
  obtain ⟨seed, -, supplied⟩ := Option.bind_eq_some_iff.mp supplied
  cases outcome : (seed.fetch.outcome world).1 >>= Book.ofDocument with
  | error fault =>
    rw [outcome] at supplied
    cases supplied
  | ok read =>
    rw [outcome] at supplied
    cases supplied
    obtain ⟨document, -, isRead⟩ := bind_eq_ok outcome
    exact Book.typed_of_ofDocument document book isRead

/-! ### Books as they are read -/

theorem typed_defaultBook : Book.Typed defaultBook :=
  Book.typed_of_ofDocument (documentOf (Book.toJson defaultBook)) defaultBook rfl

theorem typed_of_judged {record : Json} {book : Book} (isBook : judged record = .ok (.book book)) :
    Book.Typed book := by
  unfold judged at isBook
  split at isBook
  case h_1 => cases isBook
  case h_2 =>
    split at isBook
    case h_1 read isRead =>
      cases isBook
      exact Book.typed_of_ofDocument _ _ isRead
    case h_2 => split at isBook <;> cases isBook

theorem answersOnly_readStored (library : Library) :
    library.readStored.AnswersOnly fun stored => ∀ book, stored = .book book → Book.Typed book := by
  intro world stored answers book isBook
  subst isBook
  cases isPrimary : library.primary with
  | none =>
    unfold readStored at answers
    rw [isPrimary] at answers
    cases answers
  | some store =>
    have found := answers.symm.trans (outcome_readStored library store isPrimary world).1
    split at found
    case h_1 => exact typed_of_judged found.symm
    case h_2 => split at found <;> cases found

theorem answersOnly_loadFromSeed (library : Library) (recordAbsent : Bool) :
    (library.loadFromSeed recordAbsent).AnswersOnly Book.Typed := by
  have supplies : library.readSeed.AnswersOnly fun supplied =>
      ∀ book, supplied = some book → Book.Typed book := by
    intro world supplied answers book isBook
    rw [outcome_readSeed] at answers
    cases answers
    exact typed_of_supplied library world book isBook
  refine Run.answersOnly_bind supplies fun supplied typed => ?_
  cases supplied with
  | none =>
    exact Run.answersOnly_bind (fun _ _ _ => trivial) fun _ (_ : True) =>
      Run.answersOnly_pure typed_defaultBook
  | some book =>
    have answers : (pure book : Run World Book).AnswersOnly Book.Typed :=
      Run.answersOnly_pure (typed book rfl)
    dsimp only
    split
    · exact Run.answersOnly_bind (fun _ _ _ => trivial) fun _ (_ : True) => answers
    · exact answers

/-- Whatever is loaded, and wherever it comes from, it is a book as it is read. -/
theorem typed_of_load (library : Library) (world : World) (book : Book)
    (loads : (library.load.outcome world).1 = .ok book) : Book.Typed book := by
  have loadsBook : library.loadBook.AnswersOnly Book.Typed := by
    refine Run.answersOnly_bind (answersOnly_readStored library) fun stored typed => ?_
    cases stored with
    | book book => exact Run.answersOnly_pure (typed book rfl)
    | unusable => exact answersOnly_loadFromSeed library false
    | absent => exact answersOnly_loadFromSeed library true
  obtain ⟨first, last, done⟩ := outcome_operation "load_scenarios" library.loadBook world
  rw [load, done] at loads
  exact loadsBook _ book loads

/-! ### Keeping what a seed supplies -/

/-- Keeping the book of a seed never fails if refusals are all there is. -/
theorem outcome_keepSeed (store : RecordStore) (book : Book) (world : World)
    (reported : ∀ fault, ((store.write bookKey (Book.toJson book)).outcome world).1 = .error fault →
      fault.isStorage = true) : ((keepSeed store book).outcome world).1 = .ok () := by
  unfold keepSeed
  rw [Run.outcome_tryCatch]
  revert reported
  obtain ⟨fault | _, after⟩ := (store.write bookKey (Book.toJson book)).outcome world
  · intro reported
    dsimp only [Run.handled]
    rw [if_pos (reported fault rfl)]
    rfl
  · exact fun _ => rfl

/-- Loading from the seed answers its book or the default one. -/
theorem outcome_loadFromSeed (library : Library) (world : World) (recordAbsent : Bool)
    (writes : ∀ store, library.primary = some store → ∀ book after fault, Book.Typed book →
      ((store.write bookKey (Book.toJson book)).outcome after).1 = .error fault →
        fault.isStorage = true) :
    ((library.loadFromSeed recordAbsent).outcome world).1 =
      .ok ((library.supplied? world).getD defaultBook) := by
  have supplied := outcome_readSeed library world
  unfold loadFromSeed
  rw [Run.outcome_bind]
  revert supplied
  obtain ⟨outcome, after⟩ := library.readSeed.outcome world
  intro supplied
  replace supplied : outcome = .ok (library.supplied? world) := supplied
  rw [supplied, Run.continued]
  cases isBook : library.supplied? world with
  | none => rfl
  | some book =>
    have typed := typed_of_supplied library world book isBook
    dsimp only
    split
    case h_1 store isPrimary =>
      have kept := outcome_keepSeed store book after fun fault fails =>
        writes store isPrimary book after fault typed fails
      rw [Run.outcome_bind]
      revert kept
      obtain ⟨outcome, last⟩ := (keepSeed store book).outcome after
      intro kept
      replace kept : outcome = .ok () := kept
      rw [kept]
      rfl
    case h_2 => rfl

/-! ### Loading -/

/-- Null, which stands for a missing record, is no book. -/
theorem ofDocument_null : ∃ path detail,
    Book.ofDocument (documentOf .null) = .error (.violation grammarName path detail) := ⟨_, _, rfl⟩

theorem judged_of_ne_null (record : Json) (some_ : record ≠ .null) :
    judged record =
      match Book.ofDocument (documentOf record) with
      | .ok book => .ok (.book book)
      | .error fault => if fault.isFormat then .ok .unusable else .error fault := by
  unfold judged
  split
  case h_1 => exact absurd rfl some_
  case h_2 =>
    generalize Book.ofDocument (documentOf record) = outcome
    cases outcome <;> rfl

/-- The failure of the reader at a record that it is not up to is passed on. -/
theorem judged_overwhelming (record : Json) (overwhelming : (documentOf record).Overwhelming) :
    judged record = .error .longNumber ∨ judged record = .error .tooLarge := by
  have fails := Book.ofDocument_overwhelming overwhelming
  have some_ : record ≠ .null := by
    rintro rfl
    obtain ⟨path, detail, violation⟩ := ofDocument_null
    rw [violation] at fails
    rcases fails with same | same
    · cases same
    · cases same
  rw [judged_of_ne_null record some_]
  rcases fails with long | large
  · rw [long]
    exact Or.inl rfl
  · rw [large]
    exact Or.inr rfl

/-- A record that is no book and that the reader is up to is put aside. -/
theorem judged_bearable (record : Json) (bearable : ¬ (documentOf record).Overwhelming) :
    (∃ book, Book.ofDocument (documentOf record) = .ok book ∧ judged record = .ok (.book book)) ∨
      (Book.ofDocument (documentOf record)).toOption = none ∧
        (judged record = .ok .unusable ∨ judged record = .ok .absent) := by
  by_cases absent : record = .null
  · subst absent
    obtain ⟨path, detail, violation⟩ := ofDocument_null
    rw [violation]
    exact Or.inr ⟨rfl, Or.inr rfl⟩
  · rw [judged_of_ne_null record absent]
    rcases Book.ofDocument_not_overwhelming bearable with ⟨book, isBook⟩ | ⟨path, detail, violation⟩
    · rw [isBook]
      exact Or.inl ⟨book, rfl, rfl⟩
    · rw [violation]
      exact Or.inr ⟨rfl, Or.inl rfl⟩

section

variable (library : Library) (world : World)
  (reports : ∀ store, library.primary = some store → store.ReportsRefusals world)

include reports

omit reports in
/-- A record that the reader is not up to makes loading fail. -/
theorem loadBook_overwhelmed (overwhelmed : library.Overwhelmed world) :
    (library.loadBook.outcome world).1 = .error .longNumber ∨
      (library.loadBook.outcome world).1 = .error .tooLarge := by
  obtain ⟨store, record, isPrimary, isRecord, overwhelming⟩ := overwhelmed
  have found := (outcome_readStored library store isPrimary world).1
  rw [isRecord] at found
  unfold loadBook
  rw [Run.outcome_bind]
  revert found
  obtain ⟨outcome, after⟩ := library.readStored.outcome world
  intro found
  replace found : outcome = judged record := found
  rcases judged_overwhelming record overwhelming with long | large
  · rw [found, long]
    exact Or.inl rfl
  · rw [found, large]
    exact Or.inr rfl

/-- Any other record, and any failure, leads to a book. -/
theorem loadBook_bearable (bearable : ¬ library.Overwhelmed world) :
    (library.loadBook.outcome world).1 =
      .ok ((library.stored? world).getD ((library.supplied? world).getD defaultBook)) := by
  have fromSeed (after : World) (same : SameSources world after) (recordAbsent : Bool) :
      ((library.loadFromSeed recordAbsent).outcome after).1 =
        .ok ((library.supplied? world).getD defaultBook) := by
    rw [← supplied?_of_sameSources library world after same]
    exact outcome_loadFromSeed library after recordAbsent fun store isPrimary =>
      (reports store isPrimary).writes
  have same := sameSources_readStored library world world ⟨rfl, rfl⟩
  cases isPrimary : library.primary with
  | none =>
    have found : library.readStored = pure .absent := by
      unfold readStored
      rw [isPrimary]
    have nothing : library.stored? world = none := by
      rw [stored?, isPrimary]
      rfl
    rw [nothing, loadBook, found]
    exact fromSeed world ⟨rfl, rfl⟩ true
  | some store =>
    have found := (outcome_readStored library store isPrimary world).1
    unfold loadBook stored?
    rw [Run.outcome_bind, isPrimary, Option.bind_some]
    revert found same
    obtain ⟨outcome, after⟩ := library.readStored.outcome world
    intro same found
    cases read : ((store.read bookKey).outcome world).1 with
    | error fault =>
      rw [read] at found
      dsimp only at found
      rw [found, if_pos ((reports store isPrimary).reads fault read)]
      exact fromSeed after same false
    | ok record =>
      rw [read] at found
      replace found : outcome = judged record := found
      have upTo : ¬ (documentOf record).Overwhelming :=
        fun overwhelming => bearable ⟨store, record, isPrimary, read, overwhelming⟩
      rw [found, ok_bind]
      rcases judged_bearable record upTo with ⟨book, isBook, isJudged⟩ | ⟨noBook, aside | absent⟩
      · rw [isJudged, isBook]
        rfl
      · rw [aside, noBook]
        exact fromSeed after same false
      · rw [absent, noBook]
        exact fromSeed after same true

end

/-- A record that the reader is not up to makes loading fail, observed or not. -/
theorem load_overwhelmed (library : Library) (world : World)
    (overwhelmed : library.Overwhelmed world) :
    (library.load.outcome world).1 = .error .longNumber ∨
      (library.load.outcome world).1 = .error .tooLarge := by
  obtain ⟨journal, last, done⟩ := outcome_operation "load_scenarios" library.loadBook world
  have overwhelmedThere : library.Overwhelmed { world with journal := journal } := by
    obtain ⟨store, record, isPrimary, isRecord, overwhelming⟩ := overwhelmed
    refine ⟨store, record, isPrimary, ?_, overwhelming⟩
    rw [read_withJournal, isRecord]
  rw [load, done]
  exact loadBook_overwhelmed library _ overwhelmedThere

/-- Loading fails exactly if there is a record that the reader is not up to. Otherwise it answers
the book of the record store, or else that of the seed, or else the default one. -/
theorem load_answers (library : Library) (world : World)
    (reports : ∀ store, library.primary = some store → store.ReportsRefusals world) :
    (library.Overwhelmed world →
      (library.load.outcome world).1 = .error .longNumber ∨
        (library.load.outcome world).1 = .error .tooLarge) ∧
      (¬ library.Overwhelmed world →
        (library.load.outcome world).1 =
          .ok ((library.stored? world).getD ((library.supplied? world).getD defaultBook))) := by
  refine ⟨load_overwhelmed library world, fun bearable => ?_⟩
  obtain ⟨journal, last, done⟩ := outcome_operation "load_scenarios" library.loadBook world
  have read (store : RecordStore) := read_withJournal store bookKey world journal
  have reportsThere (store : RecordStore) (isPrimary : library.primary = some store) :
      store.ReportsRefusals { world with journal := journal } := by
    refine ⟨fun fault fails => ?_, (reports store isPrimary).writes⟩
    exact (reports store isPrimary).reads fault ((read store).symm.trans fails)
  have bearableThere : ¬ library.Overwhelmed { world with journal := journal } := by
    unfold Overwhelmed
    simp only [read]
    exact bearable
  have sameStored : library.stored? { world with journal := journal } = library.stored? world := by
    unfold stored?
    simp only [read]
  have sameSupplied :
      library.supplied? { world with journal := journal } = library.supplied? world :=
    supplied?_of_sameSources library world _ ⟨rfl, rfl⟩
  rw [load, done, ← sameStored, ← sameSupplied]
  exact loadBook_bearable library _ reportsThere bearableThere

/-! ### A record with one weight -/

/-- The record of a scenario with one condition of the given weight. -/
def recordOfWeight (weight : Int) : Json :=
  .obj [("s", .obj [("conditions", .obj
    [("c", .obj [("type", .str "text"), ("weight", .int weight)])])])]

/-- The world in which a store in memory keeps the record of one weight. -/
def worldOfWeight (weight : Int) : World :=
  { World.fresh with
    memory := ⟨Table.ofEntries [(bookKey, recordOfWeight weight)], false, false⟩ }

theorem overwhelmed_worldOfWeight (weight : Int) (beyond : floatOfInt? weight = none) :
    (⟨some .memory, none, none⟩ : Library).Overwhelmed (worldOfWeight weight) :=
  ⟨.memory, recordOfWeight weight, rfl, rfl,
    Or.inr ⟨rfl, .int weight, List.mem_cons_self, weight, rfl, beyond⟩⟩

/-- A store in memory that refuses to be read leaves the default book; a record with a weight beyond
the range makes loading fail. -/
theorem load_answers_inMemory :
    let library : Library := ⟨some .memory, none, none⟩
    let refusing : World := { World.fresh with memory := ⟨Table.empty, true, true⟩ }
    (library.load.outcome refusing).1 = .ok defaultBook ∧
      ((library.load.outcome (worldOfWeight (10 ^ 200 * 10 ^ 200))).1 = .error .longNumber ∨
        (library.load.outcome (worldOfWeight (10 ^ 200 * 10 ^ 200))).1 = .error .tooLarge) := by
  intro library refusing
  have reports (world : World) (store : RecordStore) (isPrimary : library.primary = some store) :
      store.ReportsRefusals world := by
    cases isPrimary
    exact reportsRefusals_memory world
  constructor
  · refine (load_answers library refusing (reports refusing)).2 ?_
    rintro ⟨store, other, isPrimary, isRecord, -⟩
    cases isPrimary
    cases isRecord
  · exact (load_answers library _ (reports _)).1 (overwhelmed_worldOfWeight _ (by decide +kernel))

/-- Loading does not always answer a book, although the store in memory refuses nothing. -/
theorem load_fails_beyondRange :
    ¬ ∃ book, ((⟨some .memory, none, none⟩ : Library).load.outcome
      (worldOfWeight (10 ^ 200 * 10 ^ 200))).1 = .ok book := by
  rintro ⟨book, answered⟩
  rcases load_overwhelmed _ _ (overwhelmed_worldOfWeight (10 ^ 200 * 10 ^ 200)
    (by decide +kernel)) with long | large
  · rw [long] at answered
    cases answered
  · rw [large] at answered
    cases answered

end Library

end MarketSignal
