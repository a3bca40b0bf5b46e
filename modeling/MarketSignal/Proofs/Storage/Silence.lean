/-
This file proves that no load goes wrong in silence. A load is quiet exactly if a book is stored, or
if there is no record and the seed supplies a book, which the record store takes if there is one;
otherwise one of the failures there can be has happened, and a notice tells of it. The book that a
quiet load answers is the one that the record stands for afterwards.
-/
import MarketSignal.Proofs.Storage.Remarks

namespace MarketSignal

namespace Library

open RecordStore

section

variable (library : Library)

/-! ### Loading -/

/-- What a load that goes well comes from: a record that is a book, or a book of the seed that the
record store takes, if there is one and it has no record. -/
inductive Untroubled (world : World) (book : Book) : Prop
  | stored {store : RecordStore} {record : Json} (isPrimary : library.primary = some store)
    (reads : ((store.read bookKey).outcome world).1 = .ok record) (some_ : record ≠ .null)
    (isBook : Book.ofDocument (documentOf record) = .ok book)
  | seeded {store : RecordStore} (isPrimary : library.primary = some store)
    (absent : ((store.read bookKey).outcome world).1 = .ok .null)
    (supplies : library.supplied? world = some book)
    (takes : ((store.write bookKey (Book.toJson book)).outcome world).1 = .ok ())
  | supplied (noPrimary : library.primary = none) (supplies : library.supplied? world = some book)

/-- What is made of the record. -/
def following (stored : Stored) : Run World Book :=
  match stored with
  | .book book => return book
  | .unusable => library.loadFromSeed false
  | .absent => library.loadFromSeed true

theorem loadBook_eq : library.loadBook = library.readStored >>= library.following := rfl

theorem remarks_following (stored : Stored) : Remarks (library.following stored) := by
  cases stored with
  | book book => exact remarks_pure book
  | unusable => exact library.remarks_loadFromSeed false
  | absent => exact library.remarks_loadFromSeed true

theorem remarks_loadBook : Remarks library.loadBook :=
  library.remarks_readStored.bind library.remarks_following

theorem judged_eq_absent_iff {record : Json} : judged record = .ok .absent ↔ record = .null := by
  refine ⟨fun isAbsent => ?_, fun isNull => isNull ▸ rfl⟩
  by_contra some_
  rw [judged_of_ne_null record some_] at isAbsent
  split at isAbsent
  · cases isAbsent
  · split at isAbsent <;> cases isAbsent

theorem judged_eq_book_iff {record : Json} {book : Book} :
    judged record = .ok (.book book) ↔
      record ≠ .null ∧ Book.ofDocument (documentOf record) = .ok book := by
  by_cases some_ : record = .null
  · refine iff_of_false ?_ fun both => both.1 some_
    rw [judged_eq_absent_iff.mpr some_]
    exact nofun
  · rw [judged_of_ne_null record some_]
    cases Book.ofDocument (documentOf record) with
    | ok other =>
      refine ⟨fun same => ⟨some_, ?_⟩, fun both => ?_⟩
      · cases same
        rfl
      · cases both.2
        rfl
    | error fault =>
      refine iff_of_false (fun same => ?_) fun both => nomatch both.2
      dsimp only at same
      split at same <;> cases same

/-- A load is quiet if it goes well. -/
theorem quietly_loadBook_iff {world : World} {book : Book} :
    Quietly library.loadBook world book ↔ library.Untroubled world book := by
  have sources := sameSources_readStored library world world ⟨rfl, rfl⟩
  have media : SameMedia world (library.readStored.outcome world).2 :=
    keeps_readStored library (undisturbed_sameMedia world).keeps_note
      (fun store _ => SameMedia.keeps_read world store bookKey) world (.refl world)
  have fromSeed : Quietly (library.loadFromSeed true) (library.readStored.outcome world).2 book ↔
      library.supplied? world = some book ∧ ∀ store, library.primary = some store →
        ((store.write bookKey (Book.toJson book)).outcome world).1 = .ok () := by
    rw [quietly_loadFromSeed_iff, supplied?_of_sameSources library world _ sources]
    simp only [media.write_eq, true_implies]
  rw [loadBook_eq, quietly_bind_iff library.remarks_readStored library.remarks_following]
  constructor
  · rintro ⟨stored, quiet, later⟩
    cases isPrimary : library.primary with
    | none =>
      cases (library.quietly_readStored_none_iff isPrimary).mp quiet
      exact .supplied isPrimary (fromSeed.mp later).1
    | some store =>
      obtain ⟨record, reads, isJudged, usable⟩ :=
        (library.quietly_readStored_iff isPrimary).mp quiet
      cases stored with
      | book other =>
        cases quietly_pure_iff.mp later
        obtain ⟨some_, isBook⟩ := judged_eq_book_iff.mp isJudged
        exact .stored isPrimary reads some_ isBook
      | unusable => exact absurd rfl usable
      | absent =>
        cases judged_eq_absent_iff.mp isJudged
        obtain ⟨supplies, takes⟩ := fromSeed.mp later
        exact .seeded isPrimary reads supplies (takes store isPrimary)
  · rintro (⟨isPrimary, reads, some_, isBook⟩ | ⟨isPrimary, absent, supplies, takes⟩ |
      ⟨noPrimary, supplies⟩)
    · exact ⟨.book book, (library.quietly_readStored_iff isPrimary).mpr
        ⟨_, reads, judged_eq_book_iff.mpr ⟨some_, isBook⟩, nofun⟩, quietly_pure_iff.mpr rfl⟩
    · refine ⟨.absent, (library.quietly_readStored_iff isPrimary).mpr
        ⟨_, absent, judged_eq_absent_iff.mpr rfl, nofun⟩,
        fromSeed.mpr ⟨supplies, fun store same => ?_⟩⟩
      cases isPrimary.symm.trans same
      exact takes
    · refine ⟨.absent, (library.quietly_readStored_none_iff noPrimary).mpr rfl,
        fromSeed.mpr ⟨supplies, fun store same => ?_⟩⟩
      cases noPrimary.symm.trans same

/-- The journal makes no difference to whether a load goes well. -/
theorem untroubled_withJournal {world : World} {journal : Journal} {book : Book} :
    library.Untroubled { world with journal := journal } book ↔ library.Untroubled world book := by
  have media := SameMedia.withJournal world journal
  have reads (store : RecordStore) := read_withJournal store bookKey world journal
  have supplied :=
    supplied?_of_sameSources library world { world with journal := journal } ⟨rfl, rfl⟩
  constructor
  · rintro (⟨isPrimary, read, some_, isBook⟩ | ⟨isPrimary, absent, supplies, takes⟩ |
      ⟨noPrimary, supplies⟩)
    · exact .stored isPrimary ((reads _).symm.trans read) some_ isBook
    · exact .seeded isPrimary ((reads _).symm.trans absent) (supplied.symm.trans supplies)
        ((media.write_eq _ _ _).symm.trans takes)
    · exact .supplied noPrimary (supplied.symm.trans supplies)
  · rintro (⟨isPrimary, read, some_, isBook⟩ | ⟨isPrimary, absent, supplies, takes⟩ |
      ⟨noPrimary, supplies⟩)
    · exact .stored isPrimary ((reads _).trans read) some_ isBook
    · exact .seeded isPrimary ((reads _).trans absent) (supplied.trans supplies)
        ((media.write_eq _ _ _).trans takes)
    · exact .supplied noPrimary (supplied.trans supplies)

/-! ### Trouble -/

/-- What can go wrong with a load: the record store refuses to be read, its record is no book, the
seed is needed but is missing, fails or supplies no book, or the record store does not take what the
seed supplies. -/
inductive Troubled (world : World) : Prop
  | unread {store : RecordStore} {fault : Fault} (isPrimary : library.primary = some store)
    (fails : ((store.read bookKey).outcome world).1 = .error fault)
  | malformed {store : RecordStore} {record : Json} {fault : Fault}
    (isPrimary : library.primary = some store)
    (reads : ((store.read bookKey).outcome world).1 = .ok record) (some_ : record ≠ .null)
    (fails : Book.ofDocument (documentOf record) = .error fault)
  | seedless (needed : library.stored? world = none) (noSeed : library.seed = none)
  | unfetched {seed : Seed} {fault : Fault} (needed : library.stored? world = none)
    (isSeed : library.seed = some seed) (fails : (seed.fetch.outcome world).1 = .error fault)
  | misread {seed : Seed} {document : Json} {fault : Fault}
    (needed : library.stored? world = none) (isSeed : library.seed = some seed)
    (fetches : (seed.fetch.outcome world).1 = .ok document)
    (fails : Book.ofDocument document = .error fault)
  | unkept {store : RecordStore} {book : Book} {fault : Fault}
    (isPrimary : library.primary = some store)
    (absent : ((store.read bookKey).outcome world).1 = .ok .null)
    (supplies : library.supplied? world = some book)
    (fails : ((store.write bookKey (Book.toJson book)).outcome world).1 = .error fault)

/-- A seed that supplies no book is missing, fails or has a document that is none. -/
theorem troubled_of_unsupplied {world : World} (needed : library.stored? world = none)
    (nothing : library.supplied? world = none) : library.Troubled world := by
  cases isSeed : library.seed with
  | none => exact .seedless needed isSeed
  | some seed =>
    rw [supplied?, isSeed, Option.bind_some] at nothing
    cases fetches : (seed.fetch.outcome world).1 with
    | error fault => exact .unfetched needed isSeed fetches
    | ok document =>
      rw [fetches, ok_bind] at nothing
      cases isBook : Book.ofDocument document with
      | error fault => exact .misread needed isSeed fetches isBook
      | ok book =>
        rw [isBook] at nothing
        cases nothing

theorem stored?_eq_of_read {store : RecordStore} {world : World} {record : Json}
    (isPrimary : library.primary = some store)
    (reads : ((store.read bookKey).outcome world).1 = .ok record) :
    library.stored? world = (Book.ofDocument (documentOf record)).toOption := by
  rw [stored?, isPrimary, Option.bind_some, reads, ok_bind]

theorem stored?_null {store : RecordStore} {world : World}
    (isPrimary : library.primary = some store)
    (absent : ((store.read bookKey).outcome world).1 = .ok .null) :
    library.stored? world = none := by
  obtain ⟨path, detail, isNone⟩ := ofDocument_null
  rw [stored?_eq_of_read library isPrimary absent, isNone]
  rfl

variable {library} in
/-- Where a load goes well there is a stored book or one that the seed supplies. -/
theorem Untroubled.supplies_of_needed {world : World} {book : Book}
    (untroubled : library.Untroubled world book) (needed : library.stored? world = none) :
    library.supplied? world = some book := by
  rcases untroubled with ⟨isPrimary, reads, -, isBook⟩ | ⟨-, -, supplies, -⟩ | ⟨-, supplies⟩
  · rw [stored?_eq_of_read library isPrimary reads, isBook] at needed
    cases needed
  · exact supplies
  · exact supplies

variable {library} in
/-- Where a load goes well a record store can be read, and its record is null or a book. -/
theorem Untroubled.reads {world : World} {book : Book} (untroubled : library.Untroubled world book)
    {store : RecordStore} (isPrimary : library.primary = some store) :
    ∃ record, ((store.read bookKey).outcome world).1 = .ok record ∧
      (record = .null ∧
          ((store.write bookKey (Book.toJson book)).outcome world).1 = .ok () ∧
          library.supplied? world = some book ∨
        Book.ofDocument (documentOf record) = .ok book) := by
  rcases untroubled with ⟨isOther, reads, -, isBook⟩ | ⟨isOther, absent, supplies, takes⟩ |
    ⟨noPrimary, -⟩
  · cases isPrimary.symm.trans isOther
    exact ⟨_, reads, Or.inr isBook⟩
  · cases isPrimary.symm.trans isOther
    exact ⟨_, absent, Or.inl ⟨rfl, takes, supplies⟩⟩
  · cases isPrimary.symm.trans noPrimary

/-- A load goes well, or something is wrong with it. -/
theorem troubled_iff (world : World) :
    library.Troubled world ↔ ∀ book, ¬ library.Untroubled world book := by
  constructor
  · rintro troubled book untroubled
    cases troubled with
    | unread isPrimary fails =>
      obtain ⟨record, reads, -⟩ := untroubled.reads isPrimary
      cases fails.symm.trans reads
    | malformed isPrimary found some_ fails =>
      obtain ⟨record, reads, ⟨isNull, -⟩ | isBook⟩ := untroubled.reads isPrimary
      · cases found.symm.trans reads
        exact some_ isNull
      · cases found.symm.trans reads
        cases fails.symm.trans isBook
    | seedless needed noSeed =>
      have supplies := untroubled.supplies_of_needed needed
      rw [supplied?, noSeed] at supplies
      cases supplies
    | unfetched needed isSeed fails =>
      have supplies := untroubled.supplies_of_needed needed
      rw [supplied?, isSeed, Option.bind_some, fails] at supplies
      cases supplies
    | misread needed isSeed fetches fails =>
      have supplies := untroubled.supplies_of_needed needed
      rw [supplied?, isSeed, Option.bind_some, fetches, ok_bind, fails] at supplies
      cases supplies
    | unkept isPrimary absent supplies fails =>
      obtain ⟨record, reads, ⟨-, takes, alsoSupplies⟩ | isBook⟩ := untroubled.reads isPrimary
      · cases supplies.symm.trans alsoSupplies
        cases fails.symm.trans takes
      · cases absent.symm.trans reads
        obtain ⟨path, detail, isNone⟩ := ofDocument_null
        cases isNone.symm.trans isBook
  · intro never
    cases isPrimary : library.primary with
    | none =>
      have needed : library.stored? world = none := by rw [stored?, isPrimary]; rfl
      cases supplied : library.supplied? world with
      | none => exact library.troubled_of_unsupplied needed supplied
      | some book => exact absurd (.supplied isPrimary supplied) (never book)
    | some store =>
      cases reads : ((store.read bookKey).outcome world).1 with
      | error fault => exact .unread isPrimary reads
      | ok record =>
        by_cases absent : record = .null
        · subst absent
          cases supplied : library.supplied? world with
          | none =>
            exact library.troubled_of_unsupplied (library.stored?_null isPrimary reads) supplied
          | some book =>
            cases takes : ((store.write bookKey (Book.toJson book)).outcome world).1 with
            | ok done => exact absurd (.seeded isPrimary reads supplied takes) (never book)
            | error fault => exact .unkept isPrimary reads supplied takes
        · cases isBook : Book.ofDocument (documentOf record) with
          | ok book => exact absurd (.stored isPrimary reads absent isBook) (never book)
          | error fault => exact .malformed isPrimary reads absent isBook

end

/-! ### Observed loads -/

/-- The notice at the start of an operation. -/
def startNotice (name : String) : Notice := ⟨.debug, "Starting " ++ name, some .start⟩

/-- The notice at the end of an operation. -/
def endNotice {Result : Type} (name : String) : Except Fault Result → Notice
  | .ok _ => ⟨.info, "Completed " ++ name, some .complete⟩
  | .error fault => ⟨.error, "Failed " ++ name ++ ": " ++ fault.message, some (.failure fault)⟩

/-- Without an alarm there is no remark, and the operation has succeeded. -/
theorem silent_iff {Result : Type} (name : String) (outcome : Except Fault Result)
    {remarks : List Notice} (areRemarks : ∀ remark ∈ remarks, IsRemark remark) :
    (∀ notice ∈ startNotice name :: (remarks ++ [endNotice name outcome]), ¬ notice.IsAlarm) ↔
      remarks = [] ∧ ∃ result, outcome = .ok result := by
  constructor
  · intro silent
    constructor
    · refine List.eq_nil_iff_forall_not_mem.mpr fun remark member => ?_
      exact silent remark (List.mem_cons_of_mem _ (List.mem_append_left _ member))
        (areRemarks remark member).isAlarm
    · cases outcome with
      | ok result => exact ⟨result, rfl⟩
      | error fault =>
        refine absurd (Or.inr rfl) (silent (endNotice name (.error fault : Except Fault Result)) ?_)
        exact List.mem_cons_of_mem _ (List.mem_append_right _ (List.mem_singleton.mpr rfl))
  · rintro ⟨rfl, result, rfl⟩ notice member
    rcases List.mem_cons.mp member with rfl | isLast
    · exact fun alarm => alarm.elim nofun nofun
    · rw [List.mem_singleton.mp isLast]
      exact fun alarm => alarm.elim nofun nofun

/-- An observed operation is noted when it starts and when it ends, and how it ends. -/
theorem outcome_observed_noted {Result : Type} (name : String) (work : Run World Result)
    (world : World) :
    let done := work.outcome { world with journal := world.journal ++ [startNotice name] }
    (observed World.inJournal name work).outcome world =
      (done.1, { done.2 with journal := done.2.journal ++ [endNotice name done.1] }) := by
  intro done
  unfold observed
  rw [Run.outcome_bind]
  show (tryCatch work _ >>= _).outcome
    { world with journal := world.journal ++ [startNotice name] } = _
  rw [Run.outcome_bind, Run.outcome_tryCatch]
  show Run.continued _ (Run.handled _ done) = _
  obtain ⟨fault | result, after⟩ := done <;> rfl

section

variable (library : Library) (world : World)

/-- The world in which a load is done: its start is noted. -/
def noted : World :=
  { world with journal := world.journal ++ [startNotice "ScenarioStore.load_scenarios"] }

theorem outcome_load :
    let done := library.loadBook.outcome (noted world)
    library.load.outcome world = (done.1, { done.2 with
      journal := done.2.journal ++ [endNotice "ScenarioStore.load_scenarios" done.1] }) :=
  outcome_observed_noted _ _ _

/-- The notices of a load: first that it starts, then remarks, last how it ends. -/
theorem journal_load : ∃ remarks, (∀ remark ∈ remarks, IsRemark remark) ∧
    (library.load.outcome world).2.journal =
      world.journal ++ startNotice "ScenarioStore.load_scenarios" :: (remarks ++
        [endNotice "ScenarioStore.load_scenarios" (library.load.outcome world).1]) ∧
    (∀ book, (library.load.outcome world).1 = .ok book →
      (remarks = [] ↔ library.Untroubled world book)) := by
  obtain ⟨remarks, added, areRemarks⟩ := library.remarks_loadBook (noted world)
  refine ⟨remarks, areRemarks, ?_, fun book answers => ?_⟩
  · rw [outcome_load, added]
    simp only [noted, List.append_assoc, List.cons_append, List.nil_append]
  · rw [outcome_load] at answers
    rw [← untroubled_withJournal, ← quietly_loadBook_iff]
    constructor
    · rintro rfl
      exact ⟨answers, added.trans (List.append_nil _)⟩
    · exact fun quiet => List.append_right_eq_self.mp (added.symm.trans quiet.silent)

/-- An untroubled load answers its book. -/
theorem load_of_untroubled {book : Book} (untroubled : library.Untroubled world book) :
    (library.load.outcome world).1 = .ok book := by
  rw [outcome_load]
  have there : library.Untroubled (noted world) book :=
    library.untroubled_withJournal.mpr untroubled
  exact (library.quietly_loadBook_iff.mpr there).answers

end

/-! ### No load goes wrong in silence -/

/-- The record of the book stands for the book. -/
def RecordedAs (store : RecordStore) (book : Book) (world : World) : Prop :=
  ∃ record, store.Holds bookKey record world ∧ Book.ofDocument (documentOf record) = .ok book

/-- Where a load goes well the record stands for the book that is answered. -/
theorem recordedAs_of_untroubled {library : Library} {store : RecordStore} {world : World}
    {book : Book} (isPrimary : library.primary = some store)
    (untroubled : library.Untroubled world book) :
    RecordedAs store book (library.load.outcome world).2 := by
  rcases untroubled with ⟨isOther, reads, some_, isBook⟩ | ⟨isOther, absent, supplies, takes⟩ |
    ⟨noPrimary, -⟩
  · cases isPrimary.symm.trans isOther
    have present : ((store.read bookKey).outcome world).1 ≠ .ok .null := by
      rw [reads]
      exact fun isNull => some_ (Except.ok.inj isNull)
    exact ⟨_, (holds_of_read reads some_).of_sameRecords
      (load_present library store isPrimary world present), isBook⟩
  · cases isPrimary.symm.trans isOther
    have typed := typed_of_supplied library world book supplies
    refine ⟨_, load_holds library store isPrimary world absent book supplies takes, ?_⟩
    rw [Book.ofDocument_documentOf book typed.textual, Book.asRead_eq book typed]
  · cases isPrimary.symm.trans noPrimary

/-- Every load notes that it starts, first of all, and last how it ends: that it is completed if it
answers, that it failed otherwise. Between the two there are remarks, none of which sounds like
either. Something is wrong with the load exactly if one of its notices is an alarm. So without an
alarm the book that is answered is the one that the record stands for afterwards, or, without a
record store, the one that the seed supplies. -/
theorem load_never_silent (library : Library) (world : World) :
    ∃ remarks last,
      let notices := startNotice "ScenarioStore.load_scenarios" :: (remarks ++ [last])
      let loaded := library.load.outcome world
      loaded.2.journal = world.journal ++ notices ∧
        (match loaded.1 with
          | .ok _ => last = ⟨.info, "Completed ScenarioStore.load_scenarios", some .complete⟩
          | .error fault =>
            last = ⟨.error, "Failed ScenarioStore.load_scenarios: " ++ fault.message,
              some (.failure fault)⟩) ∧
        (∀ remark ∈ remarks, IsRemark remark ∧ ¬ remark.SoundsStaged) ∧
        ((∃ notice ∈ notices, notice.IsAlarm) ↔ library.Troubled world) ∧
        ∀ book, loaded.1 = .ok book → (∀ notice ∈ notices, ¬ notice.IsAlarm) →
          (∀ store, library.primary = some store → RecordedAs store book loaded.2) ∧
            (library.primary = none → library.supplied? world = some book) := by
  obtain ⟨remarks, areRemarks, added, quiet⟩ := library.journal_load world
  have silent := silent_iff "ScenarioStore.load_scenarios" (library.load.outcome world).1 areRemarks
  refine ⟨remarks, _, added, ?_, fun remark member =>
    ⟨areRemarks remark member, (areRemarks remark member).not_soundsStaged⟩, ?_, ?_⟩
  · cases (library.load.outcome world).1 <;> rfl
  · rw [troubled_iff, ← not_iff_not, not_exists]
    simp only [not_and, not_forall, not_not]
    rw [silent]
    constructor
    · rintro ⟨noRemark, book, answers⟩
      exact ⟨book, (quiet book answers).mp noRemark⟩
    · rintro ⟨book, untroubled⟩
      have answers := library.load_of_untroubled world untroubled
      exact ⟨(quiet book answers).mpr untroubled, book, answers⟩
  · intro book answers noAlarm
    have untroubled := (quiet book answers).mp (silent.mp noAlarm).1
    refine ⟨fun store isPrimary => recordedAs_of_untroubled isPrimary untroubled,
      fun noPrimary => ?_⟩
    refine untroubled.supplies_of_needed ?_
    rw [stored?, noPrimary]
    rfl

end Library

end MarketSignal
