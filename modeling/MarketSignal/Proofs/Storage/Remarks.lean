/-
This file follows the remarks that the steps of a load leave in the journal. Each step adds remarks
and takes nothing away, so a sequence of steps is quiet exactly if every step of it is. A failure
that is handled is remarked on, so a step that handles its failures is quiet exactly if there was
none to handle. For each step follows when it is quiet.
-/
import MarketSignal.Proofs.Storage.Reading
import MarketSignal.Proofs.Storage.Seeding

namespace MarketSignal

/-! ### Notices -/

/-- A notice that something went wrong. -/
def Notice.IsAlarm (notice : Notice) : Prop := notice.level = .warning ∨ notice.level = .error

/-- A notice that sounds as if it were about a stage of an operation. -/
def Notice.SoundsStaged (notice : Notice) : Prop :=
  ∃ rest, notice.message = "Starting " ++ rest ∨ notice.message = "Completed " ++ rest ∨
    notice.message = "Failed " ++ rest

namespace Library

/-- What a load remarks on before it is done. -/
inductive IsRemark : Notice → Prop
  | unread (text : String) : IsRemark ⟨.warning, "Primary tier read failed: " ++ text, none⟩
  | malformed (text : String) :
    IsRemark ⟨.warning, "Stored scenarios are malformed, ignoring them: " ++ text, none⟩
  | unsupplied (text : String) :
    IsRemark ⟨.error, "Error loading bootstrap scenarios: " ++ text, none⟩
  | fallback : IsRemark ⟨.warning, "Falling back to the built-in default scenario.", none⟩
  | unkept (text : String) :
    IsRemark ⟨.warning, "Unable to cache bootstrap scenarios: " ++ text, none⟩

theorem IsRemark.isAlarm {notice : Notice} (isRemark : IsRemark notice) : notice.IsAlarm := by
  cases isRemark with
  | unsupplied text => exact Or.inr rfl
  | _ => exact Or.inl rfl

/-- The first letters of a remark tell it from the notice of a stage. -/
theorem IsRemark.not_soundsStaged {notice : Notice} (isRemark : IsRemark notice) :
    ¬ notice.SoundsStaged := by
  have first (opening rest : String) (long : 3 ≤ opening.toList.length) :
      (opening ++ rest).toList.take 3 = opening.toList.take 3 := by
    rw [String.toList_append, List.take_append_of_le_length long]
  have remarked : notice.message.toList.take 3 ∈
      ["Pri".toList, "Sto".toList, "Err".toList, "Fal".toList, "Una".toList] := by
    cases isRemark with
    | fallback => decide
    | _ =>
      dsimp only
      rw [first _ _ (by decide)]
      decide
  rintro ⟨rest, same | same | same⟩
  all_goals
    rw [same, first _ _ (by decide)] at remarked
    exact absurd remarked (by decide)

/-! ### Work that adds remarks -/

section

variable {Result Other : Type}

/-- However the work ends, it adds remarks to the journal and takes nothing away. -/
def Remarks (work : Run World Result) : Prop :=
  ∀ world, ∃ remarks, (work.outcome world).2.journal = world.journal ++ remarks ∧
    ∀ remark ∈ remarks, IsRemark remark

/-- The work answers the result, and adds nothing to the journal. -/
structure Quietly (work : Run World Result) (world : World) (result : Result) : Prop where
  answers : (work.outcome world).1 = .ok result
  silent : (work.outcome world).2.journal = world.journal

/-- The work adds remarks, and it adds one whenever it does not fail. -/
structure Alerts (work : Run World Result) : Prop where
  remarks : Remarks work
  loud : ∀ world result, ¬ Quietly work world result

theorem remarks_of_sameJournal {work : Run World Result}
    (same : ∀ world, (work.outcome world).2.journal = world.journal) : Remarks work :=
  fun world => ⟨[], by rw [same, List.append_nil], fun _ member => absurd member List.not_mem_nil⟩

theorem remarks_pure (result : Result) : Remarks (pure result : Run World Result) :=
  remarks_of_sameJournal fun _ => rfl

theorem remarks_throw (fault : Fault) : Remarks (throw fault : Run World Result) :=
  remarks_of_sameJournal fun _ => rfl

theorem remarks_note {level : Level} {message : String}
    (isRemark : IsRemark ⟨level, message, none⟩) : Remarks (World.note level message) :=
  fun _ => ⟨[⟨level, message, none⟩], rfl, fun _ member => List.mem_singleton.mp member ▸ isRemark⟩

theorem Remarks.bind {work : Run World Result} {next : Result → Run World Other}
    (first : Remarks work) (rest : ∀ result, Remarks (next result)) : Remarks (work >>= next) := by
  intro world
  obtain ⟨remarks, added, areRemarks⟩ := first world
  rw [Run.outcome_bind]
  revert added
  obtain ⟨fault | result, between⟩ := work.outcome world
  · exact fun added => ⟨remarks, added, areRemarks⟩
  · intro added
    obtain ⟨others, addedLater, areOthers⟩ := rest result between
    refine ⟨remarks ++ others, ?_, List.forall_mem_append.mpr ⟨areRemarks, areOthers⟩⟩
    rw [Run.continued, addedLater, ← List.append_assoc]
    exact congrArg (· ++ others) added

theorem Remarks.map {work : Run World Result} (change : Result → Other) (first : Remarks work) :
    Remarks (change <$> work) := by
  rw [← bind_pure_comp]
  exact first.bind fun _ => remarks_pure _

theorem Remarks.tryCatch {work : Run World Result} {handler : Fault → Run World Result}
    (first : Remarks work) (rest : ∀ fault, Remarks (handler fault)) :
    Remarks (tryCatch work handler) := by
  intro world
  obtain ⟨remarks, added, areRemarks⟩ := first world
  rw [Run.outcome_tryCatch]
  revert added
  obtain ⟨fault | result, between⟩ := work.outcome world
  · intro added
    obtain ⟨others, addedLater, areOthers⟩ := rest fault between
    refine ⟨remarks ++ others, ?_, List.forall_mem_append.mpr ⟨areRemarks, areOthers⟩⟩
    rw [Run.handled, addedLater, ← List.append_assoc]
    exact congrArg (· ++ others) added
  · exact fun added => ⟨remarks, added, areRemarks⟩

/-! ### Quiet work -/

/-- Two additions to a journal that come to nothing are nothing each. -/
theorem journal_squeezed {first middle last : Journal} {early late : List Notice}
    (isMiddle : middle = first ++ early) (isLast : last = middle ++ late) (same : last = first) :
    middle = first ∧ last = middle := by
  have nothing : early ++ late = [] := by
    rw [isLast, isMiddle, List.append_assoc] at same
    exact List.append_right_eq_self.mp same
  obtain ⟨rfl, rfl⟩ := List.append_eq_nil_iff.mp nothing
  exact ⟨isMiddle.trans (List.append_nil _), isLast.trans (List.append_nil _)⟩

theorem quietly_pure_iff {given result : Result} {world : World} :
    Quietly (pure given) world result ↔ given = result :=
  ⟨fun quiet => Except.ok.inj quiet.answers, fun same => ⟨congrArg Except.ok same, rfl⟩⟩

/-- Work that leaves the journal alone is quiet if it succeeds. -/
theorem quietly_iff_of_sameJournal {work : Run World Result} {world : World} {result : Result}
    (same : (work.outcome world).2.journal = world.journal) :
    Quietly work world result ↔ (work.outcome world).1 = .ok result :=
  ⟨Quietly.answers, fun answers => ⟨answers, same⟩⟩

/-- A sequence is quiet if its steps are. -/
theorem quietly_bind_iff {work : Run World Result} {next : Result → Run World Other}
    (first : Remarks work) (rest : ∀ result, Remarks (next result)) {world : World}
    {other : Other} :
    Quietly (work >>= next) world other ↔
      ∃ result, Quietly work world result ∧ Quietly (next result) (work.outcome world).2 other := by
  constructor
  · rintro ⟨answers, silent⟩
    obtain ⟨remarks, added, -⟩ := first world
    rw [Run.outcome_bind] at answers silent
    cases done : work.outcome world with
    | mk outcome between =>
      rw [done] at answers silent added
      cases outcome with
      | error fault => cases answers
      | ok result =>
        obtain ⟨others, addedLater, -⟩ := rest result between
        obtain ⟨early, late⟩ := journal_squeezed added addedLater silent
        have first := congrArg (World.journal ∘ Prod.snd) done
        exact ⟨result, ⟨congrArg Prod.fst done, first.trans early⟩, answers, late⟩
  · rintro ⟨result, ⟨answers, silent⟩, later⟩
    have done : work.outcome world = (.ok result, (work.outcome world).2) := Prod.ext answers rfl
    refine ⟨?_, ?_⟩ <;> rw [Run.outcome_bind, done, Run.continued]
    · exact later.answers
    · exact later.silent.trans silent

theorem quietly_map_iff {work : Run World Result} {change : Result → Other} (first : Remarks work)
    {world : World} {other : Other} :
    Quietly (change <$> work) world other ↔ ∃ result, Quietly work world result ∧
      change result = other := by
  rw [← bind_pure_comp, quietly_bind_iff first fun _ => remarks_pure _]
  simp only [quietly_pure_iff]

/-- Work whose failures are remarked on is quiet if it does not fail. -/
theorem quietly_tryCatch_iff {work : Run World Result} {handler : Fault → Run World Result}
    (first : Remarks work) (alerts : ∀ fault, Alerts (handler fault)) {world : World}
    {result : Result} :
    Quietly (tryCatch work handler) world result ↔ Quietly work world result := by
  constructor
  · rintro ⟨answers, silent⟩
    obtain ⟨remarks, added, -⟩ := first world
    rw [Run.outcome_tryCatch] at answers silent
    cases done : work.outcome world with
    | mk outcome between =>
      rw [done] at answers silent added
      cases outcome with
      | error fault =>
        obtain ⟨others, addedLater, -⟩ := (alerts fault).remarks between
        obtain ⟨-, late⟩ := journal_squeezed added addedLater silent
        exact absurd ⟨answers, late⟩ ((alerts fault).loud between result)
      | ok other =>
        exact ⟨(congrArg Prod.fst done).trans answers,
          (congrArg (World.journal ∘ Prod.snd) done).trans silent⟩
  · rintro ⟨answers, silent⟩
    have done : work.outcome world = (.ok result, (work.outcome world).2) := Prod.ext answers rfl
    refine ⟨?_, ?_⟩ <;> rw [Run.outcome_tryCatch, done, Run.handled]
    exact silent

theorem alerts_throw (fault : Fault) : Alerts (throw fault : Run World Result) :=
  ⟨remarks_throw fault, fun _ _ quiet => nomatch quiet.answers⟩

theorem alerts_note {level : Level} {message : String}
    (isRemark : IsRemark ⟨level, message, none⟩) : Alerts (World.note level message) := by
  refine ⟨remarks_note isRemark, fun world result quiet => ?_⟩
  have noted : ((World.note level message).outcome world).2.journal =
      world.journal ++ [⟨level, message, none⟩] := rfl
  exact absurd (List.append_right_eq_self.mp (noted.symm.trans quiet.silent)) (List.cons_ne_nil _ _)

theorem Alerts.bind {work : Run World Result} {next : Result → Run World Other}
    (first : Alerts work) (rest : ∀ result, Remarks (next result)) : Alerts (work >>= next) := by
  refine ⟨first.remarks.bind rest, fun world other quiet => ?_⟩
  obtain ⟨result, firstQuiet, -⟩ := (quietly_bind_iff first.remarks rest).mp quiet
  exact first.loud world result firstQuiet

theorem Alerts.ite {first second : Run World Result} (condition : Bool) (alerts : Alerts first)
    (alertsToo : Alerts second) : Alerts (if condition then first else second) := by
  cases condition
  · exact alertsToo
  · exact alerts

end

/-! ### The tiers -/

open RecordStore

theorem journal_read (store : RecordStore) (key : String) (world : World) :
    ((store.read key).outcome world).2.journal = world.journal := by
  cases store <;> rfl

theorem journal_write (store : RecordStore) (key : String) (value : Json) (world : World) :
    ((store.write key value).outcome world).2.journal = world.journal := by
  cases store <;> rfl

theorem journal_fetch (seed : Seed) (world : World) :
    (seed.fetch.outcome world).2.journal = world.journal := by
  have readText (path : Path) : ((World.onDisk (Disk.readText path) >>= fun text =>
      Run.ofExcept (Json.load text)).outcome world).2.journal = world.journal := by
    rw [Run.outcome_bind, World.onDisk, Run.outcome_within]
    obtain ⟨fault | text, disk⟩ := (Disk.readText path).outcome world.disk
    · rfl
    · rw [Run.continued, Run.outcome_ofExcept]
  cases seed with
  | packaged resource => exact readText _
  | file path => exact readText path
  | web url timeout =>
    unfold Seed.fetch
    dsimp only
    rw [Run.outcome_bind, World.onExchange, Run.outcome_within]
    obtain ⟨fault | response, exchange⟩ :=
      (Exchange.perform (.fetch url timeout)).outcome world.exchange
    · rfl
    · rw [Run.continued]
      split
      · rfl
      · rw [Run.outcome_ofExcept]
  | given document => cases document <;> rfl
  | unreachable text => rfl

theorem remarks_read (store : RecordStore) (key : String) : Remarks (store.read key) :=
  remarks_of_sameJournal (journal_read store key)

theorem remarks_write (store : RecordStore) (key : String) (value : Json) :
    Remarks (store.write key value) :=
  remarks_of_sameJournal (journal_write store key value)

/-- Bytes that are read are those of a file. -/
theorem file_of_readBytes {path : Path} {disk : Disk} {bytes : ByteArray}
    (reads : ((Disk.readBytes path).outcome disk).1 = .ok bytes) :
    ∃ location, disk.locate path = .ok location ∧ disk.node? location = some (.file bytes) := by
  rw [Disk.outcome_readBytes_eq] at reads
  split at reads
  · cases reads
  · obtain ⟨location, located, isBytes⟩ := bind_eq_ok reads
    refine ⟨location, located, ?_⟩
    cases node : disk.node? location with
    | none =>
      rw [node] at isBytes
      cases isBytes
    | some here =>
      rw [node] at isBytes
      cases here with
      | folder => cases isBytes
      | file held =>
        cases isBytes
        rfl

/-- What a store answers it holds, unless it is null. -/
theorem holds_of_read {store : RecordStore} {key : String} {world : World} {record : Json}
    (reads : ((store.read key).outcome world).1 = .ok record) (some_ : record ≠ .null) :
    store.Holds key record world := by
  cases store with
  | memory =>
    replace reads := (Memory.outcome_read_eq key world.memory).symm.trans reads
    split at reads
    · cases reads
    · cases kept : world.memory.records.get? key with
      | none =>
        rw [kept] at reads
        exact absurd (Except.ok.inj reads).symm some_
      | some value =>
        rw [kept] at reads
        cases reads
        exact kept
  | folder root =>
    rw [RecordStore.read, World.onDisk, Run.outcome_within, Disk.outcome_readRecord_eq] at reads
    obtain ⟨there, -, reads⟩ := bind_eq_ok reads
    cases there with
    | false => exact absurd (Except.ok.inj reads).symm some_
    | true =>
      obtain ⟨bytes, found, isRecord⟩ := bind_eq_ok reads
      split at found
      case h_1 read isRead =>
        cases found
        obtain ⟨location, located, here⟩ := file_of_readBytes isRead
        exact ⟨location, bytes, located, here, isRecord⟩
      case h_2 => cases found
  | bucket name stem =>
    replace reads := (Bucket.outcome_readRecord_eq name stem key world.bucket).symm.trans reads
    cases kept : world.bucket.blobs.get? (Bucket.blobName name stem key) with
    | none =>
      rw [kept, Bucket.answer] at reads
      split_ifs at reads
      exact absurd (Except.ok.inj reads).symm some_
    | some bytes =>
      rw [kept, Bucket.answer] at reads
      split_ifs at reads
      exact ⟨bytes, kept, reads⟩
  | database url table =>
    replace reads := (Database.outcome_readRecord_eq url table key world.database).symm.trans reads
    cases kept : world.database.rows.get? key with
    | none =>
      rw [kept, Database.answer] at reads
      split_ifs at reads
      exact absurd (Except.ok.inj reads).symm some_
    | some value =>
      rw [kept, Database.answer] at reads
      split_ifs at reads
      cases reads
      exact kept

/-! ### Looking for the book -/

section

variable (store : RecordStore)

theorem alerts_unread (fault : Fault) : Alerts (if fault.isStorage then do
      World.note .warning ("Primary tier read failed: " ++ fault.message)
      return none
    else throw fault : Run World (Option Json)) :=
  ((alerts_note (.unread _)).bind fun _ => remarks_pure _).ite _ (alerts_throw fault)

theorem remarks_readRecord : Remarks (readRecord store) :=
  ((remarks_read store bookKey).map _).tryCatch fun fault => (alerts_unread fault).remarks

theorem quietly_readRecord_iff {world : World} {found : Option Json} :
    Quietly (readRecord store) world found ↔
      ∃ record, ((store.read bookKey).outcome world).1 = .ok record ∧ some record = found := by
  rw [readRecord, quietly_tryCatch_iff ((remarks_read store bookKey).map _) alerts_unread,
    quietly_map_iff (remarks_read store bookKey)]
  simp only [quietly_iff_of_sameJournal (journal_read store bookKey world)]

end

section

variable (library : Library)

/-- A record that is no book is remarked on. -/
theorem alerts_malformed (fault : Fault) : Alerts (if fault.isFormat then do
      World.note .warning ("Stored scenarios are malformed, ignoring them: " ++ fault.message)
      return .unusable
    else throw fault : Run World Stored) :=
  ((alerts_note (.malformed _)).bind fun _ => remarks_pure _).ite _ (alerts_throw fault)

/-- What is made of the answer of the record store. -/
def judging (found : Option Json) : Run World Stored :=
  match found with
  | none => return .unusable
  | some .null => return .absent
  | some record =>
    match Book.ofDocument (documentOf record) with
    | .ok book => return .book book
    | .error fault =>
      if fault.isFormat then do
        World.note .warning
          ("Stored scenarios are malformed, ignoring them: " ++ fault.message)
        return .unusable
      else throw fault

theorem remarks_judging (found : Option Json) : Remarks (judging found) := by
  unfold judging
  split
  · exact remarks_pure _
  · exact remarks_pure _
  · split
    · exact remarks_pure _
    · exact (alerts_malformed _).remarks

theorem quietly_judging_iff {record : Json} {world : World} {stored : Stored} :
    Quietly (judging (some record)) world stored ↔
      judged record = .ok stored ∧ stored ≠ .unusable := by
  by_cases absent : record = .null
  · subst absent
    refine quietly_pure_iff.trans ⟨?_, fun ⟨isAbsent, _⟩ => Except.ok.inj isAbsent⟩
    rintro rfl
    exact ⟨rfl, nofun⟩
  · rw [judged_of_ne_null record absent]
    unfold judging
    split
    case h_1 same => cases same
    case h_2 same => exact absurd (Option.some.inj same) absent
    case h_3 same =>
      cases same
      cases Book.ofDocument (documentOf record) with
      | ok book =>
        refine quietly_pure_iff.trans ⟨?_, fun ⟨same, _⟩ => Except.ok.inj same⟩
        rintro rfl
        exact ⟨rfl, nofun⟩
      | error fault =>
        refine iff_of_false ((alerts_malformed fault).loud world stored) ?_
        rintro ⟨same, usable⟩
        dsimp only at same
        split at same
        · exact usable (Except.ok.inj same).symm
        · cases same

theorem readStored_eq {store : RecordStore} (isPrimary : library.primary = some store) :
    library.readStored = readRecord store >>= judging := by
  unfold readStored
  rw [isPrimary]
  rfl

theorem remarks_readStored : Remarks library.readStored := by
  cases isPrimary : library.primary with
  | none =>
    unfold readStored
    rw [isPrimary]
    exact remarks_pure _
  | some store =>
    rw [readStored_eq library isPrimary]
    exact (remarks_readRecord store).bind remarks_judging

/-- Looking for the book is quiet if a record is there that is a book, or none is. -/
theorem quietly_readStored_iff {store : RecordStore} (isPrimary : library.primary = some store)
    {world : World} {stored : Stored} :
    Quietly library.readStored world stored ↔
      ∃ record, ((store.read bookKey).outcome world).1 = .ok record ∧
        judged record = .ok stored ∧ stored ≠ .unusable := by
  rw [readStored_eq library isPrimary,
    quietly_bind_iff (remarks_readRecord store) remarks_judging]
  constructor
  · rintro ⟨found, quiet, later⟩
    obtain ⟨record, isRecord, rfl⟩ := (quietly_readRecord_iff store).mp quiet
    exact ⟨record, isRecord, quietly_judging_iff.mp later⟩
  · rintro ⟨record, isRecord, isJudged⟩
    exact ⟨some record, (quietly_readRecord_iff store).mpr ⟨record, isRecord, rfl⟩,
      quietly_judging_iff.mpr isJudged⟩

theorem quietly_readStored_none_iff (noPrimary : library.primary = none) {world : World}
    {stored : Stored} : Quietly library.readStored world stored ↔ stored = .absent := by
  unfold readStored
  rw [noPrimary]
  exact quietly_pure_iff.trans eq_comm

/-! ### Asking the seed -/

theorem alerts_unsupplied (fault : Fault) : Alerts (do
      World.note .error ("Error loading bootstrap scenarios: " ++ fault.message)
      return none : Run World (Option Book)) :=
  (alerts_note (.unsupplied _)).bind fun _ => remarks_pure _

/-- The document of a seed, read as a book. -/
def fetching (seed : Seed) : Run World (Option Book) := do
  return some (← Run.ofExcept (Book.ofDocument (← seed.fetch)))

theorem outcome_fetching (seed : Seed) (world : World) :
    (fetching seed).outcome world =
      ((seed.fetch.outcome world).1 >>= fun document => some <$> Book.ofDocument document,
        (seed.fetch.outcome world).2) := by
  unfold fetching
  rw [Run.outcome_bind]
  obtain ⟨fault | document, after⟩ := seed.fetch.outcome world
  · rfl
  · dsimp only [Run.continued]
    rw [Run.outcome_bind, Run.outcome_ofExcept, ok_bind]
    cases Book.ofDocument document <;> rfl

theorem journal_fetching (seed : Seed) (world : World) :
    ((fetching seed).outcome world).2.journal = world.journal := by
  rw [outcome_fetching]
  exact journal_fetch seed world

theorem remarks_fetching (seed : Seed) : Remarks (fetching seed) :=
  remarks_of_sameJournal (journal_fetching seed)

theorem readSeed_eq {seed : Seed} (isSeed : library.seed = some seed) :
    library.readSeed = tryCatch (fetching seed) fun fault => do
      World.note .error ("Error loading bootstrap scenarios: " ++ fault.message)
      return none := by
  unfold readSeed
  rw [isSeed]
  rfl

theorem remarks_readSeed : Remarks library.readSeed := by
  cases isSeed : library.seed with
  | none =>
    unfold readSeed
    rw [isSeed]
    exact remarks_pure _
  | some seed =>
    rw [readSeed_eq library isSeed]
    exact (remarks_fetching seed).tryCatch fun fault => (alerts_unsupplied fault).remarks

/-- Asking the seed for its book is quiet if it supplies one. -/
theorem quietly_readSeed_iff {world : World} {book : Book} :
    Quietly library.readSeed world (some book) ↔ library.supplied? world = some book := by
  constructor
  · intro quiet
    exact Except.ok.inj ((outcome_readSeed library world).symm.trans quiet.answers)
  · intro supplies
    obtain ⟨seed, isSeed, supplied⟩ := Option.bind_eq_some_iff.mp supplies
    rw [readSeed_eq library isSeed,
      quietly_tryCatch_iff (remarks_fetching seed) alerts_unsupplied,
      quietly_iff_of_sameJournal (journal_fetching seed world), outcome_fetching]
    dsimp only
    cases fetched : (seed.fetch.outcome world).1 with
    | error fault =>
      rw [fetched] at supplied
      cases supplied
    | ok document =>
      rw [fetched, ok_bind] at supplied
      rw [ok_bind]
      cases isBook : Book.ofDocument document with
      | error fault =>
        rw [isBook] at supplied
        cases supplied
      | ok other =>
        rw [isBook] at supplied
        cases supplied
        rfl

/-! ### Keeping what the seed supplies -/

theorem alerts_unkept (fault : Fault) : Alerts (if fault.isStorage then
      World.note .warning ("Unable to cache bootstrap scenarios: " ++ fault.message)
    else throw fault : Run World Unit) :=
  (alerts_note (.unkept _)).ite _ (alerts_throw fault)

theorem remarks_keepSeed (store : RecordStore) (book : Book) : Remarks (keepSeed store book) :=
  (remarks_write store bookKey _).tryCatch fun fault => (alerts_unkept fault).remarks

theorem quietly_keepSeed_iff {store : RecordStore} {book : Book} {world : World} :
    Quietly (keepSeed store book) world () ↔
      ((store.write bookKey (Book.toJson book)).outcome world).1 = .ok () := by
  rw [keepSeed, quietly_tryCatch_iff (remarks_write store bookKey _) alerts_unkept,
    quietly_iff_of_sameJournal (journal_write store bookKey _ world)]

/-- What is done with the answer of the seed. -/
def keeping (recordAbsent : Bool) (supplied : Option Book) : Run World Book :=
  match supplied with
  | none => do
    World.note .warning "Falling back to the built-in default scenario."
    return defaultBook
  | some book => do
    match library.primary, recordAbsent with
    | some store, true => keepSeed store book
    | _, _ => pure ()
    return book

theorem loadFromSeed_eq (recordAbsent : Bool) :
    library.loadFromSeed recordAbsent = library.readSeed >>= library.keeping recordAbsent := rfl

theorem alerts_fallback (recordAbsent : Bool) : Alerts (library.keeping recordAbsent none) :=
  (alerts_note .fallback).bind fun _ => remarks_pure _

theorem remarks_keeping (recordAbsent : Bool) (supplied : Option Book) :
    Remarks (library.keeping recordAbsent supplied) := by
  cases supplied with
  | none => exact (library.alerts_fallback recordAbsent).remarks
  | some book =>
    unfold keeping
    dsimp only
    split
    · exact (remarks_keepSeed _ book).bind fun _ => remarks_pure _
    · exact (remarks_pure ()).bind fun _ => remarks_pure _

/-- The seed's book is answered in silence if it is kept wherever there is a record store without a
record. -/
theorem quietly_keeping_iff {recordAbsent : Bool} {given book : Book} {world : World} :
    Quietly (library.keeping recordAbsent (some given)) world book ↔
      given = book ∧ ∀ store, library.primary = some store → recordAbsent = true →
        ((store.write bookKey (Book.toJson book)).outcome world).1 = .ok () := by
  unfold keeping
  dsimp only
  split
  case h_1 store isPrimary =>
    rw [quietly_bind_iff (remarks_keepSeed store given) fun _ => remarks_pure _, isPrimary]
    constructor
    · rintro ⟨_, quiet, isBook⟩
      cases quietly_pure_iff.mp isBook
      refine ⟨rfl, fun other same _ => ?_⟩
      cases same
      exact quietly_keepSeed_iff.mp quiet
    · rintro ⟨rfl, keeps⟩
      exact ⟨(), quietly_keepSeed_iff.mpr (keeps store rfl rfl), quietly_pure_iff.mpr rfl⟩
  case h_2 other =>
    refine quietly_pure_iff.trans ⟨fun same => ⟨same, fun store isPrimary absent => ?_⟩, And.left⟩
    exact (other store isPrimary absent).elim

theorem remarks_loadFromSeed (recordAbsent : Bool) : Remarks (library.loadFromSeed recordAbsent) :=
  library.remarks_readSeed.bind (library.remarks_keeping recordAbsent)

/-- Falling back on the seed is quiet if it supplies the book that is answered, and the record store
without a record takes it. -/
theorem quietly_loadFromSeed_iff {recordAbsent : Bool} {world : World} {book : Book} :
    Quietly (library.loadFromSeed recordAbsent) world book ↔
      library.supplied? world = some book ∧
        ∀ store, library.primary = some store → recordAbsent = true →
          ((store.write bookKey (Book.toJson book)).outcome world).1 = .ok () := by
  have media := (undisturbed_sameMedia world).keeps_readSeed library world (.refl world)
  rw [loadFromSeed_eq,
    quietly_bind_iff library.remarks_readSeed (library.remarks_keeping recordAbsent)]
  constructor
  · rintro ⟨supplied, quiet, later⟩
    cases supplied with
    | none => exact absurd later ((library.alerts_fallback recordAbsent).loud _ _)
    | some given =>
      obtain ⟨rfl, keeps⟩ := library.quietly_keeping_iff.mp later
      refine ⟨library.quietly_readSeed_iff.mp quiet, fun store isPrimary absent => ?_⟩
      rw [← media.write_eq]
      exact keeps store isPrimary absent
  · rintro ⟨supplies, keeps⟩
    refine ⟨some book, library.quietly_readSeed_iff.mpr supplies,
      library.quietly_keeping_iff.mpr ⟨rfl, fun store isPrimary absent => ?_⟩⟩
    rw [media.write_eq]
    exact keeps store isPrimary absent

end

end Library

end MarketSignal
