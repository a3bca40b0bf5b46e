/-
This file proves that a document is taken alike wherever it comes in: as a backup that is restored,
as a book that is put, or as a document that is sent to be kept. The forms of the requests ask for
no more than the grammar does, so what is restored is taken by both requests, and what is not is
refused by both. A request that takes the document keeps the same book that is restored. A request
that refuses it does so before anything is done.

The entrances differ in two things only. The version of a backup is compared with the one that
backups are written with, where a request is content with any text. And a body may start with a byte
order mark, which makes a backup unreadable.
-/
import MarketSignal.Proofs.Document.Verdict
import MarketSignal.Proofs.Scenario.Findings
import MarketSignal.Proofs.Service.Answering
import MarketSignal.Proofs.Service.Form
import MarketSignal.Proofs.Storage.Working

namespace MarketSignal

/-! ### Documents without a version -/

/-- A value is no object with a version. -/
def Json.Unversioned (document : Json) : Prop :=
  ∀ members, document = .obj members → Entries.get? members "version" = none

theorem Book.ofDocument_eq_ok_iff (document : Json) (book : Book) :
    Book.ofDocument document = .ok book ↔
      document.IsDocument ∧ Book.ofUnchecked document = .ok book := by
  rw [← checkAgainst_eq_ok_iff, checkAgainst_grammarName]
  constructor
  · intro isBook
    obtain ⟨_, passes, isRead⟩ := bind_eq_ok isBook
    exact ⟨passes, isRead⟩
  · rintro ⟨passes, isRead⟩
    rw [Book.ofDocument, passes]
    exact isRead

/-- A text is restored as the document that it is the text of. -/
theorem Book.restore_eq_ok_iff {text : String}
    (unversioned : ∀ document, Json.read text = .ok document → document.Unversioned)
    (book : Book) :
    Book.restore text = .ok book ↔
      ∃ document, Json.read text = .ok document ∧ Book.ofDocument document = .ok book := by
  unfold Book.restore
  cases isRead : Json.read text with
  | error misread =>
    refine ⟨fun restored => ?_, nofun⟩
    cases misread <;> cases restored
  | ok document =>
    have passes : checkVersion document = .ok () := by
      unfold checkVersion
      cases document
      case obj members =>
        dsimp only
        rw [unversioned _ isRead members rfl]
      all_goals rfl
    show (do
      checkVersion document
      Book.ofDocument document) = .ok book ↔ _
    rw [passes, ok_bind]
    constructor
    · exact fun isBook => ⟨document, rfl, isBook⟩
    · rintro ⟨_, same, isBook⟩
      exact Except.ok.inj same ▸ isBook

namespace Service

/-- The operations that take a document. -/
def TakesDocument (operation : Operation) : Prop :=
  operation = .writeBook ∨ operation = .receive

/-- A document without a version fits the form and gives a book exactly if it is one that is
restored. -/
theorem takes_iff {operation : Operation} (takesDocument : TakesDocument operation)
    {document : Json} (unversioned : document.Unversioned) (book : Book) :
    blemishesOf operation (some document) = [] ∧ bookOf document = .ok book ↔
      Book.ofDocument document = .ok book := by
  have isForm : operation.form? = some Operation.documentForm := by
    rcases takesDocument with rfl | rfl <;> rfl
  have sameBook : Book.ofUnchecked (documentOf (document.member "scenarios")) =
    Book.ofUnchecked document := rfl
  rw [blemishesOf, isForm, bookOf, Book.ofDocument_eq_ok_iff, Book.ofDocument_eq_ok_iff, sameBook,
    Form.blemishes_eq_nil_iff]
  constructor
  · rintro ⟨⟨members, rfl, each⟩, ⟨_, scenarios, same, found, areScenarios, -⟩, isBook⟩
    cases same
    have fits := each _ List.mem_cons_self
    unfold Member.Fits at fits
    rw [Json.member_obj] at found
    cases present : Entries.get? members "scenarios" with
    | none =>
      rw [present] at fits
      cases fits
    | some part =>
      rw [present] at found
      cases found
      refine ⟨⟨members, scenarios, rfl, present, areScenarios, fun version isVersion => ?_⟩, isBook⟩
      rw [unversioned members rfl] at isVersion
      cases isVersion
  · rintro ⟨⟨members, scenarios, rfl, present, areScenarios, -⟩, isBook⟩
    have isPart : (Json.obj members).member "scenarios" = .obj scenarios := by
      rw [Json.member_obj, present]
      rfl
    have objects (member : String × Json) (among : member ∈ scenarios) :
        Operation.anyObject.Fits member.2 := by
      obtain ⟨parts, isObject, -⟩ := areScenarios member among
      exact ⟨parts, isObject, fun _ _ => trivial⟩
    refine ⟨⟨members, rfl, fun member among => ?_⟩, ?_, isBook⟩
    · unfold Member.Fits
      rcases List.mem_pair.mp among with rfl | rfl
      · dsimp only
        rw [present]
        exact ⟨scenarios, rfl, objects⟩
      · dsimp only
        rw [unversioned members rfl]
    · rw [isPart]
      exact ⟨_, scenarios, rfl, rfl, areScenarios, fun version isVersion => nomatch isVersion⟩

/-! ### Requests with a document -/

/-- A request brings a text to an operation, and does not ask to be strict. -/
structure Brings (request : Request) (operation : Operation) (text : String) : Prop where
  asks : request.operation? = some operation
  isText : request.body = some text
  lenient : strictness operation (Target.ofText request.target) = .ok false

section

variable (settings : Settings) {request : Request} {operation : Operation} {text : String}
  (takesDocument : TakesDocument operation) (brings : Brings request operation text)
  (unversioned : ∀ document, Json.read text = .ok document → document.Unversioned)

include takesDocument

theorem bodyFor_of_brings (brings : Brings request operation text) :
    request.bodyFor operation = readBody (some text) := by
  rw [← brings.isText]
  rcases takesDocument with rfl | rfl <;> rfl

include brings unversioned

/-- A request that brings what is restored has all that is needed. -/
theorem ready_of_restored {library : Library} (opens : libraryFor settings operation = .ok library)
    {document : Json} (isRead : Json.read text = .ok document) {book : Book}
    (isBook : Book.ofDocument document = .ok book) :
    Ready settings request operation library (some document) false ∧
      bookOf document = .ok book := by
  obtain ⟨fits, given⟩ := (takes_iff takesDocument (unversioned document isRead) book).mpr isBook
  refine ⟨⟨brings.asks, opens, ?_, fits, brings.lenient⟩, given⟩
  rw [bodyFor_of_brings takesDocument brings, readBody_of_read isRead]
  exact .value document

omit takesDocument brings unversioned in
/-- What gives no book is refused before anything is done. -/
theorem perform_refused (takesDocument : TakesDocument operation) (library : Library) (body : Json)
    (strict : Bool) (world : World) {fault : Fault} (fails : bookOf body = .error fault) :
    (settled ((perform settings library operation body strict).outcome world)).1.status ≠ 200 ∧
      (settled ((perform settings library operation body strict).outcome world)).2 = world := by
  have answers : perform settings library operation body strict =
      if fault.isFormat then pure (Answered.refusal 422 fault) else throw fault := by
    rcases takesDocument with rfl | rfl
    · unfold perform writeBook
      rw [fails]
    · unfold perform receive
      rw [fails]
  rw [answers]
  cases fault.isFormat
  · exact ⟨show 500 ≠ 200 by decide, rfl⟩
  · exact ⟨show 422 ≠ 200 by decide, rfl⟩

/-- A request that brings what is not restored is refused before anything is done. -/
theorem answer_refused (unmarked : Unmarked text) (refused : ∀ book, Book.restore text ≠ .ok book)
    (world : World) :
    (answer settings request world).1.status ≠ 200 ∧
      (answer settings request world).2 = world.reopened := by
  by_cases isReady : ∃ library given strict,
      Ready settings request operation library given strict
  · obtain ⟨library, given, strict, ready⟩ := isReady
    have gives := ready.gives
    rw [bodyFor_of_brings takesDocument brings] at gives
    rw [answer_ready settings request operation ready]
    cases isBody : readBody (some text) with
    | absent =>
      rw [isBody] at gives
      cases gives
      have fits := ready.fits
      rcases takesDocument with rfl | rfl <;> cases fits
    | value document =>
      rw [isBody] at gives
      cases gives
      have isRead := (readBody_eq_value_iff unmarked document).mp isBody
      cases given : bookOf document with
      | ok book =>
        have isBook := (takes_iff takesDocument (unversioned document isRead) book).mp
          ⟨ready.fits, given⟩
        exact absurd ((Book.restore_eq_ok_iff unversioned book).mpr ⟨document, isRead, isBook⟩)
          (refused book)
      | error fault => exact perform_refused settings takesDocument library document strict _ given
    | unusable answer =>
      rw [isBody] at gives
      cases gives
  · exact answer_unready settings request operation brings.asks
      (fun library given strict ready => isReady ⟨library, given, strict, ready⟩) world

end

end Service

/-! ### Putting the book -/

/-- A store that works takes a book and answers it from then on. -/
theorem Library.load_saved_working (library : Library) (store : RecordStore)
    (isPrimary : library.primary = some store) (book : Book) (typed : Book.Typed book)
    (world : World) (works : store.Works bookKey world) :
    ((library.save book).outcome world).1 = .ok () ∧
      (library.load.outcome ((library.save book).outcome world).2).1 = .ok book := by
  have steps : library.save book =
      operation "save_scenarios" (store.write bookKey (Book.toJson book)) := by
    unfold save saveBook
    rw [isPrimary]
  obtain ⟨first, last, done⟩ :=
    outcome_operation "save_scenarios" (store.write bookKey (Book.toJson book)) world
  rw [← steps] at done
  obtain ⟨stored, worksThen⟩ := (works.of_sameMedia (.withJournal world first)).write
    plainKey_bookKey.noSlash (Book.faithful_toJson book typed.textual)
  have saved : ((library.save book).outcome world).1 = .ok () := by
    rw [done]
    exact stored
  have worksLast : store.Works bookKey ((library.save book).outcome world).2 := by
    rw [done]
    exact worksThen.of_sameMedia (.withJournal _ last)
  have holds := (holds_of_save library store isPrimary book world).1 saved typed.textual
  exact ⟨saved, load_of_holds library store isPrimary book typed _ holds _
    (worksLast.read_of_holds holds)⟩

namespace Service

/-- A lenient put of a book saves it and answers how many scenarios it has, and its issues. -/
theorem outcome_writeBook (library : Library) {body : Json} {book : Book} {issues : List String}
    (given : bookOf body = .ok book) (areIssues : book.issues = .ok issues) (world : World)
    (succeeds : ((library.save book).outcome world).1 = .ok ()) :
    (writeBook library body false).outcome world =
      (.ok (saved book [("issues", .arr (issues.map .str))]),
        ((library.save book).outcome world).2) := by
  unfold writeBook
  rw [given]
  dsimp only
  rw [areIssues, Run.outcome_bind, Run.outcome_ofExcept, Run.continued, Bool.false_and,
    if_neg Bool.false_ne_true, answering, Run.outcome_tryCatch, Run.outcome_bind]
  revert succeeds
  obtain ⟨_, after⟩ := (library.save book).outcome world
  rintro rfl
  rfl

/-! ### Sending a document -/

/-- The file of the document that was sent last. -/
def inboxPath (settings : Settings) : Path := settings.dataPath.child "scenarios.json"

/-- A document that is sent to a file that takes documents stands there, and is read as the book
that it was sent as. -/
theorem outcome_receive (settings : Settings) {body : Json} {book : Book}
    (given : bookOf body = .ok book) (typed : Book.Typed book) (world : World)
    (takes : ((Disk.writeDocument (inboxPath settings) .null).outcome world.disk).1 = .ok ())
    (reads : world.disk.failing ≠ some .read) :
    ∃ after, (receive settings body).outcome world = (.ok (saved book []), after) ∧
      (((Seed.file (inboxPath settings)).fetch >>= fun document =>
        Run.ofExcept (Book.ofDocument document)).outcome after).1 = .ok book := by
  have faithful := Book.faithful_documentOf book typed.textual
  have isText : (documentOf (Book.toJson book)).writePage =
      .ok (documentOf (Book.toJson book)).page := by
    rw [Json.writePage, faithful.short, if_neg Bool.false_ne_true]
  obtain ⟨location, after, written, sameFailing, located, here⟩ :=
    Disk.outcome_writeDocument (inboxPath settings) .null _ _ world.disk isText takes
  have done : ∃ journal, (receive settings body).outcome world =
      (.ok (saved book []), { world with disk := after, journal := journal }) := by
    unfold receive
    rw [given]
    dsimp only
    rw [answering, Run.outcome_tryCatch, Run.outcome_bind, World.onDisk, Run.outcome_within]
    unfold inboxPath at written
    rw [written]
    exact ⟨_, rfl⟩
  obtain ⟨journal, done⟩ := done
  refine ⟨_, done, ?_⟩
  have fetched := Seed.outcome_fetch_file (inboxPath settings)
    { world with disk := after, journal := journal }
    (Disk.outcome_readText _ location _ after located here (sameFailing ▸ reads))
    (load_unifyLineEnds _ faithful)
  rw [Run.outcome_bind, fetched, Run.continued, Run.outcome_ofExcept]
  exact Book.ofDocument_documentOf_typed book typed

/-! ### The entrances agree -/

/-- The settings lead to a library whose record store works and to a file that takes documents, and
files can be read. -/
structure InOrder (settings : Settings) (library : Library) (store : RecordStore)
    (world : World) : Prop where
  opens : settings.library = .ok library
  isPrimary : library.primary = some store
  works : store.Works bookKey world
  takes : ((Disk.writeDocument (inboxPath settings) .null).outcome world.disk).1 = .ok ()
  reads : world.disk.failing ≠ some .read

/-- The answer gives the number of scenarios in a book and its issues, and the library has the book
afterwards. -/
structure PutsBook (library : Library) (book : Book) (answered : Answered × World) : Prop where
  answer : ∃ issues, book.issues = .ok issues ∧
    answered.1 = saved book [("issues", .arr (issues.map .str))]
  loads : (library.load.outcome answered.2).1 = .ok book

/-- The answer gives the number of scenarios in a book, and the document in a file is read as the
book afterwards. -/
structure KeepsBook (path : Path) (book : Book) (answered : Answered × World) : Prop where
  answer : answered.1 = saved book []
  reads : (((Seed.file path).fetch >>= fun document =>
    Run.ofExcept (Book.ofDocument document)).outcome answered.2).1 = .ok book

theorem PutsBook.status {library : Library} {book : Book} {answered : Answered × World}
    (puts : PutsBook library book answered) : answered.1.status = 200 := by
  obtain ⟨issues, -, isAnswer⟩ := puts.answer
  rw [isAnswer]
  rfl

theorem KeepsBook.status {path : Path} {book : Book} {answered : Answered × World}
    (keeps : KeepsBook path book answered) : answered.1.status = 200 := by
  rw [keeps.answer]
  rfl

section

variable {settings : Settings} {library : Library} {store : RecordStore} {world : World}
  {request : Request} {text : String} {book : Book}
  (inOrder : InOrder settings library store world)
  (unversioned : ∀ document, Json.read text = .ok document → document.Unversioned)
  (restored : Book.restore text = .ok book)

include inOrder unversioned restored

/-- What is restored can be put. -/
theorem putsBook_of_restored (brings : Brings request .writeBook text) :
    PutsBook library book (answer settings request world) := by
  obtain ⟨document, isRead, isBook⟩ := (Book.restore_eq_ok_iff unversioned book).mp restored
  obtain ⟨ready, given⟩ :=
    ready_of_restored settings (Or.inl rfl) brings unversioned inOrder.opens isRead isBook
  have typed := Book.typed_of_ofDocument document book isBook
  have areIssues := Book.issues_eq book fun entry present => (typed entry present).1.textual
  obtain ⟨isSaved, isLoaded⟩ := Library.load_saved_working library store inOrder.isPrimary book
    typed world.reopened (inOrder.works.of_sameMedia ⟨rfl, rfl, ⟨_, rfl⟩, ⟨_, rfl⟩⟩)
  have performs : perform settings library .writeBook ((some document).getD .null) false =
      writeBook library document false := rfl
  rw [answer_ready settings request .writeBook ready, performs,
    outcome_writeBook library given areIssues world.reopened isSaved]
  exact ⟨⟨_, areIssues, rfl⟩, isLoaded⟩

/-- What is restored can be sent. -/
theorem keepsBook_of_restored (brings : Brings request .receive text) :
    KeepsBook (inboxPath settings) book (answer settings request world) := by
  obtain ⟨document, isRead, isBook⟩ := (Book.restore_eq_ok_iff unversioned book).mp restored
  obtain ⟨ready, given⟩ :=
    ready_of_restored settings (Or.inr rfl) brings unversioned rfl isRead isBook
  have typed := Book.typed_of_ofDocument document book isBook
  obtain ⟨after, done, isFound⟩ :=
    outcome_receive settings given typed world.reopened inOrder.takes inOrder.reads
  have performs (library : Library) :
      perform settings library .receive ((some document).getD .null) false =
        receive settings document := rfl
  rw [answer_ready settings request .receive ready, performs, done]
  exact ⟨rfl, isFound⟩

end

end Service

end MarketSignal
