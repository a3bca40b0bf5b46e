/-
This file says when a command ends in a fault that is not of the program's own making, and does so
for every command exactly. The causes are gathered step by step in the order in which a command
takes its steps: opening the library, loading the book, reading what the command line names,
evaluating, writing. What is found is then always printed.
-/
import MarketSignal.Proofs.CommandLine.Reading
import MarketSignal.Proofs.Scenario.Findings
import MarketSignal.Proofs.Signal.Misshapen

namespace MarketSignal

/-! ### Opening the library -/

namespace Settings

/-- The settings choose a bucket or a database that they do not name. -/
inductive Incomplete (settings : Settings) : Prop where
  | bucket (isBucket : settings.store = .bucket) (unnamed : settings.bucket = none)
  | database (isDatabase : settings.store = .database) (unnamed : settings.databaseUrl = none)

/-- The library cannot be opened, or something else keeps a command from going on with it. -/
inductive Hinder (settings : Settings) (hindered : Library → Prop) : Prop where
  | unopened (incomplete : settings.Incomplete)
  | opened {library : Library} (opens : settings.library = .ok library)
    (isHindered : hindered library)

variable (settings : Settings)

theorem foreign_library_iff : Foreign settings.library ↔ settings.Incomplete := by
  refine foreign_iff_of_ends (fun incomplete => ?_) fun complete => ?_
  · rcases incomplete with ⟨isBucket, unnamed⟩ | ⟨isDatabase, unnamed⟩
    · rw [library, recordStore, isBucket, unnamed]
      exact ⟨_, rfl, rfl⟩
    · rw [library, recordStore, isDatabase, unnamed]
      exact ⟨_, rfl, rfl⟩
  · unfold library recordStore
    cases isStore : settings.store with
    | none => exact ⟨_, rfl⟩
    | folder => exact ⟨_, rfl⟩
    | bucket =>
      cases named : settings.bucket with
      | none => exact absurd (.bucket isStore named) complete
      | some bucket => exact ⟨_, rfl⟩
    | database =>
      cases named : settings.databaseUrl with
      | none => exact absurd (.database isStore named) complete
      | some url => exact ⟨_, rfl⟩

theorem outbox_of_opens {library : Library} (opens : settings.library = .ok library) :
    library.outbox = settings.outbox := by
  obtain ⟨store, -, isLibrary⟩ := bind_eq_ok opens
  cases isLibrary
  rfl

/-- Work on the library fails if the library cannot be opened or the work on it fails. -/
theorem derails_opening_iff {Result : Type} {next : Library → Run World Result} {world : World}
    {hindered : Library → Prop}
    (exactly : ∀ library, settings.library = .ok library →
      ((next library).Derails world ↔ hindered library)) :
    (Run.ofExcept settings.library >>= next).Derails world ↔ settings.Hinder hindered := by
  rw [Run.derails_ofExcept_bind_iff, settings.foreign_library_iff]
  constructor
  · rintro (incomplete | ⟨library, opens, derails⟩)
    · exact .unopened incomplete
    · exact .opened opens ((exactly library opens).mp derails)
  · rintro (incomplete | ⟨opens, isHindered⟩)
    · exact Or.inl incomplete
    · exact Or.inr ⟨_, opens, (exactly _ opens).mpr isHindered⟩

end Settings

/-! ### Loading the book -/

namespace Library

/-- The book cannot be loaded, or something else keeps a command from going on with it. -/
inductive Hinder (library : Library) (world : World) (hindered : Book → World → Prop) :
    Prop where
  | unloaded (fails : library.FailsToLoad world)
  | loaded {book : Book} {after : World} (loads : library.load.outcome world = (.ok book, after))
    (isHindered : hindered book after)

variable (library : Library) {world : World} {Result : Type} {next : Book → Run World Result}

/-- Work on the book fails if the book cannot be loaded or the work on it fails. -/
theorem derails_loading_iff {hindered : Book → World → Prop}
    (exactly : ∀ book after, Book.Typed book →
      ((next book).Derails after ↔ hindered book after)) :
    (library.load >>= next).Derails world ↔ library.Hinder world hindered := by
  have typed {book : Book} {after : World}
      (loads : library.load.outcome world = (.ok book, after)) : Book.Typed book :=
    typed_of_load library world book (congrArg Prod.fst loads)
  rw [Run.derails_bind_iff, library.derails_load_iff]
  constructor
  · rintro (fails | ⟨book, after, loads, derails⟩)
    · exact .unloaded fails
    · exact .loaded loads ((exactly book after (typed loads)).mp derails)
  · rintro (fails | ⟨loads, isHindered⟩)
    · exact Or.inl fails
    · exact Or.inr ⟨_, _, loads, (exactly _ _ (typed loads)).mpr isHindered⟩

/-- Work that never fails adds nothing to what keeps the book from being loaded. -/
theorem derails_loading_only
    (never : ∀ book after, Book.Typed book → ¬ (next book).Derails after) :
    (library.load >>= next).Derails world ↔ library.FailsToLoad world := by
  have hinders : (library.load >>= next).Derails world ↔
      library.Hinder world fun _ _ => False :=
    library.derails_loading_iff fun book after typed => iff_of_false (never book after typed) id
  rw [hinders]
  constructor
  · rintro (fails | ⟨-, nothing⟩)
    · exact fails
    · exact nothing.elim
  · exact .unloaded

/-- Listing the assignments leaves the disk as it is. -/
theorem sameDisk_assignments (library : Library) (world : World) :
    (library.assignments.outcome world).2.disk = world.disk := by
  have reads : library.readAssignments.Keeps fun after => after.disk = world.disk := by
    intro before same
    rw [library.sameDisk_readAssignments, same]
  have notes (level : Level) (message : String) :
      (World.note level message).Keeps fun after => after.disk = world.disk :=
    fun before same => same
  have keeps : library.assignments.Keeps fun after => after.disk = world.disk := by
    refine keeps_observed World.inJournal _ _ (fun _ before same => same) ?_
    refine Run.keeps_tryCatch reads fun fault => ?_
    split
    · exact Run.keeps_bind (notes _ _) fun _ => Run.keeps_pure _
    · exact Run.keeps_throw fault
  exact keeps world rfl

end Library

namespace Command

/-! ### Printing -/

/-- A value that can be written is printed. -/
theorem exists_printing {value : Json} (short : value.hasLongNumber = false) (status : Nat) :
    ∃ finished, Finished.printing value status = .ok finished := by
  rw [Finished.printing, Json.writePage, short]
  exact ⟨_, rfl⟩

theorem not_derails_printing {value : Json} (short : value.hasLongNumber = false) (status : Nat)
    (world : World) :
    ¬ (Run.ofExcept (Finished.printing value status) : Run World Finished).Derails world := by
  obtain ⟨finished, prints⟩ := exists_printing short status
  rw [Run.derails_ofExcept_iff, prints]
  exact not_foreign_ok finished

theorem short_textList (texts : List String) : (textList texts).hasLongNumber = false :=
  (Json.anyLongItem_eq_false_iff _).mpr (List.forall_mem_map.mpr fun _ _ => rfl)

theorem short_ofTexts (table : Table String) : (Json.ofTexts table).hasLongNumber = false :=
  (Json.anyLongMember_eq_false_iff _).mpr (List.forall_mem_map.mpr fun _ _ => rfl)

theorem short_names {book : Book} (typed : Book.Typed book) :
    (Json.obj (Table.map Scenario.name book).entries).hasLongNumber = false := by
  refine (Json.anyLongMember_eq_false_iff _).mpr (List.forall_mem_map.mpr fun entry present => ?_)
  exact (typed entry present).1.name.faithful.short

theorem Scenario.short_toJsonWithId {scenario : Scenario} (typed : scenario.Typed) :
    scenario.toJsonWithId.hasLongNumber = false := by
  have members := (Json.anyLongMember_eq_false_iff _).mp
    (scenario.faithful_toJson typed.textual).short
  exact (Json.anyLongMember_eq_false_iff _).mpr (List.forall_mem_cons.mpr ⟨rfl, members⟩)

theorem short_predictions {predictions : List Prediction}
    (short : ∀ prediction ∈ predictions, prediction.Short) :
    (Json.arr (predictions.map Prediction.toJsonWithText)).hasLongNumber = false :=
  (Json.anyLongItem_eq_false_iff _).mpr
    (List.forall_mem_map.mpr fun prediction member => (short prediction member).toJsonWithText)

/-! ### What hinders a command -/

/-- What makes a command fail with a fault from outside the program. -/
def Hindered (settings : Settings) (world : World) : Command → Prop
  | .list => settings.Hinder fun library => library.FailsToLoad world
  | .display _ => settings.Hinder fun library => library.FailsToLoad world
  | .evaluate id values =>
    settings.Hinder fun library => library.Hinder world fun book after =>
      Unusable after.disk values ∨
        ∃ given scenario, valueGiven values after.disk = .ok given ∧
          Table.get? book id = some scenario ∧ scenario.Chokes given
  | .predict values =>
    settings.Hinder fun library => library.Hinder world fun book after =>
      library.HidesAssignments after ∨ Unusable after.disk values ∨
        ∃ assignments given, (library.assignments.outcome after).1 = .ok assignments ∧
          valueGiven values after.disk = .ok given ∧
          book.ChokesOn assignments settings.markets given
  | .assignments => settings.Hinder fun library => library.HidesAssignments world
  | .assign _ word =>
    settings.Hinder fun library => library.Hinder world fun book after =>
      word = none ∨ ∃ id scenario, word = some id ∧ Table.get? book id = some scenario ∧
        (library.HidesAssignments after ∨ library.Unwritable after)
  | .unassign _ =>
    settings.Hinder fun library => library.HidesAssignments world ∨ library.Unwritable world
  | .backUp target =>
    settings.Hinder fun library => library.Hinder world fun _ after =>
      ∃ name, target = some name ∧ after.disk.Repels (Path.ofText name)
  | .restore source strict =>
    Unrestorable source world.disk ∨
      ∃ book, bookNamed source world.disk = .ok book ∧
        (strict = true → ∀ entry ∈ Table.entries book, entry.2.Unambiguous) ∧
        settings.Hinder fun library => library.FailsToSave world
  | .lint => settings.Hinder fun library => library.FailsToLoad world

section

variable (settings : Settings) (world : World)

theorem derails_list : (perform settings .list).Derails world ↔ Hindered settings world .list :=
  settings.derails_opening_iff fun library _ => library.derails_loading_only
    fun _ after typed => not_derails_printing (short_names typed) 0 after

theorem derails_lint : (perform settings .lint).Derails world ↔ Hindered settings world .lint := by
  refine settings.derails_opening_iff fun library _ => library.derails_loading_only
    fun book after typed => ?_
  rw [book.issues_eq fun entry present => (typed entry present).1.textual,
    Run.derails_ofExcept_bind_iff]
  rintro (foreign | ⟨issues, -, derails⟩)
  · exact not_foreign_ok _ foreign
  · refine not_derails_printing ?_ _ after derails
    exact (Json.anyLongMember_eq_false_iff _).mpr
      (List.forall_mem_singleton.mpr (short_textList issues))

/-- A scenario is found, or its absence is refused. -/
theorem foreign_scenarioNamed (book : Book) (id : String) : ¬ Foreign (scenarioNamed book id) := by
  unfold scenarioNamed
  cases Table.get? book id with
  | some scenario => exact not_foreign_ok scenario
  | none => exact fun foreign => nomatch (foreign_error_iff _).mp foreign

theorem scenarioNamed_eq_ok_iff (book : Book) (id : String) (scenario : Scenario) :
    scenarioNamed book id = .ok scenario ↔ Table.get? book id = some scenario := by
  unfold scenarioNamed
  cases Table.get? book id with
  | some found => rw [Except.ok.injEq, Option.some.injEq]
  | none => exact iff_of_false nofun nofun

/-- What follows on the scenario that is found. -/
theorem derails_scenarioNamed_bind_iff {Result : Type} (book : Book) (id : String)
    (next : Scenario → Run World Result) (after : World) :
    (Run.ofExcept (scenarioNamed book id) >>= next).Derails after ↔
      ∃ scenario, Table.get? book id = some scenario ∧ (next scenario).Derails after := by
  rw [Run.derails_ofExcept_bind_iff, or_iff_right (foreign_scenarioNamed book id)]
  simp only [scenarioNamed_eq_ok_iff]

theorem derails_display (id : String) :
    (perform settings (.display id)).Derails world ↔ Hindered settings world (.display id) := by
  refine settings.derails_opening_iff fun library _ => library.derails_loading_only
    fun book after typed => ?_
  rw [derails_scenarioNamed_bind_iff]
  rintro ⟨scenario, found, derails⟩
  have isTyped := (typed _ (Entries.mem_of_get? _ _ _ found)).1
  exact not_derails_printing (Scenario.short_toJsonWithId isTyped) 0 after derails

/-- What follows on the value that is given. -/
theorem derails_argumentValue_bind_iff {Result : Type} (values : Option String)
    (next : Json → Run World Result) (after : World) :
    (argumentValue values >>= next).Derails after ↔
      Unusable after.disk values ∨
        ∃ given, valueGiven values after.disk = .ok given ∧ (next given).Derails after := by
  rw [Run.derails_lookup_bind_iff (outcome_argumentValue values after), foreign_valueGiven_iff]

/-- Collecting, evaluating and printing fails if the scenario is asked for something misshapen. -/
theorem derails_evaluating_iff {scenario : Scenario} (typed : scenario.Typed) {given : Json}
    (short : given.hasLongNumber = false) (after : World) :
    (do
      let answers ← World.inJournal (scenario.collect given)
      let signal ← World.inJournal (MarketSignal.evaluate (.scenario scenario) (.answers answers))
      Run.ofExcept (Finished.printing signal.toJson (if signal.isError then 1 else 0)) :
        Run World Finished).Derails after ↔ scenario.Chokes given := by
  refine (typed.collect_endsExactly short).inJournal.derails_bind_iff rfl ?_ after
  rintro answers ⟨signal, evaluates, isShort⟩ before
  rw [Run.derails_after (Prod.ext (Run.yields_inJournal evaluates before) rfl)]
  exact not_derails_printing isShort.toJson _ _

theorem derails_evaluate (id : String) (values : Option String) :
    (perform settings (.evaluate id values)).Derails world ↔
      Hindered settings world (.evaluate id values) := by
  refine settings.derails_opening_iff fun library _ => library.derails_loading_iff
    fun book after typed => ?_
  rw [derails_argumentValue_bind_iff]
  refine or_congr_right (exists_congr fun given => ?_)
  rw [derails_scenarioNamed_bind_iff, ← exists_and_left]
  refine exists_congr fun scenario => and_congr_right fun isGiven => and_congr_right fun found => ?_
  exact derails_evaluating_iff (typed _ (Entries.mem_of_get? _ _ _ found)).1
    (short_valueGiven isGiven) after

/-- Predicting and printing fails if a market is asked for something misshapen. -/
theorem derails_predicting_iff {book : Book} (typed : Book.Typed book)
    (assignments : Table String) (markets : List String) {given : Json}
    (short : given.hasLongNumber = false) (after : World) :
    (do
      let predictions ←
        World.inJournal (predictMarkets book (.ofTexts assignments) markets given)
      Run.ofExcept (Finished.printing (.arr (predictions.map Prediction.toJsonWithText)) 0) :
        Run World Finished).Derails after ↔ book.ChokesOn assignments markets given :=
  (predictMarkets_endsExactly typed assignments markets short).inJournal.derails_bind_iff rfl
    (fun _ areShort before => not_derails_printing (short_predictions areShort) 0 before) after

theorem derails_predict (values : Option String) :
    (perform settings (.predict values)).Derails world ↔
      Hindered settings world (.predict values) := by
  refine settings.derails_opening_iff fun library _ => library.derails_loading_iff
    fun book after typed => ?_
  have sameDisk := library.sameDisk_assignments after
  rw [Run.derails_bind_iff, library.derails_assignments_iff]
  simp only [derails_argumentValue_bind_iff]
  constructor
  · rintro (hides | ⟨assignments, last, lists, derails⟩)
    · exact Or.inl hides
    · rw [lists] at sameDisk
      rw [sameDisk] at derails
      rcases derails with unusable | ⟨given, isGiven, derails⟩
      · exact Or.inr (Or.inl unusable)
      · exact Or.inr (Or.inr ⟨assignments, given, congrArg Prod.fst lists, isGiven,
          (derails_predicting_iff typed assignments settings.markets (short_valueGiven isGiven)
            last).mp derails⟩)
  · intro hindered
    by_cases hides : library.HidesAssignments after
    · exact Or.inl hides
    obtain ⟨listed, lists⟩ := (library.assignments_ends after).2 hides
    refine Or.inr ⟨listed, _, Prod.ext lists rfl, ?_⟩
    rw [sameDisk]
    rcases hindered.resolve_left hides with unusable | ⟨assignments, given, same, isGiven, chokes⟩
    · exact Or.inl unusable
    · cases lists.symm.trans same
      exact Or.inr ⟨given, isGiven, (derails_predicting_iff typed _ settings.markets
        (short_valueGiven isGiven) _).mpr chokes⟩

theorem derails_listAssignments :
    (perform settings .assignments).Derails world ↔ Hindered settings world .assignments := by
  refine settings.derails_opening_iff fun library _ => ?_
  rw [Run.derails_bind_iff, library.derails_assignments_iff]
  refine or_iff_left ?_
  rintro ⟨assignments, after, -, derails⟩
  exact not_derails_printing (short_ofTexts assignments) 0 after derails

/-- Changing the assignments and printing them. -/
theorem derails_changing_iff (library : Library) (name : String)
    {change : Table Json → Table Json}
    (texts : ∀ table : Table String, ∃ after : Table String,
      change (table.map .str) = after.map .str) (before : World) :
    (library.rewriting name change >>= fun changed =>
      (Run.ofExcept (Finished.printing (.obj changed.entries) 0) : Run World Finished)).Derails
        before ↔ library.HidesAssignments before ∨ library.Unwritable before := by
  rw [Run.derails_bind_iff, library.derails_rewriting_iff name change texts]
  refine or_iff_left ?_
  rintro ⟨changed, after, answers, derails⟩
  obtain ⟨table, rfl⟩ := library.answersOnly_rewriting name change texts before changed
    (congrArg Prod.fst answers)
  exact not_derails_printing (short_ofTexts table) 0 after derails

theorem derails_assign (market : String) (word : Option String) :
    (perform settings (.assign market word)).Derails world ↔
      Hindered settings world (.assign market word) := by
  refine settings.derails_opening_iff fun library _ => library.derails_loading_iff
    fun book after typed => ?_
  cases word with
  | none => exact iff_of_true ⟨.wrongKind, rfl, rfl⟩ (Or.inl rfl)
  | some id =>
    rw [Run.derails_ofExcept_bind_iff, identityOf, or_iff_right (not_foreign_ok id)]
    simp only [Except.ok.injEq, Option.some.injEq, exists_eq_left', reduceCtorEq, false_or,
      exists_and_left]
    rw [derails_scenarioNamed_bind_iff]
    refine exists_congr fun scenario => and_congr_right fun _ => ?_
    rw [library.assign_eq]
    exact derails_changing_iff library _ (Library.texts_put market id) after

theorem derails_unassign (market : String) :
    (perform settings (.unassign market)).Derails world ↔
      Hindered settings world (.unassign market) := by
  refine settings.derails_opening_iff fun library _ => ?_
  rw [library.unassign_eq]
  exact derails_changing_iff library _ (Library.texts_erase market) world

theorem derails_backUp (target : Option String) :
    (perform settings (.backUp target)).Derails world ↔
      Hindered settings world (.backUp target) := by
  refine settings.derails_opening_iff fun library _ => library.derails_loading_iff
    fun book after typed => ?_
  cases target with
  | none =>
    refine iff_of_false ?_ nofun
    dsimp only
    rw [Book.backupText_eq book typed.textual]
    exact not_foreign_ok _
  | some name =>
    simp only [Option.some.injEq, exists_eq_left']
    rw [Run.derails_bind_iff, derails_writeBackup_iff typed]
    refine or_iff_left ?_
    rintro ⟨_, _, -, derails⟩
    exact Run.not_derails_pure _ _ derails

/-- What follows on the book that is restored. -/
theorem derails_bookInFile_bind_iff {Result : Type} (name : String)
    (next : Book → Run World Result) :
    (bookInFile name >>= next).Derails world ↔
      Unrestorable name world.disk ∨
        ∃ book, bookNamed name world.disk = .ok book ∧ (next book).Derails world := by
  rw [Run.derails_lookup_bind_iff (outcome_bookInFile name world), foreign_bookNamed_iff]

/-- Saving a book and printing what was saved. -/
theorem derails_saving_iff {book : Book} (typed : Book.Typed book) (issues : List String) :
    (do
      (← Run.ofExcept settings.library).save book
      Run.ofExcept (Finished.printing
        (.obj [("imported", textList (alphabetical (Table.names book))),
          ("issues", textList issues)]) 0) : Run World Finished).Derails world ↔
      settings.Hinder fun library => library.FailsToSave world := by
  refine settings.derails_opening_iff fun library opens => ?_
  have usual (outbox : Outbox) (isOutbox : library.outbox = some outbox) : outbox.Usual :=
    settings.usual_outbox outbox (settings.outbox_of_opens opens ▸ isOutbox)
  have short := (Book.faithful_toJson book typed.textual).short
  rw [Run.derails_bind_iff, library.derails_save_iff usual short]
  refine or_iff_left ?_
  rintro ⟨_, after, -, derails⟩
  refine not_derails_printing ?_ 0 after derails
  refine (Json.anyLongMember_eq_false_iff _).mpr ?_
  rw [List.forall_mem_cons, List.forall_mem_singleton]
  exact ⟨short_textList _, short_textList issues⟩

theorem derails_restore (source : String) (strict : Bool) :
    (perform settings (.restore source strict)).Derails world ↔
      Hindered settings world (.restore source strict) := by
  refine (derails_bookInFile_bind_iff world source _).trans ?_
  refine or_congr_right (exists_congr fun book => and_congr_right fun isBook => ?_)
  have typed := typed_bookNamed isBook
  have textual : ∀ entry ∈ Table.entries book, entry.2.Textual :=
    fun entry present => (typed entry present).1.textual
  have areIssues := book.issues_eq textual
  have flawless := Book.issues_eq_nil_iff book textual
  rw [areIssues, Except.ok.injEq] at flawless
  rw [areIssues, Run.derails_ofExcept_bind_iff, or_iff_right (not_foreign_ok _), ← flawless]
  simp only [Except.ok.injEq, exists_eq_left']
  by_cases refuses : strict = true ∧ (Book.findings book).map Finding.issue ≠ []
  · rw [if_pos (by simpa using refuses)]
    refine iff_of_false ?_ fun hindered => refuses.2 (hindered.1 refuses.1)
    exact fun derails => nomatch (foreign_error_iff _).mp derails
  · have accepts : strict = true → (Book.findings book).map Finding.issue = [] :=
      fun isStrict => by_contra fun some_ => refuses ⟨isStrict, some_⟩
    rw [if_neg (by simpa using refuses), and_iff_right accepts]
    exact derails_saving_iff settings world typed _

/-- A command fails with a fault from outside the program exactly if something hinders it. -/
theorem derails_perform_iff (command : Command) :
    (perform settings command).Derails world ↔ Hindered settings world command := by
  cases command with
  | list => exact derails_list settings world
  | display id => exact derails_display settings world id
  | evaluate id values => exact derails_evaluate settings world id values
  | predict values => exact derails_predict settings world values
  | assignments => exact derails_listAssignments settings world
  | assign market word => exact derails_assign settings world market word
  | unassign market => exact derails_unassign settings world market
  | backUp target => exact derails_backUp settings world target
  | restore source strict => exact derails_restore settings world source strict
  | lint => exact derails_lint settings world

end

end Command

end MarketSignal
