/-
This file says how a command line ends. Where its settings load, it comes to an end of its own,
unless the command is hindered: then a fault comes through that nobody reports. An end after values
or a document that are refused has the status one and a line beside the output that says so.

Values that are not what a command asks for are not always refused. Anything that counts as empty is
taken for no values at all, and anything else that is no object makes a fault come through as soon
as it is asked for a condition or a market.
-/
import MarketSignal.Proofs.CommandLine.Performing
import MarketSignal.Proofs.Service.Evaluating
import MarketSignal.Proofs.Settings.Layers

namespace MarketSignal

/-- A sequence fails if what follows its first step fails whenever the step succeeds. -/
theorem Run.exists_error_bind {State Result Other : Type} {work : Run State Result}
    {next : Result → Run State Other} {state : State}
    (fails : ∀ result after, work.outcome state = (.ok result, after) →
      ∃ fault, ((next result).outcome after).1 = .error fault) :
    ∃ fault, ((work >>= next).outcome state).1 = .error fault := by
  rw [outcome_bind]
  revert fails
  obtain ⟨fault | result, after⟩ := work.outcome state
  · exact fun _ => ⟨fault, rfl⟩
  · exact fun fails => fails result after rfl

/-- Sequences with the same first step come to the same if what follows it does. -/
theorem Run.outcome_bind_congr {State Result Other : Type} {work : Run State Result}
    {next other : Result → Run State Other} {state : State}
    (same : ∀ result after, work.outcome state = (.ok result, after) →
      (next result).outcome after = (other result).outcome after) :
    (work >>= next).outcome state = (work >>= other).outcome state := by
  rw [outcome_bind, outcome_bind]
  revert same
  obtain ⟨fault | result, after⟩ := work.outcome state
  · exact fun _ => rfl
  · exact fun same => same result after rfl

/-- Settings are looked up and nothing is changed. -/
theorem Settings.keeps_load (file : Path) (environment : Table String) (request : Table Json)
    {kept : Disk → Prop} : (Settings.load file environment request).Keeps kept := by
  have reads : (Settings.layerOfFile file).Keeps kept := by
    refine Run.keeps_bind Run.keeps_get fun disk =>
      Run.keeps_bind (Run.keeps_ofExcept _) fun isThere => ?_
    cases isThere with
    | false => exact Run.keeps_pure _
    | true =>
      refine Run.keeps_bind (fun before holds => ?_) fun text => Run.keeps_ofExcept _
      rw [Disk.outcome_readText_eq]
      exact holds
  exact Run.keeps_bind reads fun layer => Run.keeps_ofExcept _

namespace Command

/-- The values that a command is given are of a kind, on the disk as it is when they are read. -/
def ValuesAre (kind : Disk → Option String → Prop) (settings : Settings) (world : World) :
    Command → Prop
  | .evaluate _ values =>
    ∃ library, settings.library = .ok library ∧ kind (library.load.outcome world).2.disk values
  | .predict values =>
    ∃ library, settings.library = .ok library ∧ kind (library.load.outcome world).2.disk values
  | _ => False

/-- What is given for values is refused, or what is to be restored is. -/
def Misinformed (settings : Settings) (world : World) : Command → Prop
  | .restore source _ => Invalid source world.disk
  | command => command.ValuesAre Illegible settings world

/-- The values are read, and what is read counts as empty. -/
def Void (disk : Disk) (values : Option String) : Prop :=
  ∃ given, valueGiven values disk = .ok given ∧ given.truthy = false

/-- The same command without values. -/
def withoutValues : Command → Command
  | .evaluate id _ => .evaluate id none
  | .predict _ => .predict none
  | command => command

variable {settings : Settings} {world : World}

/-- Work that starts with a value that is refused fails. -/
theorem argumentValue_fails {Result : Type} {values : Option String} {after : World}
    (illegible : Illegible after.disk values) (next : Json → Run World Result) :
    ∃ fault, ((argumentValue values >>= next).outcome after).1 = .error fault := by
  obtain ⟨fault, isFault⟩ := valueGiven_illegible illegible
  rw [Run.outcome_bind, outcome_argumentValue, isFault]
  exact ⟨fault, rfl⟩

/-- A command that is misinformed fails. -/
theorem perform_misinformed {command : Command} (misinformed : command.Misinformed settings world) :
    ∃ fault, ((perform settings command).outcome world).1 = .error fault := by
  cases command with
  | evaluate id values =>
    obtain ⟨library, opens, illegible⟩ := misinformed
    refine Run.exists_error_bind fun opened before isOpened => ?_
    rw [Run.outcome_ofExcept, opens] at isOpened
    cases isOpened
    refine Run.exists_error_bind fun book after loads => argumentValue_fails ?_ _
    rw [loads] at illegible
    exact illegible
  | predict values =>
    obtain ⟨library, opens, illegible⟩ := misinformed
    refine Run.exists_error_bind fun opened before isOpened => ?_
    rw [Run.outcome_ofExcept, opens] at isOpened
    cases isOpened
    refine Run.exists_error_bind fun book after loads =>
      Run.exists_error_bind fun assignments last lists => argumentValue_fails ?_ _
    have sameDisk := library.sameDisk_assignments after
    rw [lists] at sameDisk
    rw [loads] at illegible
    rw [sameDisk]
    exact illegible
  | restore source strict =>
    obtain ⟨fault, isFault⟩ := bookNamed_invalid misinformed
    refine Run.exists_error_bind fun book after restores => ?_
    rw [outcome_bookInFile, isFault] at restores
    cases restores
  | list | display | assignments | assign | unassign | backUp | lint => exact misinformed.elim

/-- Work that takes what counts as empty for nothing does so with values that are void. -/
theorem outcome_argumentValue_void {Result : Type} {values : Option String} {after : World}
    (void : Void after.disk values) {next : Json → Run World Result}
    (takes : ∀ given : Json, given.truthy = false → next given = next (.obj [])) :
    (argumentValue values >>= next).outcome after =
      (argumentValue none >>= next).outcome after := by
  obtain ⟨given, isGiven, isEmpty⟩ := void
  rw [Run.outcome_bind, Run.outcome_bind, outcome_argumentValue, outcome_argumentValue, isGiven,
    valueGiven, Run.continued, Run.continued, takes given isEmpty]

/-- A command whose values are void does what it does without them. -/
theorem perform_void {command : Command} (void : command.ValuesAre Void settings world) :
    (perform settings command).outcome world =
      (perform settings command.withoutValues).outcome world := by
  cases command with
  | evaluate id values =>
    obtain ⟨library, opens, void⟩ := void
    simp only [withoutValues, perform]
    rw [opens]
    refine Run.outcome_bind_congr fun opened before isOpened => ?_
    cases isOpened
    refine Run.outcome_bind_congr fun book after loads => ?_
    rw [loads] at void
    refine outcome_argumentValue_void void fun given isEmpty => ?_
    simp only [Scenario.collect_empty _ isEmpty]
  | predict values =>
    obtain ⟨library, opens, void⟩ := void
    simp only [withoutValues, perform]
    rw [opens]
    refine Run.outcome_bind_congr fun opened before isOpened => ?_
    cases isOpened
    refine Run.outcome_bind_congr fun book after loads => ?_
    refine Run.outcome_bind_congr fun assignments last lists => ?_
    have sameDisk := library.sameDisk_assignments after
    rw [lists] at sameDisk
    rw [loads, ← sameDisk] at void
    refine outcome_argumentValue_void void fun given isEmpty => ?_
    simp only [predictMarkets, givenFor_empty isEmpty]
  | list | display | assignments | assign | unassign | backUp | restore | lint => exact void.elim

end Command

namespace Invocation

section

variable (invocation : Invocation) (environment : Table String) (world : World)
  {settings : Settings}
  (loads : ((invocation.settings environment).outcome world).1 = .ok settings)

include loads

/-- An invocation comes to what its command comes to in a session of its own, once the program's
own faults are reported. -/
theorem outcome_run :
    (invocation.run environment).outcome world =
      match (invocation.command.perform settings).outcome world.reopened with
      | (.ok finished, after) => (.ok finished, after)
      | (.error fault, after) =>
        (if fault.isOwn then .ok (.refused fault) else .error fault, after) := by
  have unchanged : (invocation.settings environment).outcome world.reopened =
      (.ok settings, world.reopened) := by
    have keeps : (Settings.load ((invocation.settingsFile.map Path.ofText).getD
        Settings.defaultFile) environment invocation.request).Keeps
          fun disk => disk = world.disk := Settings.keeps_load _ _ _
    refine Prod.ext loads ?_
    rw [Invocation.settings, World.onDisk, Run.outcome_within]
    exact congrArg (fun disk => { world.reopened with disk := disk }) (keeps world.disk rfl)
  have opens : Library.newSession.outcome world = (.ok (), world.reopened) := rfl
  rw [run, Run.outcome_bind, opens, Run.continued, Run.outcome_bind, unchanged, Run.continued,
    Run.outcome_tryCatch]
  obtain ⟨fault | finished, after⟩ :=
    (invocation.command.perform settings).outcome world.reopened
  · dsimp only [Run.handled]
    cases fault.isOwn <;> rfl
  · rfl

/-- A fault comes through exactly if the command is hindered. -/
theorem error_run_iff :
    (∃ fault, ((invocation.run environment).outcome world).1 = .error fault) ↔
      invocation.command.Hindered settings world.reopened := by
  rw [← Command.derails_perform_iff, Run.Derails, invocation.outcome_run environment world loads]
  obtain ⟨fault | finished, after⟩ :=
    (invocation.command.perform settings).outcome world.reopened
  · dsimp only
    rw [foreign_error_iff]
    cases isOwn : fault.isOwn with
    | false => exact iff_of_true ⟨fault, rfl⟩ rfl
    | true =>
      refine iff_of_false ?_ Bool.noConfusion
      rintro ⟨other, ⟨⟩⟩
  · refine iff_of_false ?_ (not_foreign_ok finished)
    rintro ⟨fault, ⟨⟩⟩

/-- Otherwise the command line comes to an end, which is that of a refusal if the command is
misinformed. -/
theorem exists_finished_run
    (unhindered : ¬ invocation.command.Hindered settings world.reopened) :
    ∃ finished, ((invocation.run environment).outcome world).1 = .ok finished ∧
      (invocation.command.Misinformed settings world.reopened →
        ∃ fault, finished = .refused fault) := by
  have misinformed := @Command.perform_misinformed settings world.reopened invocation.command
  rw [← invocation.error_run_iff environment world loads] at unhindered
  revert misinformed unhindered
  rw [invocation.outcome_run environment world loads]
  obtain ⟨fault | finished, after⟩ :=
    (invocation.command.perform settings).outcome world.reopened
  · dsimp only
    cases fault.isOwn with
    | false => exact fun unhindered _ => absurd ⟨fault, rfl⟩ unhindered
    | true => exact fun _ _ => ⟨.refused fault, rfl, fun _ => ⟨fault, rfl⟩⟩
  · refine fun _ misinformed => ⟨finished, rfl, fun given => ?_⟩
    obtain ⟨fault, fails⟩ := misinformed given
    cases fails

/-- What becomes of a command line whose settings load. A fault comes through exactly if its command
is hindered. Otherwise the command line comes to an end, and if what it was given for values or to
restore is refused, it ends with the status one and a line that says so. Values that count as empty
are not refused but taken for no values at all. -/
theorem run_fails_exactly :
    ((∃ fault, ((invocation.run environment).outcome world).1 = .error fault) ↔
        invocation.command.Hindered settings world.reopened) ∧
      (¬ invocation.command.Hindered settings world.reopened →
        ∃ finished, ((invocation.run environment).outcome world).1 = .ok finished ∧
          (invocation.command.Misinformed settings world.reopened →
            finished.status = 1 ∧ finished.output = "" ∧
              ∃ text, finished.complaint = "error: " ++ text ++ "\n")) ∧
      (invocation.command.ValuesAre Command.Void settings world.reopened →
        (invocation.run environment).outcome world =
          ({ invocation with command := invocation.command.withoutValues }.run
            environment).outcome world) := by
  refine ⟨invocation.error_run_iff environment world loads, fun unhindered => ?_, fun void => ?_⟩
  · obtain ⟨finished, isFinished, refused⟩ :=
      invocation.exists_finished_run environment world loads unhindered
    refine ⟨finished, isFinished, fun misinformed => ?_⟩
    obtain ⟨fault, rfl⟩ := refused misinformed
    exact ⟨rfl, rfl, fault.message, rfl⟩
  · have without := Invocation.outcome_run
      { invocation with command := invocation.command.withoutValues } environment world loads
    rw [without, invocation.outcome_run environment world loads, Command.perform_void void]

end

/-! ### Values for a scenario of the default book -/

/-- An invocation without a record store. -/
def unstored (command : Command) : Invocation := ⟨command, none, none, some "none", none, none⟩

theorem settings_unstored (command : Command) :
    (((unstored command).settings Table.empty).outcome World.fresh).1 = .ok Service.unstored := by
  have noFile : (Settings.layerOfFile Settings.defaultFile).outcome Disk.fresh =
      (.ok Table.empty, Disk.fresh) := rfl
  have noEnvironment : Settings.layerOfEnvironment Table.empty = Table.empty := rfl
  have entries : (unstored command).request.entries =
      [(Setting.store.name, .str StoreKind.none.name)] := rfl
  have known : ∀ name ∈ (unstored command).request.names, Setting.ofName? name ≠ none := by
    show ∀ name ∈ [Setting.store.name], _
    decide
  have chooses : Settings.ofLayers Table.empty Table.empty (unstored command).request =
      .ok Service.unstored := by
    rw [Settings.ofLayers, noEnvironment, Settings.apply_empty, ok_bind, Settings.apply_empty,
      ok_bind, Settings.apply_known _ _ known, entries, Settings.setAll_cons, Settings.set,
      Settings.storeKind_name, ok_bind]
    rfl
  have loaded : ((Settings.load Settings.defaultFile Table.empty
      (unstored command).request).outcome Disk.fresh).1 = .ok Service.unstored := by
    rw [Settings.load, Run.outcome_bind, noFile, Run.continued, Run.outcome_ofExcept]
    exact chooses
  rw [settings, World.onDisk, Run.outcome_within]
  exact loaded

/-- The default book is loaded, and the disk stays as it is. -/
theorem load_unstored :
    ∃ after, Service.unstoredLibrary.load.outcome World.fresh.reopened = (.ok defaultBook, after) ∧
      after.disk = Disk.fresh := by
  obtain ⟨journal, last, done⟩ :=
    outcome_operation "load_scenarios" Service.unstoredLibrary.loadBook World.fresh.reopened
  refine ⟨_, Prod.ext Service.load_unstored rfl, ?_⟩
  rw [Library.load, done, Service.unstoredLibrary, Service.seed_unstored]
  rfl

/-- An evaluation with values that are no text of a value is refused. -/
theorem run_unfinished_object :
    ∃ finished, (((unstored (.evaluate "bullishBreakout" (some "\x7b"))).run Table.empty).outcome
        World.fresh).1 = .ok finished ∧
      finished.status = 1 ∧ finished.output = "" ∧
        ∃ text, finished.complaint = "error: " ++ text ++ "\n" := by
  obtain ⟨after, loadsBook, isFresh⟩ := load_unstored
  have isText : Command.textGiven "\x7b" Disk.fresh = .ok "\x7b" := by
    rw [Command.textGiven, if_neg (by decide)]
  have malformed : Json.read "\x7b" = .error (.malformed .expectingName 1 1 2) := by rfl
  have isFault : Command.valueGiven (some "\x7b") Disk.fresh =
      .error (.malformed "$" ("Invalid JSON for --values: " ++
        Json.Complaint.message .expectingName)) := by
    rw [Command.valueGiven, isText, ok_bind, Command.valueOf, malformed]
  obtain ⟨-, ends, -⟩ := run_fails_exactly
    (unstored (.evaluate "bullishBreakout" (some "\x7b"))) Table.empty World.fresh
    (settings_unstored _)
  have unhindered : ¬ (Command.evaluate "bullishBreakout" (some "\x7b")).Hindered Service.unstored
      World.fresh.reopened := by
    rintro ((⟨isBucket, -⟩ | ⟨isDatabase, -⟩) | ⟨opens, fails | ⟨loads, hindered⟩⟩)
    · cases isBucket
    · cases isDatabase
    · cases opens
      have derails := (Service.unstoredLibrary.derails_load_iff _).mpr fails
      rw [Run.Derails, loadsBook] at derails
      exact not_foreign_ok _ derails
    · cases opens
      cases loadsBook.symm.trans loads
      rw [isFresh, isFault, ← Command.foreign_valueGiven_iff, isFault] at hindered
      rcases hindered with foreign | ⟨given, scenario, isGiven, -⟩
      · cases (foreign_error_iff _).mp foreign
      · cases isGiven
  obtain ⟨finished, isFinished, refused⟩ := ends unhindered
  refine ⟨finished, isFinished, refused ⟨Service.unstoredLibrary, rfl, ?_⟩⟩
  rw [loadsBook]
  dsimp only
  rw [isFresh]
  exact .notJson isText malformed

/-- A prediction with a list for values is understood and its settings load, but it fails with a
fault that nobody reports. -/
theorem run_list_of_values :
    ∃ invocation settings fault,
      ofWords ["predict", "--values", "[1]", "--primary-store", "none"] = .ok invocation ∧
      ((invocation.settings Table.empty).outcome World.fresh).1 = .ok settings ∧
      ((invocation.run Table.empty).outcome World.fresh).1 = .error fault := by
  have isUnderstood : ofWords ["predict", "--values", "[1]", "--primary-store", "none"] =
      .ok (unstored (.predict (some "[1]"))) := by rfl
  obtain ⟨after, loadsBook, isFresh⟩ := load_unstored
  have isRead : Json.read "[1]" = .ok (.arr [.int 1]) := by rfl
  have isGiven : Command.valueGiven (some "[1]") after.disk = .ok (.arr [.int 1]) := by
    rw [isFresh, Command.valueGiven, Command.textGiven, if_neg (by decide), ok_bind,
      Command.valueOf, isRead]
  have shows : ¬ Service.unstoredLibrary.HidesAssignments after := by
    rintro (⟨isPrimary, -⟩ | ⟨isPrimary, -⟩) <;> cases isPrimary
  obtain ⟨assignments, lists⟩ := (Service.unstoredLibrary.assignments_ends after).2 shows
  have isMarket : "gold" ∈ Service.unstored.markets := List.mem_cons_self
  have misshapen : (Json.arr [.int 1]).Misshapen := by
    refine ⟨rfl, fun members same => ?_⟩
    cases same
  have opens : Service.unstored.library = .ok Service.unstoredLibrary := rfl
  have hindered : (Command.predict (some "[1]")).Hindered Service.unstored World.fresh.reopened :=
    .opened opens (.loaded loadsBook (Or.inr (Or.inr
      ⟨assignments, _, lists, isGiven, "gold", isMarket, Or.inl misshapen⟩)))
  obtain ⟨fault, fails⟩ :=
    (error_run_iff _ Table.empty World.fresh (settings_unstored (.predict (some "[1]")))).mpr
      hindered
  exact ⟨_, _, fault, isUnderstood, settings_unstored _, fails⟩

end Invocation

end MarketSignal
