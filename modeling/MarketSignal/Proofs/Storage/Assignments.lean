/-
This file proves that a library keeps its assignments as an ordered map. Every operation reads all
assignments, changes them as the map is changed and writes them all back; a library that works does
not fail at that and works again afterwards. So two libraries that start with the same assignments
answer alike for good, whether they keep them in a record store of whatever kind or for the session
only. What is kept in a record store outlives the session.
-/
import MarketSignal.Proofs.Storage.Atomicity
import MarketSignal.Proofs.Storage.Working

namespace MarketSignal

/-! ### Ordered maps -/

/-- The scenarios of markets, in the order in which the markets came. -/
abbrev Ledger := List (String × String)

namespace Ledger

/-- The markets, in order. -/
def markets (ledger : Ledger) : List String := ledger.map Prod.fst

/-- Puts a scenario in the place of the one that the market has, or the market at the end. -/
def put (ledger : Ledger) (market id : String) : Ledger :=
  if market ∈ ledger.markets then
    ledger.map fun entry => if entry.1 = market then (market, id) else entry
  else ledger ++ [(market, id)]

/-- Takes a market out. -/
def remove (ledger : Ledger) (market : String) : Ledger :=
  ledger.filter fun entry => entry.1 != market

/-- The ledger as an object. -/
def toJson (ledger : Ledger) : Json := .obj (ledger.map fun entry => (entry.1, .str entry.2))

theorem put_entries (table : Table String) (market id : String) :
    put table.entries market id = (table.put market id).entries := by
  by_cases present : market ∈ Entries.names table.entries
  · exact (if_pos present).trans
      (Entries.put_of_present table.entries market id table.distinct present).symm
  · exact (if_neg present).trans (Entries.put_of_absent table.entries market id present).symm

/-- What can be asked of a ledger. -/
inductive Request where
  | assign (market id : String)
  | unassign (market : String)
  | replaceAll (assignments : Table String)
  | read

/-- What a request makes of a ledger. -/
def after (ledger : Ledger) : Request → Ledger
  | .assign market id => ledger.put market id
  | .unassign market => ledger.remove market
  | .replaceAll assignments => assignments.entries
  | .read => ledger

/-- The answer to a request: nothing if everything was replaced, otherwise the ledger after it. -/
def answer (ledger : Ledger) (request : Request) : Json :=
  match request with
  | .replaceAll _ => .null
  | _ => (ledger.after request).toJson

/-- The answers to requests that come one after another. -/
def answers : Ledger → List Request → List Json
  | _, [] => []
  | ledger, request :: rest => ledger.answer request :: answers (ledger.after request) rest

theorem answers_append (ledger : Ledger) (first second : List Request) :
    answers ledger (first ++ second) =
      answers ledger first ++ answers (first.foldl after ledger) second := by
  induction first generalizing ledger with
  | nil => rfl
  | cons request rest inductionHypothesis =>
    rw [List.cons_append, answers, inductionHypothesis]
    rfl

/-- A change of one market answers the ledger that is there afterwards. -/
theorem answers_change (ledger : Ledger) (change : Request)
    (single : ∀ assignments, change ≠ .replaceAll assignments) :
    answers ledger [change, .read] =
      [(ledger.after change).toJson, (ledger.after change).toJson] := by
  cases change with
  | replaceAll assignments => exact absurd rfl (single assignments)
  | assign | unassign | read => rfl

end Ledger

/-! ### The record of the assignments -/

namespace RecordStore

/-- What the store has for the assignments. -/
def standing (store : RecordStore) (world : World) : Except Fault Json :=
  ((store.read assignmentsKey).outcome world).1

theorem standing_of_sameMedia (store : RecordStore) {world later : World}
    (same : SameMedia world later) : store.standing later = store.standing world :=
  same.read_eq store assignmentsKey

/-- Texts that are written stand for themselves. -/
theorem Works.standing_write {store : RecordStore} {world : World}
    (works : store.Works assignmentsKey world) (table : Table String) :
    ((store.write assignmentsKey (Json.ofTexts table)).outcome world).1 = .ok () ∧
      store.Works assignmentsKey
        ((store.write assignmentsKey (Json.ofTexts table)).outcome world).2 ∧
      store.standing ((store.write assignmentsKey (Json.ofTexts table)).outcome world).2 =
        .ok (Json.ofTexts table) := by
  have faithful : (Json.ofTexts table).Faithful :=
    Json.faithful_map Json.str table fun _ _ => Json.faithful_str _
  obtain ⟨stored, works⟩ := works.write plainKey_assignmentsKey.noSlash faithful
  exact ⟨stored, works,
    works.read_of_holds (holds_of_write store assignmentsKey _ world faithful stored)⟩

end RecordStore

namespace Library

open RecordStore

/-- Asks a library. -/
def ask (library : Library) : Ledger.Request → Run World Json
  | .assign market id => do return .obj (← library.assign market (.str id)).entries
  | .unassign market => do return .obj (← library.unassign market).entries
  | .replaceAll assignments => do
    library.saveAssignments (.ofTexts assignments)
    return .null
  | .read => do return .ofTexts (← library.assignments)

/-- A step with a library: a request, or another session with the same tiers. -/
inductive Step where
  | ask (request : Ledger.Request)
  | renew

/-- The requests among the steps. -/
def requests (steps : List Step) : List Ledger.Request :=
  steps.filterMap fun step =>
    match step with
    | .ask request => some request
    | .renew => none

/-- What a library answers to the requests among steps that are taken one after another. -/
def answers (library : Library) : List Step → World → List (Except Fault Json)
  | [], _ => []
  | .renew :: rest, world => library.answers rest (newSession.outcome world).2
  | .ask request :: rest, world =>
    ((library.ask request).outcome world).1 ::
      library.answers rest ((library.ask request).outcome world).2

/-! ### Libraries that work -/

/-- The library works, and its assignments are those of the table. -/
structure Assigned (library : Library) (table : Table String) (world : World) : Prop where
  works : ∀ store, library.primary = some store → store.Works assignmentsKey world
  reads : (library.readAssignments.outcome world).1 = .ok table

variable {library : Library} {table before between after : Table String}

/-- The journal does not matter, nor do the calls that were made before; and where there is a record
store the session does not. -/
theorem Assigned.of_sameMedia {world later : World} (assigned : library.Assigned table world)
    (same : SameMedia world later)
    (session : library.primary = none → later.session = world.session) :
    library.Assigned table later := by
  refine ⟨fun store isPrimary => (assigned.works store isPrimary).of_sameMedia same, ?_⟩
  have reads := assigned.reads
  cases isPrimary : library.primary with
  | none =>
    rw [outcome_readAssignments_none library isPrimary] at reads ⊢
    rw [← reads, session isPrimary]
  | some store =>
    rw [outcome_readAssignments library store isPrimary] at reads ⊢
    rw [← reads]
    exact congrArg (· >>= assignmentsOf) (same.read_eq store assignmentsKey)

theorem Assigned.withJournal {world : World} (assigned : library.Assigned table world)
    (journal : Journal) : library.Assigned table { world with journal := journal } :=
  assigned.of_sameMedia ⟨rfl, rfl, ⟨_, rfl⟩, ⟨_, rfl⟩⟩ fun _ => rfl

/-- Where nothing is kept there are no assignments. -/
theorem assigned_fresh (library : Library) (store : RecordStore)
    (isPrimary : library.primary = some store) (world : World)
    (works : store.Works assignmentsKey world)
    (nothing : world.kept? (store.slot assignmentsKey) = none) :
    library.Assigned Table.empty world := by
  refine ⟨fun other isOther => ?_, ?_⟩
  · cases isPrimary.symm.trans isOther
    exact works
  · rw [outcome_readAssignments library store isPrimary, works.read_of_lacks nothing]
    rfl

theorem assigned_session (library : Library) (isPrimary : library.primary = none) (world : World)
    (same : world.session = table) : library.Assigned table world := by
  refine ⟨fun store isSome => absurd (isPrimary.symm.trans isSome) nofun, ?_⟩
  rw [outcome_readAssignments_none library isPrimary, same]

/-! ### Work on the assignments -/

/-- The work answers the result and turns the assignments before into those after. -/
def Turns {Result : Type} (library : Library) (before : Table String) (work : Run World Result)
    (result : Result) (after : Table String) : Prop :=
  ∀ world, library.Assigned before world →
    (work.outcome world).1 = .ok result ∧ library.Assigned after (work.outcome world).2

section

variable {Result Other : Type}

theorem turns_pure (result : Result) : library.Turns table (pure result) result table :=
  fun _ assigned => ⟨rfl, assigned⟩

theorem turns_ofExcept {outcome : Except Fault Result} {result : Result}
    (succeeds : outcome = .ok result) :
    library.Turns table (Run.ofExcept outcome) result table := by
  intro world assigned
  rw [Run.outcome_ofExcept]
  exact ⟨succeeds, assigned⟩

theorem Turns.bind {work : Run World Result} {next : Result → Run World Other} {result : Result}
    {other : Other} (first : library.Turns before work result between)
    (rest : library.Turns between (next result) other after) :
    library.Turns before (work >>= next) other after := by
  intro world assigned
  obtain ⟨answers, assigned⟩ := first world assigned
  rw [Run.outcome_bind]
  revert answers assigned
  obtain ⟨fault | _, later⟩ := work.outcome world
  · exact fun fails => nomatch fails
  · rintro ⟨⟩ assigned
    exact rest later assigned

theorem Turns.tryCatch {work : Run World Result} {result : Result}
    (turns : library.Turns before work result after) (handler : Fault → Run World Result) :
    library.Turns before (tryCatch work handler) result after := by
  intro world assigned
  obtain ⟨answers, assigned⟩ := turns world assigned
  rw [Run.outcome_tryCatch]
  revert answers assigned
  obtain ⟨fault | _, later⟩ := work.outcome world
  · exact fun fails => nomatch fails
  · exact fun answers assigned => ⟨answers, assigned⟩

/-- Observing the work only adds to the journal. -/
theorem Turns.operation {work : Run World Result} {result : Result}
    (turns : library.Turns before work result after) (name : String) :
    library.Turns before (operation name work) result after := by
  intro world assigned
  obtain ⟨first, last, done⟩ := outcome_operation name work world
  obtain ⟨answers, assigned⟩ := turns _ (assigned.withJournal first)
  rw [done]
  exact ⟨answers, assigned.withJournal last⟩

end

/-- Reading answers the assignments and leaves them alone. -/
theorem turns_readAssignments : library.Turns table library.readAssignments table table := by
  intro world assigned
  refine ⟨assigned.reads, ?_⟩
  cases isPrimary : library.primary with
  | none =>
    rw [outcome_readAssignments_none library isPrimary]
    exact assigned
  | some store =>
    rw [outcome_readAssignments library store isPrimary]
    have same := SameMedia.keeps_read world store assignmentsKey world (.refl world)
    exact assigned.of_sameMedia same fun _ =>
      (sameElsewhere_read store assignmentsKey world).session

theorem readTexts (table : Table String) :
    readMembers (fun _ value => Json.display value) (table.map Json.str).entries = .ok table := by
  have same : table.map id = table := by
    simp only [Table.map, id_eq, List.map_id']
  rw [readMembers_map Json.str _ id table fun _ _ => Json.display_str _, same]

/-- Writing assignments that are texts replaces those before. -/
theorem turns_writeAssignments (written : Table String) :
    library.Turns table (library.writeAssignments (written.map Json.str)) () written := by
  intro world assigned
  unfold writeAssignments
  rw [readTexts]
  cases isPrimary : library.primary with
  | none => exact ⟨rfl, assigned_session library isPrimary _ rfl⟩
  | some store =>
    obtain ⟨stored, works, stands⟩ := (assigned.works store isPrimary).standing_write written
    refine ⟨stored, fun other isOther => ?_, ?_⟩
    · cases isPrimary.symm.trans isOther
      exact works
    · rw [outcome_readAssignments library store isPrimary]
      show store.standing ((store.write assignmentsKey (Json.ofTexts written)).outcome world).2 >>=
        _ = _
      rw [stands]
      exact readTexts written

/-! ### One request -/

/-- Both ways to change one market write back what was read, with the change. -/
theorem turns_rewriting (name : String) (change : Table Json → Table Json)
    (same : change (table.map Json.str) = after.map Json.str) :
    library.Turns table
      (operation name do
        let changed := change ((← library.readAssignments).map Json.str)
        library.writeAssignments changed
        return changed)
      (after.map Json.str) after := by
  refine Turns.operation (turns_readAssignments.bind ?_) name
  dsimp only
  rw [same]
  exact (turns_writeAssignments after).bind (turns_pure _)

theorem turns_assign (library : Library) (table : Table String) (market id : String) :
    library.Turns table (library.assign market (.str id)) ((table.put market id).map Json.str)
      (table.put market id) :=
  turns_rewriting _ (fun read => read.put market (.str id)) (Table.map_put Json.str table market id)

theorem turns_unassign (library : Library) (table : Table String) (market : String) :
    library.Turns table (library.unassign market) ((table.erase market).map Json.str)
      (table.erase market) :=
  turns_rewriting _ (fun read => read.erase market) (Table.map_erase Json.str table market)

/-- A request is answered as the ledger answers it, and turns the assignments as it turns the
ledger. -/
theorem turns_ask (library : Library) (table : Table String) (request : Ledger.Request) :
    ∃ changed : Table String, changed.entries = Ledger.after table.entries request ∧
      library.Turns table (library.ask request) (Ledger.answer table.entries request) changed := by
  cases request with
  | assign market id =>
    have answered : Ledger.answer table.entries (.assign market id) =
        Ledger.toJson (table.put market id).entries :=
      congrArg Ledger.toJson (Ledger.put_entries table market id)
    refine ⟨table.put market id, (Ledger.put_entries table market id).symm, ?_⟩
    rw [answered]
    exact (turns_assign library table market id).bind (turns_pure _)
  | unassign market =>
    exact ⟨table.erase market, rfl, (turns_unassign library table market).bind (turns_pure _)⟩
  | replaceAll assignments =>
    have given : (Json.ofTexts assignments).asObject = .ok (assignments.map Json.str) :=
      congrArg Except.ok (Table.ofEntries_entries (assignments.map Json.str))
    have turns : library.Turns table (library.saveAssignments (.ofTexts assignments)) ()
        assignments :=
      Turns.operation ((turns_ofExcept given).bind (turns_writeAssignments assignments)) _
    exact ⟨assignments, rfl, turns.bind (turns_pure _)⟩
  | read =>
    have turns : library.Turns table library.assignments table table :=
      Turns.operation (turns_readAssignments.tryCatch _) _
    exact ⟨table, rfl, turns.bind (turns_pure _)⟩

/-- Another session finds what is kept in a record store. -/
theorem Assigned.renew {world : World} (assigned : library.Assigned table world)
    (kept : library.primary ≠ none) : library.Assigned table (newSession.outcome world).2 :=
  assigned.of_sameMedia ⟨rfl, rfl, ⟨_, rfl⟩, ⟨_, rfl⟩⟩ fun bare => absurd bare kept

/-! ### Any number of requests -/

/-- The requests that come one after another are answered as the ledger answers them. -/
theorem answers_eq (library : Library) (steps : List Step)
    (kept : library.primary = none → Step.renew ∉ steps) (world : World) (table : Table String)
    (assigned : library.Assigned table world) :
    library.answers steps world = (Ledger.answers table.entries (requests steps)).map .ok := by
  induction steps generalizing world table with
  | nil => rfl
  | cons step rest inductionHypothesis =>
    have keptRest (bare : library.primary = none) : Step.renew ∉ rest :=
      fun member => kept bare (List.mem_cons_of_mem _ member)
    cases step with
    | ask request =>
      obtain ⟨changed, same, turns⟩ := turns_ask library table request
      obtain ⟨answered, assigned⟩ := turns world assigned
      have later := inductionHypothesis keptRest _ changed assigned
      rw [same] at later
      rw [answers, answered, later]
      rfl
    | renew =>
      have isKept : library.primary ≠ none := fun bare => kept bare List.mem_cons_self
      exact inductionHypothesis keptRest _ table (assigned.renew isKept)

/-- Assignments are an ordered map. A library that works answers any requests as the ledger that
starts with the same assignments, and where there is a record store other sessions in between make
no difference; the answer to a change is what is read right after it. Without a record store and
with an empty session, a library answers as with a record store in which nothing is kept. Assigning
to a market that is there keeps the order of the markets, and taking out one that is not there
changes nothing. -/
theorem answers_as_ledger (library : Library) (start : World) (table : Table String)
    (assigned : library.Assigned table start) :
    (∀ steps : List Step, (library.primary = none → Step.renew ∉ steps) →
      library.answers steps start = (Ledger.answers table.entries (requests steps)).map .ok ∧
        ∀ change : Ledger.Request, (∀ assignments, change ≠ .replaceAll assignments) →
          ∃ earlier answer, library.answers (steps ++ [.ask change, .ask .read]) start =
            earlier ++ [.ok answer, .ok answer]) ∧
      (∀ (bare fresh : Library) (store : RecordStore) (session empty : World),
        bare.primary = none → session.session = Table.empty →
        fresh.primary = some store → store.Works assignmentsKey empty →
        empty.kept? (store.slot assignmentsKey) = none →
        ∀ given : List Ledger.Request,
          bare.answers (given.map .ask) session = fresh.answers (given.map .ask) empty) ∧
      ∀ market,
        (market ∈ table.names → ∀ id, ∃ changed,
          ((library.assign market (.str id)).outcome start).1 = .ok changed ∧
            changed.names = table.names) ∧
        (market ∉ table.names →
          ((library.unassign market).outcome start).1 = .ok (table.map Json.str)) := by
  refine ⟨fun steps kept => ⟨answers_eq library steps kept start table assigned,
    fun change single => ?_⟩, fun bare fresh store session empty isBare noSession isPrimary works
    nothing given => ?_, fun market => ⟨fun present id => ?_, fun absent => ?_⟩⟩
  · have keptOn (bare : library.primary = none) :
        Step.renew ∉ steps ++ [.ask change, .ask .read] := by
      simpa using kept bare
    have asked : requests (steps ++ [.ask change, .ask .read]) =
        requests steps ++ [change, .read] := List.filterMap_append
    refine ⟨(Ledger.answers table.entries (requests steps)).map .ok,
      (((requests steps).foldl Ledger.after table.entries).after change).toJson, ?_⟩
    rw [answers_eq library _ keptOn start table assigned, asked, Ledger.answers_append,
      Ledger.answers_change _ change single, List.map_append]
    rfl
  · have noRenew : Step.renew ∉ given.map Step.ask := by simp
    rw [answers_eq bare _ (fun _ => noRenew) session _
        (assigned_session bare isBare session noSession),
      answers_eq fresh _ (fun _ => noRenew) empty _
        (assigned_fresh fresh store isPrimary empty works nothing)]
  · refine ⟨_, (turns_assign library table market id start assigned).1, ?_⟩
    show List.map Prod.fst (List.map _ (table.put market id).entries) = _
    rw [List.map_map]
    exact (Entries.names_put table.entries market id).trans (if_pos present)
  · have nothing : table.get? market = none := Option.eq_none_iff_forall_ne_some.mpr
      fun id found => absent ((table.mem_names market).mpr ⟨id, found⟩)
    have answered := (turns_unassign library table market start assigned).1
    rwa [Table.erase_of_absent table market nothing] at answered

/-- A folder that is still to be made keeps the assignments over another session, and without a
folder they are the same within one session. -/
theorem answers_as_ledger_inFolder :
    let library : Library := ⟨some (.folder ⟨.here, ["records"]⟩), none, none⟩
    let bare : Library := ⟨none, none, none⟩
    let given : List Ledger.Request := [.assign "b" "first", .assign "a" "second", .unassign "c"]
    let last : Ledger.Request := .assign "b" "third"
    library.answers (given.map .ask ++ [.renew, .ask last]) World.fresh =
        [[("b", "first")], [("b", "first"), ("a", "second")], [("b", "first"), ("a", "second")],
          [("b", "third"), ("a", "second")]].map (fun ledger => .ok (Ledger.toJson ledger)) ∧
      bare.answers (given.map .ask) World.fresh = library.answers (given.map .ask) World.fresh := by
  intro library bare given last
  have works : (RecordStore.folder ⟨.here, ["records"]⟩).Works assignmentsKey World.fresh :=
    ⟨nofun, rfl⟩
  have asLedger := answers_as_ledger library World.fresh Table.empty
    (assigned_fresh library _ rfl World.fresh works rfl)
  exact ⟨(asLedger.1 (given.map .ask ++ [.renew, .ask last]) nofun).1,
    asLedger.2.1 bare library _ World.fresh World.fresh rfl rfl rfl works rfl given⟩

end Library

end MarketSignal
