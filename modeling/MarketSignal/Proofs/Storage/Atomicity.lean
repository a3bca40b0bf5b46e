/-
This file proves that a change of a library happens as a whole or not at all. Every change reads and
prepares before it writes, and it writes once, as its last step but for notices; a store that fails
to write leaves its records as they were. So a change that fails leaves the records and the session
alone, and where there is a record store the outbox is not even asked. The changes of assignments
read the record as it is: unlike the query, they make nothing up for a record that cannot be read.
-/
import MarketSignal.Proofs.Storage.Footprint
import MarketSignal.Proofs.Storage.Library

namespace MarketSignal

/-! ### What failing work leaves behind -/

/-- Work that fails leaves a state behind that is related to the one before. -/
def Run.FailsWithin {State Result : Type} (work : Run State Result)
    (related : State → State → Prop) : Prop :=
  ∀ state fault, (work.outcome state).1 = .error fault → related state (work.outcome state).2

namespace Run

variable {State Result Other : Type} {related : State → State → Prop}

theorem related_ofExcept (reflexive : ∀ state, related state state)
    (outcome : Except Fault Result) (state : State) :
    related state ((ofExcept outcome : Run State Result).outcome state).2 := by
  rw [outcome_ofExcept]
  exact reflexive state

theorem failsWithin_throw (reflexive : ∀ state, related state state) (fault : Fault) :
    (throw fault : Run State Result).FailsWithin related := fun state _ _ => reflexive state

/-- Steps before the last may go further if they never leave the relation. -/
theorem failsWithin_bind (transitive : ∀ first second third, related first second →
      related second third → related first third)
    {work : Run State Result} {next : Result → Run State Other}
    (first : ∀ state, related state (work.outcome state).2)
    (rest : ∀ result, (next result).FailsWithin related) :
    (work >>= next).FailsWithin related := by
  intro state fault fails
  have here := first state
  rw [outcome_bind] at fails ⊢
  revert here fails
  obtain ⟨problem | result, after⟩ := work.outcome state
  · exact fun _ here => here
  · exact fun fails here => transitive _ _ _ here (rest result after fault fails)

/-- A last step that only answers cannot fail. -/
theorem FailsWithin.answering {work : Run State Result} (within : work.FailsWithin related)
    (answer : Result → Other) :
    (work >>= fun result => pure (answer result)).FailsWithin related := by
  intro state fault fails
  have here := within state
  rw [outcome_bind] at fails ⊢
  revert here fails
  obtain ⟨problem | result, after⟩ := work.outcome state
  · exact fun _ here => here problem rfl
  · exact fun fails _ => nomatch fails

end Run

/-! ### Worlds that are as good as the same -/

/-- What is outside the stores is as before: the session, and everything that was ever sent. -/
structure SameElsewhere (before after : World) : Prop where
  session : after.session = before.session
  exchange : after.exchange = before.exchange
  received : after.received = before.received

/-- All records of all stores are as before, whatever else is kept is as before except that there
may be temporary files where there was nothing, and so is what is outside the stores. -/
structure RecordStore.Untouched (store : RecordStore) (before after : World) : Prop where
  records : ∀ (other : RecordStore) (key : String),
    after.kept? (other.slot key) = before.kept? (other.slot key)
  others : ∀ slot, after.kept? slot = before.kept? slot ∨
    (∃ key, store.Spare key slot) ∧ before.kept? slot = none
  elsewhere : SameElsewhere before after

namespace RecordStore

theorem untouched_of_sameRecords (store : RecordStore) {before after : World}
    (same : SameRecords before after) (elsewhere : SameElsewhere before after) :
    store.Untouched before after :=
  ⟨fun _ _ => kept?_of_sameRecords same _, fun _ => Or.inl (kept?_of_sameRecords same _), elsewhere⟩

theorem Untouched.trans {store : RecordStore} (first second third : World)
    (left : store.Untouched first second) (right : store.Untouched second third) :
    store.Untouched first third := by
  refine ⟨fun other key => (right.records other key).trans (left.records other key), ?_, ?_⟩
  · intro slot
    rcases right.others slot with same | ⟨spare, nothing⟩
    · rw [same]
      exact left.others slot
    · refine Or.inr ⟨spare, ?_⟩
      rcases left.others slot with same | ⟨-, nothingBefore⟩
      · rw [← same, nothing]
      · exact nothingBefore
  · exact ⟨right.elsewhere.session.trans left.elsewhere.session,
      right.elsewhere.exchange.trans left.elsewhere.exchange,
      right.elsewhere.received.trans left.elsewhere.received⟩

theorem sameElsewhere_read (store : RecordStore) (key : String) (world : World) :
    SameElsewhere world ((store.read key).outcome world).2 := by
  cases store <;> exact ⟨rfl, rfl, rfl⟩

theorem sameElsewhere_write (store : RecordStore) (key : String) (value : Json) (world : World) :
    SameElsewhere world ((store.write key value).outcome world).2 := by
  cases store <;> exact ⟨rfl, rfl, rfl⟩

/-- A store that fails to write leaves everything alone. -/
theorem failsWithin_write (store : RecordStore) (key : String) (value : Json)
    (noSlash : '/' ∉ key.toList) : (store.write key value).FailsWithin store.Untouched := by
  intro world fault fails
  have records := kept?_of_failed_write store key value world fault noSlash fails
  refine ⟨records, fun slot => ?_, sameElsewhere_write store key value world⟩
  by_cases own : slot = store.slot key
  · rw [own]
    exact Or.inl (records store key)
  · exact ((changesOnly_write store key value world noSlash).others slot own).imp id
      fun spare => ⟨⟨key, spare.1⟩, spare.2⟩

end RecordStore

/-! ### Changes -/

namespace Library

open RecordStore

/-- A change of what a library keeps. -/
inductive Change where
  | save (book : Book)
  | saveAssignments (assignments : Json)
  | assign (market : String) (id : Json)
  | unassign (market : String)

/-- Makes a change. -/
def Change.perform (library : Library) : Change → Run World Unit
  | .save book => library.save book
  | .saveAssignments assignments => library.saveAssignments assignments
  | .assign market id => do
    let _ ← library.assign market id
    return ()
  | .unassign market => do
    let _ ← library.unassign market
    return ()

/-- A relation of a world to later ones that does not look at the journal. -/
structure Unjournaled (related : World → World → Prop) : Prop where
  reflexive : ∀ world, related world world
  transitive : ∀ first second third, related first second → related second third →
    related first third
  journals : ∀ world after first last, related { world with journal := first } after →
    related world { after with journal := last }

section

variable {related : World → World → Prop} (unjournaled : Unjournaled related)

include unjournaled

/-- An observed operation leaves behind what the operation does, up to the journal. -/
theorem failsWithin_operation {Result : Type} (name : String) {work : Run World Result}
    (within : work.FailsWithin related) : (operation name work).FailsWithin related := by
  intro world fault fails
  obtain ⟨first, last, done⟩ := outcome_operation name work world
  rw [done] at fails ⊢
  exact unjournaled.journals _ _ _ _ (within _ fault fails)

/-- A change fails within what its last step, the only one that writes, fails within. -/
theorem failsWithin_perform (library : Library)
    (saves : ∀ book, (library.saveBook book).FailsWithin related)
    (reads : ∀ world, related world (library.readAssignments.outcome world).2)
    (writes : ∀ assignments, (library.writeAssignments assignments).FailsWithin related)
    (change : Change) : (change.perform library).FailsWithin related := by
  have rereads (changed : Table String → Table Json) :
      (library.readAssignments >>= fun assignments =>
        library.writeAssignments (changed assignments) >>= fun _ =>
          pure (changed assignments)).FailsWithin related :=
    Run.failsWithin_bind unjournaled.transitive reads fun assignments =>
      (writes (changed assignments)).answering fun _ => changed assignments
  cases change with
  | save book => exact failsWithin_operation unjournaled _ (saves book)
  | saveAssignments assignments =>
    exact failsWithin_operation unjournaled _ (Run.failsWithin_bind unjournaled.transitive
      (Run.related_ofExcept unjournaled.reflexive _) writes)
  | assign market id =>
    exact (failsWithin_operation unjournaled _
      (rereads fun read => (read.map Json.str).put market id)).answering fun _ => ()
  | unassign market =>
    exact (failsWithin_operation unjournaled _
      (rereads fun read => (read.map Json.str).erase market)).answering fun _ => ()

end

/-! ### With and without a record store -/

theorem unjournaled_untouched (store : RecordStore) : Unjournaled store.Untouched where
  reflexive := fun _ => store.untouched_of_sameRecords (.refl _) ⟨rfl, rfl, rfl⟩
  transitive := Untouched.trans
  journals := by
    intro world after first last untouched
    refine Untouched.trans _ { world with journal := first } _
      (store.untouched_of_sameRecords ⟨rfl, rfl, rfl, rfl⟩ ⟨rfl, rfl, rfl⟩)
      (untouched.trans _ _ _ (store.untouched_of_sameRecords ⟨rfl, rfl, rfl, rfl⟩ ⟨rfl, rfl, rfl⟩))

/-- The session is as before. -/
def SameSession (before after : World) : Prop := after.session = before.session

theorem unjournaled_sameSession : Unjournaled SameSession where
  reflexive := fun _ => rfl
  transitive := fun _ _ _ left right => right.trans left
  journals := fun _ _ _ _ same => same

/-- With a record store a failed change leaves everything alone. -/
theorem failsWithin_untouched (library : Library) (store : RecordStore)
    (isPrimary : library.primary = some store) (change : Change) :
    (change.perform library).FailsWithin store.Untouched := by
  have unjournaled := unjournaled_untouched store
  refine failsWithin_perform unjournaled library (fun book => ?_) (fun world => ?_)
    (fun assignments => ?_) change
  · unfold saveBook
    rw [isPrimary]
    exact store.failsWithin_write bookKey _ (by decide)
  · rw [outcome_readAssignments library store isPrimary]
    exact store.untouched_of_sameRecords (sameRecords_read store assignmentsKey world)
      (sameElsewhere_read store assignmentsKey world)
  · unfold writeAssignments
    rw [isPrimary]
    exact Run.failsWithin_bind unjournaled.transitive (Run.related_ofExcept unjournaled.reflexive _)
      fun clean => store.failsWithin_write assignmentsKey _ (by decide)

/-- Sending a document does not concern the session. -/
theorem keepsSession_send (outbox : Outbox) (document : Json) (session : Table String) :
    (outbox.send document).Keeps fun world => world.session = session := by
  cases outbox with
  | web _ | file _ | memory => exact fun _ same => same
  | refusing text status => exact Run.keeps_throw _

/-- Without one it leaves the session alone, which is changed only where nothing can fail. -/
theorem failsWithin_session (library : Library) (noPrimary : library.primary = none)
    (change : Change) : (change.perform library).FailsWithin SameSession := by
  have unjournaled := unjournaled_sameSession
  refine failsWithin_perform unjournaled library (fun book => ?_) (fun world => ?_)
    (fun assignments => ?_) change
  · unfold saveBook
    rw [noPrimary]
    cases library.outbox with
    | none => exact Run.failsWithin_throw unjournaled.reflexive _
    | some outbox =>
      exact fun world _ _ => Run.keeps_bind (fun _ same => same)
        (fun _ => keepsSession_send outbox _ world.session) world rfl
  · rw [outcome_readAssignments_none library noPrimary]
    rfl
  · unfold writeAssignments
    rw [noPrimary]
    exact Run.failsWithin_bind unjournaled.transitive
      (Run.related_ofExcept unjournaled.reflexive _) fun clean _ _ fails => nomatch fails

/-- There is no telling what is assigned: reading the record fails, or it is neither null nor an
object. -/
inductive Unreadable (store : RecordStore) (world : World) : Prop where
  | refused (fault : Fault) (fails : ((store.read assignmentsKey).outcome world).1 = .error fault)
  | misshapen (record : Json) (answers : ((store.read assignmentsKey).outcome world).1 = .ok record)
    (present : record ≠ .null) (noObject : ∀ members, record ≠ .obj members)

/-- What cannot be read is not changed. -/
theorem fails_of_unreadable (library : Library) (store : RecordStore)
    (isPrimary : library.primary = some store) (world : World) (unreadable : Unreadable store world)
    {Result : Type} (name : String) (next : Table String → Run World Result) :
    ∃ fault, ((operation name (library.readAssignments >>= next)).outcome world).1 =
      .error fault := by
  obtain ⟨first, last, done⟩ := outcome_operation name (library.readAssignments >>= next) world
  have fails : ∃ fault, (library.readAssignments.outcome { world with journal := first }).1 =
      .error fault := by
    rw [outcome_readAssignments library store isPrimary, read_withJournal]
    cases unreadable with
    | refused fault fails =>
      rw [fails]
      exact ⟨fault, rfl⟩
    | misshapen record answers present noObject =>
      rw [answers]
      cases record
      case null => exact absurd rfl present
      case obj members => exact absurd rfl (noObject members)
      all_goals exact ⟨_, rfl⟩
  rw [done, Run.outcome_bind]
  revert fails
  obtain ⟨fault | read, after⟩ := library.readAssignments.outcome { world with journal := first }
  · exact fun _ => ⟨fault, rfl⟩
  · exact fun ⟨_, fails⟩ => nomatch fails

/-- A change that fails leaves the session alone and, where there is a record store, everything that
is kept or was ever sent; the outbox does not even matter there. Assigning and unassigning do fail
where there is no telling what is assigned. -/
theorem change_atomic (library : Library) (world : World) :
    (∀ (change : Change) (fault : Fault),
      ((change.perform library).outcome world).1 = .error fault →
      ((change.perform library).outcome world).2.session = world.session ∧
        ∀ store, library.primary = some store →
          store.Untouched world ((change.perform library).outcome world).2 ∧
          ∀ outbox, (change.perform { library with outbox := outbox }).outcome world =
            (change.perform library).outcome world) ∧
      ∀ store, library.primary = some store → Unreadable store world →
        ∀ (market : String) (id : Json),
          (∃ fault, ((library.assign market id).outcome world).1 = .error fault) ∧
            ∃ fault, ((library.unassign market).outcome world).1 = .error fault := by
  refine ⟨fun change fault fails => ⟨?_, fun store isPrimary => ⟨?_, fun outbox => ?_⟩⟩,
    fun store isPrimary unreadable market id => ⟨?_, ?_⟩⟩
  · cases isPrimary : library.primary with
    | none => exact failsWithin_session library isPrimary change world fault fails
    | some store =>
      exact (failsWithin_untouched library store isPrimary change world fault
        fails).elsewhere.session
  · exact failsWithin_untouched library store isPrimary change world fault fails
  · obtain ⟨primary, seed, sink⟩ := library
    cases isPrimary
    cases change <;> rfl
  · exact fails_of_unreadable library store isPrimary world unreadable _ _
  · exact fails_of_unreadable library store isPrimary world unreadable _ _

/-- A store in memory that refuses to write keeps its assignments; one that holds a list in their
place keeps the list. -/
theorem change_atomic_inMemory :
    let library : Library := ⟨some .memory, none, some .memory⟩
    let holding (record : Json) (refusesWrites : Bool) : World :=
      { World.fresh with
        memory := ⟨Table.ofEntries [(assignmentsKey, record)], false, refusesWrites⟩ }
    let refusing := holding (.obj [("market", .str "scenario")]) true
    let damaged := holding (.arr []) false
    RecordStore.memory.Untouched refusing
        (((Change.assign "market" (.str "other")).perform library).outcome refusing).2 ∧
      RecordStore.memory.Untouched damaged
        (((Change.unassign "market").perform library).outcome damaged).2 ∧
      ∃ fault, ((library.unassign "market").outcome damaged).1 = .error fault := by
  intro library holding refusing damaged
  refine ⟨?_, ?_, ?_⟩
  · exact (((change_atomic library refusing).1 _ _ rfl).2 .memory rfl).1
  · exact (((change_atomic library damaged).1 _ _ rfl).2 .memory rfl).1
  · exact ((change_atomic library damaged).2 .memory rfl
      (.misshapen (.arr []) rfl nofun nofun) "market" .null).2

end Library

end MarketSignal
