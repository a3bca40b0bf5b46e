/-
This file proves what calls that change assignments can do to one another. A call reads all
assignments and later writes all of them back with its change, and the steps of any number of calls
may come in any order. What is there in the end is what the call that wrote last has answered, so
that a change written between the two steps of another call can be lost. But nothing is made up:
every assignment was there at the start, as its text, or was asked for by a call. And a call between
whose steps nobody writes changes the assignments as it would alone.
-/
import MarketSignal.Proofs.Storage.Assignments

namespace MarketSignal

/-! ### Changes -/

/-- A change of the assignment of one market. -/
inductive Rewrite where
  | assign (market id : String)
  | unassign (market : String)

namespace Rewrite

/-- The change as it is asked of a ledger. -/
def request : Rewrite → Ledger.Request
  | .assign market id => .assign market id
  | .unassign market => .unassign market

/-- What the change makes of assignments. -/
def apply (table : Table String) : Rewrite → Table String
  | .assign market id => table.put market id
  | .unassign market => table.erase market

/-- What is written back and answered after the assignments were read. -/
def written (found : Table String) : Rewrite → Table Json
  | .assign market id => (found.map Json.str).put market (.str id)
  | .unassign market => (found.map Json.str).erase market

/-- The operation of a library that makes the change. -/
def perform (library : Library) : Rewrite → Run World (Table Json)
  | .assign market id => library.assign market (.str id)
  | .unassign market => library.unassign market

theorem written_eq (change : Rewrite) (found : Table String) :
    change.written found = (change.apply found).map Json.str := by
  cases change with
  | assign market id => exact Table.map_put Json.str found market id
  | unassign market => exact Table.map_erase Json.str found market

theorem entries_apply (change : Rewrite) (table : Table String) :
    (change.apply table).entries = Ledger.after table.entries change.request := by
  cases change with
  | assign market id => exact (Ledger.put_entries table market id).symm
  | unassign market => rfl

end Rewrite

/-! ### Calls under way -/

/-- How far a call has got. -/
inductive Progress where
  | asked
  | hasRead (found : Table String)
  | answered (changed : Table Json)
  | failed (fault : Fault)

namespace Progress

/-- A call that was to read. -/
def afterRead : Except Fault (Table String) → Progress
  | .ok found => .hasRead found
  | .error fault => .failed fault

/-- A call that was to write. -/
def afterWrite (changed : Table Json) : Except Fault Unit → Progress
  | .ok () => .answered changed
  | .error fault => .failed fault

/-- What a call has ended with. -/
def result? : Progress → Option (Except Fault (Table Json))
  | .answered changed => some (.ok changed)
  | .failed fault => some (.error fault)
  | .asked | .hasRead _ => none

/-- The number of steps that a call has taken, unless it has failed. -/
def stage? : Progress → Option Nat
  | .asked => some 0
  | .hasRead _ => some 1
  | .answered _ => some 2
  | .failed _ => none

end Progress

/-- Someone who calls for a change. -/
structure Caller where
  change : Rewrite
  progress : Progress

/-- The world with the calls under way, and those that have written, the last one first. -/
structure Traffic where
  world : World
  calls : List Caller
  writers : List Nat

namespace Traffic

/-- The calls have been made, and none has taken a step. -/
def opened (world : World) (changes : List Rewrite) : Traffic :=
  ⟨world, changes.map fun change => ⟨change, .asked⟩, []⟩

/-- The call whose turn it is takes its next step, if there is one. -/
def step (library : Library) (traffic : Traffic) (turn : Nat) : Traffic :=
  match traffic.calls[turn]? with
  | some ⟨change, .asked⟩ =>
    let read := library.readAssignments.outcome traffic.world
    ⟨read.2, traffic.calls.set turn ⟨change, .afterRead read.1⟩, traffic.writers⟩
  | some ⟨change, .hasRead found⟩ =>
    let changed := change.written found
    let wrote := (library.writeAssignments changed).outcome traffic.world
    ⟨wrote.2, traffic.calls.set turn ⟨change, .afterWrite changed wrote.1⟩, turn :: traffic.writers⟩
  | _ => traffic

section

variable {library : Library} {traffic : Traffic} {turn : Nat} {change : Rewrite}

theorem step_asked (here : traffic.calls[turn]? = some ⟨change, .asked⟩) :
    traffic.step library turn =
      ⟨(library.readAssignments.outcome traffic.world).2,
        traffic.calls.set turn
          ⟨change, .afterRead (library.readAssignments.outcome traffic.world).1⟩,
        traffic.writers⟩ := by
  rw [step, here]

theorem step_hasRead {found : Table String}
    (here : traffic.calls[turn]? = some ⟨change, .hasRead found⟩) :
    traffic.step library turn =
      ⟨((library.writeAssignments (change.written found)).outcome traffic.world).2,
        traffic.calls.set turn ⟨change, .afterWrite (change.written found)
          ((library.writeAssignments (change.written found)).outcome traffic.world).1⟩,
        turn :: traffic.writers⟩ := by
  rw [step, here]

/-- Where there is no call, or one that has ended, nothing happens. -/
theorem step_idle (nothing : ∀ call, traffic.calls[turn]? = some call →
    ∃ result, call.progress.result? = some result) : traffic.step library turn = traffic := by
  rw [step]
  split
  case h_1 here =>
    obtain ⟨_, ended⟩ := nothing _ here
    cases ended
  case h_2 here =>
    obtain ⟨_, ended⟩ := nothing _ here
    cases ended
  case h_3 => rfl

end

/-- The calls take steps in the order of the turns. -/
def run (library : Library) (traffic : Traffic) (turns : List Nat) : Traffic :=
  turns.foldl (step library) traffic

end Traffic

/-- Two steps of a call that nobody interrupts are what the operation observes. -/
theorem Rewrite.outcome_alone (change : Rewrite) (library : Library) (world : World) :
    let alone := (Traffic.opened world [change]).run library [0, 0]
    ∃ result, (do
        let changed := change.written (← library.readAssignments)
        library.writeAssignments changed
        return changed : Run World (Table Json)).outcome world = (result, alone.world) ∧
      alone.calls.map (fun call => call.progress.result?) = [some result] := by
  have reads : (Traffic.opened world [change]).step library 0 = _ := Traffic.step_asked rfl
  show ∃ result, _ = (result, (((Traffic.opened world [change]).step library 0).step library
    0).world) ∧ (((Traffic.opened world [change]).step library 0).step library 0).calls.map _ = _
  rw [reads, Run.outcome_bind, Traffic.opened]
  dsimp only [List.map_cons, List.map_nil, List.set_cons_zero]
  obtain ⟨fault | found, between⟩ := library.readAssignments.outcome world
  · exact ⟨_, rfl, rfl⟩
  · rw [Traffic.step_hasRead rfl]
    dsimp only [Run.continued]
    rw [Run.outcome_bind]
    obtain ⟨fault | _, after⟩ := (library.writeAssignments (change.written found)).outcome between
    · exact ⟨_, rfl, rfl⟩
    · exact ⟨_, rfl, rfl⟩

/-- A call that nobody interrupts does what the operation does, apart from the notices. -/
theorem Rewrite.outcome_perform (change : Rewrite) (library : Library) (world : World) :
    ∃ first last : Journal, ∃ result,
      let alone := (Traffic.opened { world with journal := first } [change]).run library [0, 0]
      (change.perform library).outcome world = (result, { alone.world with journal := last }) ∧
        alone.calls.map (fun call => call.progress.result?) = [some result] := by
  have observes : ∃ name, change.perform library = Library.operation name (do
      let changed := change.written (← library.readAssignments)
      library.writeAssignments changed
      return changed) := by
    cases change <;> exact ⟨_, rfl⟩
  obtain ⟨name, isOperation⟩ := observes
  obtain ⟨first, last, done⟩ := outcome_operation name _ world
  obtain ⟨result, alone, ended⟩ :=
    change.outcome_alone library { world with journal := first }
  rw [isOperation, done, alone]
  exact ⟨first, last, result, rfl, ended⟩

/-! ### One step over a store that works -/

namespace Traffic

open RecordStore

/-- What a step does over a store that works. -/
inductive Moved (store : RecordStore) (traffic : Traffic) (turn : Nat) : Traffic → Prop where
  | idle (nothing : ∀ call, traffic.calls[turn]? = some call →
      ∃ result, call.progress.result? = some result) : Moved store traffic turn traffic
  | reads {change : Rewrite} (here : traffic.calls[turn]? = some ⟨change, .asked⟩) {later : World}
      (same : SameMedia traffic.world later) :
      Moved store traffic turn ⟨later, traffic.calls.set turn
        ⟨change, .afterRead (store.standing traffic.world >>= Library.assignmentsOf)⟩,
        traffic.writers⟩
  | writes {change : Rewrite} {found : Table String}
      (here : traffic.calls[turn]? = some ⟨change, .hasRead found⟩) {later : World}
      (works : store.Works assignmentsKey later)
      (stands : store.standing later = .ok (Json.ofTexts (change.apply found))) :
      Moved store traffic turn ⟨later, traffic.calls.set turn
        ⟨change, .answered ((change.apply found).map Json.str)⟩, turn :: traffic.writers⟩

theorem moved_step {library : Library} {store : RecordStore}
    (isPrimary : library.primary = some store) {traffic : Traffic}
    (works : store.Works assignmentsKey traffic.world) (turn : Nat) :
    Moved store traffic turn (traffic.step library turn) := by
  have ended {change : Rewrite} {progress : Progress} {result : Except Fault (Table Json)}
      (here : traffic.calls[turn]? = some ⟨change, progress⟩)
      (isResult : progress.result? = some result) :
      Moved store traffic turn (traffic.step library turn) := by
    have nothing : ∀ call, traffic.calls[turn]? = some call →
        ∃ result, call.progress.result? = some result := by
      intro call isCall
      cases here.symm.trans isCall
      exact ⟨result, isResult⟩
    rw [step_idle nothing]
    exact .idle nothing
  cases here : traffic.calls[turn]? with
  | none =>
    have nothing : ∀ call, traffic.calls[turn]? = some call →
        ∃ result, call.progress.result? = some result :=
      fun call isCall => nomatch here.symm.trans isCall
    rw [step_idle nothing]
    exact .idle nothing
  | some call =>
    obtain ⟨change, progress⟩ := call
    cases progress with
    | asked =>
      rw [step_asked here, library.outcome_readAssignments store isPrimary]
      exact .reads here (SameMedia.keeps_read _ store assignmentsKey _ (.refl _))
    | hasRead found =>
      obtain ⟨stored, works, stands⟩ := works.standing_write (change.apply found)
      have writes : library.writeAssignments (change.written found) =
          store.write assignmentsKey (Json.ofTexts (change.apply found)) := by
        unfold Library.writeAssignments
        rw [change.written_eq, Library.readTexts, isPrimary]
        rfl
      rw [step_hasRead here, writes, stored, change.written_eq]
      exact .writes here works stands
    | answered changed => exact ended here rfl
    | failed fault => exact ended here rfl

/-! ### Where assignments come from -/

/-- The record can be read, and every assignment of the table is in it, as a text, or was asked
for. -/
structure Traced (record : Json) (changes : List Rewrite) (table : Table String) : Prop where
  readable : ∃ first, Library.assignmentsOf record = .ok first
  entries : ∀ entry ∈ table.entries, .assign entry.1 entry.2 ∈ changes ∨
    ∃ members value, record = .obj members ∧ (entry.1, value) ∈ members ∧
      value.display = .ok entry.2

variable {store : RecordStore} {record : Json} {changes : List Rewrite} {traffic : Traffic}

theorem traced_of_read {table : Table String}
    (isRead : Library.assignmentsOf record = .ok table) : Traced record changes table := by
  refine ⟨⟨table, isRead⟩, fun entry present => Or.inr ?_⟩
  unfold Library.assignmentsOf at isRead
  split at isRead
  case h_1 =>
    cases isRead
    exact absurd present List.not_mem_nil
  case h_2 members =>
    obtain ⟨member, isMember, sameName, shown⟩ := exists_of_readMembers isRead entry present
    exact ⟨members, member.2, rfl, sameName ▸ isMember, shown⟩
  case h_3 => cases isRead

theorem Traced.apply {table : Table String} (traced : Traced record changes table)
    {change : Rewrite} (isAsked : change ∈ changes) :
    Traced record changes (change.apply table) := by
  refine ⟨traced.readable, ?_⟩
  cases change with
  | assign market id => exact Table.forall_put traced.entries (Or.inl isAsked)
  | unassign market => exact Table.forall_erase traced.entries market

/-! ### What every step preserves -/

/-- The store works and has what was written last, or the record of the start if nothing was
written; and what the calls have read or written can be traced back. -/
structure Orderly (store : RecordStore) (record : Json) (changes : List Rewrite)
    (traffic : Traffic) : Prop where
  works : store.Works assignmentsKey traffic.world
  sameChanges : traffic.calls.map Caller.change = changes
  found : ∀ change found, ⟨change, .hasRead found⟩ ∈ traffic.calls → Traced record changes found
  unwritten : traffic.writers = [] → store.standing traffic.world = .ok record
  written : ∀ last earlier, traffic.writers = last :: earlier → ∃ change table,
    traffic.calls[last]? = some ⟨change, .answered (table.map Json.str)⟩ ∧
      Traced record changes table ∧ store.standing traffic.world = .ok (Json.ofTexts table)

/-- What the store has can be traced back. -/
theorem Orderly.traced (orderly : Orderly store record changes traffic) {found : Table String}
    (isFound : (store.standing traffic.world >>= Library.assignmentsOf) = .ok found) :
    Traced record changes found := by
  cases wrote : traffic.writers with
  | nil =>
    rw [orderly.unwritten wrote] at isFound
    exact traced_of_read isFound
  | cons last earlier =>
    obtain ⟨change, table, -, traced, stands⟩ := orderly.written last earlier wrote
    rw [stands] at isFound
    cases (Library.readTexts table).symm.trans isFound
    exact traced

theorem change_mem (orderly : Orderly store record changes traffic) {turn : Nat}
    {change : Rewrite} {progress : Progress}
    (here : traffic.calls[turn]? = some ⟨change, progress⟩) : change ∈ changes :=
  orderly.sameChanges ▸ List.mem_map.mpr ⟨_, List.mem_of_getElem? here, rfl⟩

theorem getElem?_set_here {turn : Nat} {call : Caller} (here : traffic.calls[turn]? = some call)
    (next : Caller) : (traffic.calls.set turn next)[turn]? = some next :=
  List.getElem?_set_self (List.getElem?_eq_some_iff.mp here).1

/-- A step leaves the change of a call as it is. -/
theorem changes_set {turn : Nat} {change : Rewrite} {progress : Progress}
    (here : traffic.calls[turn]? = some ⟨change, progress⟩) (next : Progress) :
    (traffic.calls.set turn ⟨change, next⟩).map Caller.change =
      traffic.calls.map Caller.change := by
  obtain ⟨within, isCall⟩ := List.getElem?_eq_some_iff.mp here
  have isThere : turn < (traffic.calls.map Caller.change).length := by simpa using within
  have same : change = (traffic.calls.map Caller.change)[turn] := by
    rw [List.getElem_map, isCall]
  rw [List.map_set]
  exact (congrArg _ same).trans (List.set_getElem_self isThere)

theorem eq_ok_of_afterRead {read : Except Fault (Table String)} {found : Table String}
    (isFound : Progress.afterRead read = .hasRead found) : read = .ok found := by
  cases read with
  | error fault => cases isFound
  | ok other =>
    cases isFound
    rfl

theorem orderly_moved (orderly : Orderly store record changes traffic) {turn : Nat}
    {later : Traffic} (moved : Moved store traffic turn later) :
    Orderly store record changes later := by
  cases moved with
  | idle => exact orderly
  | @reads change here world same =>
    have stands := store.standing_of_sameMedia same
    refine ⟨orderly.works.of_sameMedia same, (changes_set here _).trans orderly.sameChanges, ?_,
      fun nobody => stands.trans (orderly.unwritten nobody), ?_⟩
    · intro other found member
      rcases List.mem_or_eq_of_mem_set member with before | same
      · exact orderly.found other found before
      · exact orderly.traced (eq_ok_of_afterRead (congrArg Caller.progress same).symm)
    · intro last earlier wrote
      obtain ⟨writer, table, isWriter, traced, stood⟩ := orderly.written last earlier wrote
      refine ⟨writer, table, ?_, traced, stands.trans stood⟩
      have apart : turn ≠ last := by
        rintro rfl
        cases here.symm.trans isWriter
      exact (List.getElem?_set_ne apart).trans isWriter
  | @writes change found here world works stands =>
    have traced : Traced record changes (change.apply found) :=
      (orderly.found change found (List.mem_of_getElem? here)).apply (change_mem orderly here)
    refine ⟨works, (changes_set here _).trans orderly.sameChanges, ?_, nofun, ?_⟩
    · intro other earlier member
      rcases List.mem_or_eq_of_mem_set member with before | same
      · exact orderly.found other earlier before
      · cases same
    · rintro last earlier wrote
      cases wrote
      exact ⟨change, change.apply found, getElem?_set_here here _, traced, stands⟩

/-! ### Any turns -/

variable {library : Library}

theorem orderly_opened {world : World} (works : store.Works assignmentsKey world)
    (stands : store.standing world = .ok record) (changes : List Rewrite) :
    Orderly store record changes (opened world changes) := by
  refine ⟨works, ?_, ?_, fun _ => stands, nofun⟩
  · show (changes.map _).map Caller.change = changes
    rw [List.map_map]
    exact List.map_id changes
  · intro change found member
    obtain ⟨_, -, same⟩ := List.mem_map.mp member
    cases same

theorem orderly_run (isPrimary : library.primary = some store)
    (orderly : Orderly store record changes traffic) (turns : List Nat) :
    Orderly store record changes (traffic.run library turns) := by
  induction turns generalizing traffic with
  | nil => exact orderly
  | cons turn rest inductionHypothesis =>
    exact inductionHypothesis (orderly_moved orderly (moved_step isPrimary orderly.works turn))

/-! ### Calls that are left alone -/

theorem writers_le_step (library : Library) (traffic : Traffic) (turn : Nat) :
    traffic.writers.length ≤ (traffic.step library turn).writers.length := by
  rw [step]
  split
  · exact le_rfl
  · exact Nat.le_succ _
  · exact le_rfl

theorem writers_le_run (library : Library) (traffic : Traffic) (turns : List Nat) :
    traffic.writers.length ≤ (traffic.run library turns).writers.length := by
  induction turns generalizing traffic with
  | nil => exact le_rfl
  | cons turn rest inductionHypothesis =>
    exact (writers_le_step library traffic turn).trans (inductionHypothesis _)

/-- While nobody writes, the record stays and a call that has read does not get any further. -/
theorem quiet_run (isPrimary : library.primary = some store)
    (orderly : Orderly store record changes traffic) {turn : Nat} {change : Rewrite}
    {found : Table String} (here : traffic.calls[turn]? = some ⟨change, .hasRead found⟩)
    (turns : List Nat)
    (quiet : (traffic.run library turns).writers.length = traffic.writers.length) :
    store.standing (traffic.run library turns).world = store.standing traffic.world ∧
      (traffic.run library turns).calls[turn]? = some ⟨change, .hasRead found⟩ := by
  induction turns generalizing traffic with
  | nil => exact ⟨rfl, here⟩
  | cons next rest inductionHypothesis =>
    have moved := moved_step isPrimary orderly.works next
    have orderlyNext := orderly_moved orderly moved
    have grows := writers_le_run library (traffic.step library next) rest
    have quietRest : ((traffic.step library next).run library rest).writers.length =
      traffic.writers.length := quiet
    show store.standing ((traffic.step library next).run library rest).world = _ ∧
      ((traffic.step library next).run library rest).calls[turn]? = _
    revert moved orderlyNext grows quietRest
    generalize traffic.step library next = later
    intro moved orderlyNext grows quietRest
    cases moved with
    | idle => exact inductionHypothesis orderly here quietRest
    | @reads other isAsked world same =>
      have apart : next ≠ turn := by
        rintro rfl
        cases here.symm.trans isAsked
      obtain ⟨stays, isThere⟩ := inductionHypothesis orderlyNext
        ((List.getElem?_set_ne apart).trans here) quietRest
      exact ⟨stays.trans (store.standing_of_sameMedia same), isThere⟩
    | writes =>
      rw [quietRest, List.length_cons] at grows
      exact absurd grows (Nat.not_succ_le_self _)

/-- A call whose turn it is to read reads what the store has. -/
theorem read_step (isPrimary : library.primary = some store)
    (works : store.Works assignmentsKey traffic.world) {turn : Nat} {change : Rewrite}
    {found : Table String} (isAsked : traffic.calls[turn]? = some ⟨change, .asked⟩)
    (isFound : (store.standing traffic.world >>= Library.assignmentsOf) = .ok found) :
    (traffic.step library turn).calls[turn]? = some ⟨change, .hasRead found⟩ ∧
      (traffic.step library turn).writers = traffic.writers ∧
      store.standing (traffic.step library turn).world = store.standing traffic.world := by
  have moved := moved_step isPrimary works turn
  revert moved
  generalize traffic.step library turn = later
  intro moved
  cases moved with
  | idle nothing =>
    obtain ⟨_, ended⟩ := nothing _ isAsked
    cases ended
  | @reads other here world same =>
    cases isAsked.symm.trans here
    refine ⟨?_, rfl, store.standing_of_sameMedia same⟩
    rw [isFound]
    exact getElem?_set_here here _
  | writes here => cases isAsked.symm.trans here

/-- A call whose turn it is to write writes what it has read, with its change. -/
theorem write_step (isPrimary : library.primary = some store)
    (works : store.Works assignmentsKey traffic.world) {turn : Nat} {change : Rewrite}
    {found : Table String} (hasRead : traffic.calls[turn]? = some ⟨change, .hasRead found⟩) :
    (traffic.step library turn).calls[turn]? =
        some ⟨change, .answered ((change.apply found).map Json.str)⟩ ∧
      store.standing (traffic.step library turn).world =
        .ok (Json.ofTexts (change.apply found)) := by
  have moved := moved_step isPrimary works turn
  revert moved
  generalize traffic.step library turn = later
  intro moved
  cases moved with
  | idle nothing =>
    obtain ⟨_, ended⟩ := nothing _ hasRead
    cases ended
  | reads here => cases hasRead.symm.trans here
  | @writes other earlier here world works stands =>
    cases hasRead.symm.trans here
    exact ⟨getElem?_set_here here _, stands⟩

/-- A call between whose steps nobody writes changes the record as the ledger is changed. -/
theorem undisturbed (isPrimary : library.primary = some store)
    (orderly : Orderly store record changes traffic) {turn : Nat} {change : Rewrite}
    {found : Table String} (isAsked : traffic.calls[turn]? = some ⟨change, .asked⟩)
    (isFound : (store.standing traffic.world >>= Library.assignmentsOf) = .ok found)
    (turns : List Nat)
    (quiet : ((traffic.step library turn).run library turns).writers = traffic.writers) :
    let between := (traffic.step library turn).run library turns
    (store.standing between.world >>= Library.assignmentsOf) = .ok found ∧
      (∃ changed,
        (between.step library turn).calls[turn]? = some ⟨change, .answered changed⟩) ∧
      store.standing (between.step library turn).world =
        .ok (Ledger.toJson (Ledger.after found.entries change.request)) := by
  intro between
  have orderlyNext := orderly_moved orderly (moved_step isPrimary orderly.works turn)
  obtain ⟨hasRead, sameWriters, stays⟩ := read_step isPrimary orderly.works isAsked isFound
  obtain ⟨staysOn, isThere⟩ := quiet_run isPrimary orderlyNext hasRead turns
    (congrArg List.length (quiet.trans sameWriters.symm))
  have orderlyBetween : Orderly store record changes between :=
    orderly_run isPrimary orderlyNext turns
  obtain ⟨answers, stands⟩ := write_step isPrimary orderlyBetween.works isThere
  refine ⟨?_, ⟨_, answers⟩, ?_⟩
  · rw [staysOn.trans stays, isFound]
  · rw [stands, ← change.entries_apply]
    rfl

/-! ### Calls that come to an end -/

/-- What the store has can be read if the record of the start can. -/
theorem Orderly.readable (orderly : Orderly store record changes traffic)
    (readable : ∃ first, Library.assignmentsOf record = .ok first) :
    ∃ found, (store.standing traffic.world >>= Library.assignmentsOf) = .ok found := by
  cases wrote : traffic.writers with
  | nil =>
    rw [orderly.unwritten wrote]
    exact readable
  | cons last earlier =>
    obtain ⟨change, table, -, -, stands⟩ := orderly.written last earlier wrote
    rw [stands]
    exact ⟨table, Library.readTexts table⟩

theorem stage_le {progress : Progress} {stage : Nat} (isStage : progress.stage? = some stage) :
    stage ≤ 2 := by
  cases progress <;> cases isStage <;> decide

/-- Where the record can be read, a call whose turn it is gets a stage further, and the others stay
where they are. -/
theorem stage_moved (orderly : Orderly store record changes traffic)
    (readable : ∃ first, Library.assignmentsOf record = .ok first) {turn place stage : Nat}
    {later : Traffic} (moved : Moved store traffic turn later) {change : Rewrite}
    {progress : Progress} (here : traffic.calls[place]? = some ⟨change, progress⟩)
    (isStage : progress.stage? = some stage) :
    ∃ next, later.calls[place]? = some ⟨change, next⟩ ∧
      next.stage? = some (min 2 (stage + if turn = place then 1 else 0)) := by
  by_cases same : turn = place
  · subst same
    rw [if_pos rfl]
    cases moved with
    | idle nothing =>
      obtain ⟨result, ended⟩ := nothing _ here
      refine ⟨progress, here, ?_⟩
      cases progress <;> cases ended <;> cases isStage
      rfl
    | @reads other isAsked =>
      cases here.symm.trans isAsked
      cases isStage
      obtain ⟨found, isFound⟩ := orderly.readable readable
      refine ⟨_, getElem?_set_here here _, ?_⟩
      rw [isFound]
      rfl
    | @writes other found hasRead =>
      cases here.symm.trans hasRead
      cases isStage
      exact ⟨_, getElem?_set_here here _, rfl⟩
  · refine ⟨progress, ?_, ?_⟩
    · cases moved with
      | idle => exact here
      | reads => exact (List.getElem?_set_ne same).trans here
      | writes => exact (List.getElem?_set_ne same).trans here
    · rw [if_neg same, Nat.add_zero, Nat.min_eq_right (stage_le isStage), isStage]

theorem stage_run (isPrimary : library.primary = some store)
    (orderly : Orderly store record changes traffic)
    (readable : ∃ first, Library.assignmentsOf record = .ok first) {place stage : Nat}
    {change : Rewrite} {progress : Progress}
    (here : traffic.calls[place]? = some ⟨change, progress⟩)
    (isStage : progress.stage? = some stage) (turns : List Nat) :
    ∃ next, (traffic.run library turns).calls[place]? = some ⟨change, next⟩ ∧
      next.stage? = some (min 2 (stage + turns.count place)) := by
  induction turns generalizing traffic progress stage with
  | nil => exact ⟨progress, here, isStage.trans (congrArg some (by
      rw [List.count_nil, Nat.add_zero, Nat.min_eq_right (stage_le isStage)]))⟩
  | cons turn rest inductionHypothesis =>
    have moved := moved_step isPrimary orderly.works turn
    obtain ⟨next, isThere, isNext⟩ := stage_moved orderly readable moved here isStage
    obtain ⟨last, isLast, ended⟩ :=
      inductionHypothesis (orderly_moved orderly moved) isThere isNext
    refine ⟨last, isLast, ended.trans (congrArg some ?_)⟩
    rw [List.count_cons]
    simp only [beq_iff_eq]
    omega

/-- A call that had both its turns has answered. -/
theorem answered_run (isPrimary : library.primary = some store) {world : World}
    (works : store.Works assignmentsKey world) (stands : store.standing world = .ok record)
    (readable : ∃ first, Library.assignmentsOf record = .ok first) (turns : List Nat)
    {place : Nat} {change : Rewrite} (isAsked : changes[place]? = some change)
    (enough : 2 ≤ turns.count place) :
    ∃ changed, ((opened world changes).run library turns).calls[place]? =
      some ⟨change, .answered changed⟩ := by
  have here : (opened world changes).calls[place]? = some ⟨change, .asked⟩ := by
    show (changes.map _)[place]? = _
    rw [List.getElem?_map, isAsked]
    rfl
  obtain ⟨last, isLast, ended⟩ :=
    stage_run isPrimary (orderly_opened works stands changes) readable here rfl turns
  rw [Nat.zero_add, Nat.min_eq_left enough] at ended
  cases last with
  | answered changed => exact ⟨changed, isLast⟩
  | asked => cases ended
  | hasRead found => cases ended
  | failed fault => cases ended

/-! ### What there is in the end -/

/-- The call that wrote last has answered what there is. -/
theorem Orderly.last_answered (orderly : Orderly store record changes traffic) {last : Nat}
    {earlier : List Nat} (wrote : traffic.writers = last :: earlier) :
    ∃ change changed, changes[last]? = some change ∧
      traffic.calls[last]? = some ⟨change, .answered changed⟩ ∧
        store.standing traffic.world = .ok (.obj changed.entries) := by
  obtain ⟨change, table, isWriter, -, stands⟩ := orderly.written last earlier wrote
  refine ⟨change, _, ?_, isWriter, stands⟩
  rw [← orderly.sameChanges, List.getElem?_map, isWriter]
  rfl

/-- Nothing that there is was made up. -/
theorem Orderly.origin (orderly : Orderly store record changes traffic)
    {final : List (String × Json)} (stands : store.standing traffic.world = .ok (.obj final))
    {market : String} {value : Json} (present : (market, value) ∈ final) :
    (∃ members, record = .obj members ∧ (market, value) ∈ members) ∨
      ∃ id, value = .str id ∧ (.assign market id ∈ changes ∨ ∃ members given,
        record = .obj members ∧ (market, given) ∈ members ∧ given.display = .ok id) := by
  cases wrote : traffic.writers with
  | nil =>
    cases (orderly.unwritten wrote).symm.trans stands
    exact Or.inl ⟨final, rfl, present⟩
  | cons last earlier =>
    obtain ⟨change, table, -, traced, isLast⟩ := orderly.written last earlier wrote
    cases isLast.symm.trans stands
    obtain ⟨entry, isEntry, same⟩ := List.mem_map.mp present
    cases same
    exact Or.inr ⟨entry.2, rfl, traced.entries entry isEntry⟩

theorem Orderly.unwritten_of_unreadable (orderly : Orderly store record changes traffic)
    (unreadable : ¬ ∃ first, Library.assignmentsOf record = .ok first) : traffic.writers = [] := by
  cases wrote : traffic.writers with
  | nil => rfl
  | cons last earlier =>
    obtain ⟨change, table, -, traced, -⟩ := orderly.written last earlier wrote
    exact absurd traced.readable unreadable

/-! ### What the calls can do to one another -/

/-- Whatever the order of the steps, the record in the end is what the call that wrote last has
answered. Every entry of it was there at the start, as its text if anything was written, or was
asked for. A call between whose steps nobody writes changes the record, each value as its text, as
the ledger is changed. Nothing is written unless the record of the start can be read, and then a
call that had both its turns has answered. -/
theorem interleaved (library : Library) (store : RecordStore)
    (isPrimary : library.primary = some store) (start : World)
    (works : store.Works assignmentsKey start) (record : Json)
    (stands : store.standing start = .ok record) (changes : List Rewrite) (turns : List Nat) :
    let ended := (opened start changes).run library turns
    ((ended.writers = [] → store.standing ended.world = .ok record) ∧
        ∀ last earlier, ended.writers = last :: earlier → ∃ change changed,
          changes[last]? = some change ∧ ended.calls[last]? = some ⟨change, .answered changed⟩ ∧
            store.standing ended.world = .ok (.obj changed.entries)) ∧
      (∀ final, store.standing ended.world = .ok (.obj final) →
        ∀ market value, (market, value) ∈ final →
          (∃ members, record = .obj members ∧ (market, value) ∈ members) ∨
          ∃ id, value = .str id ∧ (.assign market id ∈ changes ∨ ∃ members given,
            record = .obj members ∧ (market, given) ∈ members ∧ given.display = .ok id)) ∧
      (∀ first second turn change found,
        let before := (opened start changes).run library first
        let between := (before.step library turn).run library second
        let after := between.step library turn
        before.calls[turn]? = some ⟨change, .asked⟩ →
        (store.standing before.world >>= Library.assignmentsOf) = .ok found →
        between.writers = before.writers →
          (store.standing between.world >>= Library.assignmentsOf) = .ok found ∧
          (∃ changed, after.calls[turn]? = some ⟨change, .answered changed⟩) ∧
          store.standing after.world =
            .ok (Ledger.toJson (Ledger.after found.entries change.request))) ∧
      ((¬ ∃ first, Library.assignmentsOf record = .ok first) → ended.writers = []) ∧
      ((∃ first, Library.assignmentsOf record = .ok first) →
        ∀ place change, changes[place]? = some change → 2 ≤ turns.count place →
          ∃ changed, ended.calls[place]? = some ⟨change, .answered changed⟩) := by
  intro ended
  have opening := orderly_opened works stands changes
  have orderly : Orderly store record changes ended := orderly_run isPrimary opening turns
  refine ⟨⟨orderly.unwritten, fun _ _ => orderly.last_answered⟩, fun _ stands _ _ =>
    orderly.origin stands, ?_, orderly.unwritten_of_unreadable, fun readable place change isAsked =>
      answered_run isPrimary works stands readable turns isAsked⟩
  intro first second turn change found before between after isAsked isFound quiet
  exact undisturbed isPrimary (orderly_run isPrimary opening first) isAsked isFound second quiet

/-- A library that keeps its records in memory. -/
def inMemory : Library := ⟨some .memory, none, none⟩

/-- If two calls read before either writes, the change that is written first is lost, and its call
has answered nevertheless. -/
theorem interleaved_lost :
    let changes : List Rewrite := [.assign "gold" "first", .assign "oil" "second"]
    let ended := (opened World.fresh changes).run inMemory [0, 1, 0, 1]
    RecordStore.memory.Works assignmentsKey World.fresh ∧
      RecordStore.memory.standing World.fresh = .ok .null ∧
      ended.writers = [1, 0] ∧
      RecordStore.memory.standing ended.world = .ok (.obj [("oil", .str "second")]) ∧
      ∃ changed, ended.calls[0]? = some ⟨.assign "gold" "first", .answered changed⟩ := by
  intro changes ended
  have works : RecordStore.memory.Works assignmentsKey World.fresh := ⟨rfl, rfl⟩
  have stands : RecordStore.memory.standing World.fresh = .ok .null := rfl
  obtain ⟨-, -, -, -, answers⟩ :=
    interleaved inMemory .memory rfl World.fresh works .null stands changes [0, 1, 0, 1]
  exact ⟨works, stands, rfl, rfl, answers ⟨_, rfl⟩ 0 _ rfl (by decide)⟩

/-- A call that takes out one market turns what the record has for another into a text: the entry in
the end is neither one of the start nor was it asked for. -/
theorem interleaved_truthValue :
    let record : Json := .obj [("gold", .bool true)]
    let start := { World.fresh with
      memory := ⟨Table.put Table.empty assignmentsKey record, false, false⟩ }
    let ended := (opened start [.unassign "oil"]).run inMemory [0, 0]
    RecordStore.memory.Works assignmentsKey start ∧
      RecordStore.memory.standing start = .ok record ∧ ended.writers = [0] ∧
      RecordStore.memory.standing ended.world = .ok (.obj [("gold", .str "True")]) ∧
      ("gold", Json.str "True") ∉ [("gold", Json.bool true)] ∧
      ∀ market id, Rewrite.assign market id ∉ [Rewrite.unassign "oil"] :=
  ⟨⟨rfl, rfl⟩, rfl, rfl, rfl, by simp, by simp⟩

end Traffic

end MarketSignal
