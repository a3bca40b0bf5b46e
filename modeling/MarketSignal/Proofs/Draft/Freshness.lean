/-
This file proves when the keys that a draft issues are new. A history is any sequence of edits of a
draft, of books brought in by loading, and of things that happen outside. It remembers every key
that the draft has held, and the keys of the conditions and outcomes that loading brought in. Those
keys are not reserved by loading, while the identities of the scenarios are. The invariant is that
every key held so far is reserved or was brought in by loading; one step preserves it, so every
history does, and a key that an edit issues is new exactly if loading did not bring it in.
-/
import MarketSignal.Proofs.Draft.Step
import MarketSignal.Draft.Keeping

namespace MarketSignal

namespace Draft

/-! ### The keys of a book -/

/-- The keys of the conditions and outcomes of a book. -/
def partKeys (book : Book) : List String :=
  (Table.values book).flatMap fun scenario => scenario.conditions.names ++ scenario.outcomes.names

theorem mem_keysOf_iff (book : Book) (key : String) :
    key ∈ keysOf book ↔ key ∈ Table.names book ∨ key ∈ partKeys book :=
  List.mem_append

/-- Where a key occurs among the parts of a scenario. -/
def IsPartKey (scenario : Scenario) (key : String) : Prop :=
  (∃ condition, scenario.conditions.get? key = some condition) ∨
    ∃ outcome, scenario.outcomes.get? key = some outcome

/-- A key of a book is an identity of a scenario or the key of one of its parts. -/
theorem mem_keysOf (book : Book) (key : String) :
    key ∈ keysOf book ↔ (∃ scenario, Table.get? book key = some scenario) ∨
      ∃ id scenario, Table.get? book id = some scenario ∧ IsPartKey scenario key := by
  rw [mem_keysOf_iff, Table.mem_names]
  refine or_congr_right ?_
  simp only [partKeys, IsPartKey, List.mem_flatMap, List.mem_append, Table.mem_values,
    Table.mem_names]
  constructor
  · rintro ⟨scenario, ⟨id, found⟩, part⟩
    exact ⟨id, scenario, found, part⟩
  · rintro ⟨id, scenario, found, part⟩
    exact ⟨scenario, ⟨id, found⟩, part⟩

/-- Putting a scenario adds no more keys than its own. -/
theorem mem_keysOf_put {book : Book} {id key : String} {scenario : Scenario}
    (member : key ∈ keysOf (Table.put book id scenario)) :
    key = id ∨ IsPartKey scenario key ∨ key ∈ keysOf book := by
  rw [mem_keysOf] at member
  obtain ⟨found, isFound⟩ | ⟨name, found, isFound, part⟩ := member
  · obtain ⟨rfl, -⟩ | before := Table.get?_of_put isFound
    · exact Or.inl rfl
    · exact Or.inr (Or.inr ((mem_keysOf book key).mpr (Or.inl ⟨found, before⟩)))
  · obtain ⟨-, rfl⟩ | before := Table.get?_of_put isFound
    · exact Or.inr (Or.inl part)
    · exact Or.inr (Or.inr ((mem_keysOf book key).mpr (Or.inr ⟨name, found, before, part⟩)))

/-- Putting a scenario in the place of another adds no more keys than those of its new parts. -/
theorem mem_keysOf_replace {book : Book} {id key : String} {before after : Scenario}
    (found : Table.get? book id = some before)
    (member : key ∈ keysOf (Table.put book id after)) :
    IsPartKey after key ∨ key ∈ keysOf book := by
  obtain rfl | part | old := mem_keysOf_put member
  · exact Or.inr ((mem_keysOf book key).mpr (Or.inl ⟨before, found⟩))
  · exact Or.inl part
  · exact Or.inr old

/-- A revision brings in no key. -/
theorem keysOf_revision {book revised : Book} (revision : Revision book revised) :
    keysOf revised ⊆ keysOf book := by
  intro key member
  have held {id : String} {scenario : Scenario} (found : Table.get? book id = some scenario)
      (part : IsPartKey scenario key) : key ∈ keysOf book :=
    (mem_keysOf book key).mpr (Or.inr ⟨id, scenario, found, part⟩)
  cases revision with
  | renamed found name =>
    exact (mem_keysOf_replace found member).elim (fun part => held found part) id
  | scenarioErased id =>
    rw [mem_keysOf] at member
    obtain ⟨scenario, isFound⟩ | ⟨name, scenario, isFound, part⟩ := member
    · exact (mem_keysOf book key).mpr (Or.inl ⟨scenario, Table.get?_of_erase isFound⟩)
    · exact held (Table.get?_of_erase isFound) part
  | @conditionPut spot lies updated =>
    obtain (⟨condition, isFound⟩ | ofOutcome) | old := mem_keysOf_replace lies.scenario member
    · obtain ⟨rfl, -⟩ | before := Table.get?_of_put isFound
      · exact held lies.scenario (Or.inl ⟨spot.part, lies.part⟩)
      · exact held lies.scenario (Or.inl ⟨condition, before⟩)
    · exact held lies.scenario (Or.inr ofOutcome)
    · exact old
  | conditionErased lies =>
    obtain (⟨condition, isFound⟩ | ofOutcome) | old := mem_keysOf_replace lies.scenario member
    · exact held lies.scenario (Or.inl ⟨condition, Table.get?_of_erase isFound⟩)
    · exact held lies.scenario (Or.inr ofOutcome)
    · exact old
  | @outcomePut spot lies updated =>
    obtain (ofCondition | ⟨outcome, isFound⟩) | old := mem_keysOf_replace lies.scenario member
    · exact held lies.scenario (Or.inl ofCondition)
    · obtain ⟨rfl, -⟩ | before := Table.get?_of_put isFound
      · exact held lies.scenario (Or.inr ⟨spot.part, lies.part⟩)
      · exact held lies.scenario (Or.inr ⟨outcome, before⟩)
    · exact old
  | outcomeErased lies =>
    obtain (ofCondition | ⟨outcome, isFound⟩) | old := mem_keysOf_replace lies.scenario member
    · exact held lies.scenario (Or.inl ofCondition)
    · exact held lies.scenario (Or.inr ⟨outcome, Table.get?_of_erase isFound⟩)
    · exact old

/-- An addition brings in its key and no other. -/
theorem keysOf_addition {book added : Book} {new : String} (addition : Addition book new added) :
    keysOf added ⊆ new :: keysOf book := by
  intro key member
  have held {id : String} {scenario : Scenario} (found : Table.get? book id = some scenario)
      (part : IsPartKey scenario key) : key ∈ new :: keysOf book :=
    List.mem_cons_of_mem _ ((mem_keysOf book key).mpr (Or.inr ⟨id, scenario, found, part⟩))
  cases addition with
  | scenario name =>
    obtain rfl | ⟨⟨_, isFound⟩ | ⟨_, isFound⟩⟩ | old := mem_keysOf_put member
    · exact List.mem_cons_self
    · cases isFound
    · cases isFound
    · exact List.mem_cons_of_mem _ old
  | condition found condition =>
    obtain (⟨other, isFound⟩ | ofOutcome) | old := mem_keysOf_replace found member
    · obtain ⟨rfl, -⟩ | before := Table.get?_of_put isFound
      · exact List.mem_cons_self
      · exact held found (Or.inl ⟨other, before⟩)
    · exact held found (Or.inr ofOutcome)
    · exact List.mem_cons_of_mem _ old
  | outcome found outcome =>
    obtain (ofCondition | ⟨other, isFound⟩) | old := mem_keysOf_replace found member
    · exact held found (Or.inl ofCondition)
    · obtain ⟨rfl, -⟩ | before := Table.get?_of_put isFound
      · exact List.mem_cons_self
      · exact held found (Or.inr ⟨other, before⟩)
    · exact List.mem_cons_of_mem _ old

/-! ### What an addition leaves alone -/

/-- Every entry of a table is unchanged in another. -/
def KeptEntries {Value : Type} (before after : Table Value) : Prop :=
  ∀ name value, before.get? name = some value → after.get? name = some value

/-- A scenario is the same but for conditions and outcomes that were added. -/
structure Kept (before after : Scenario) : Prop where
  sameId : after.id = before.id
  sameName : after.name = before.name
  conditions : KeptEntries before.conditions after.conditions
  outcomes : KeptEntries before.outcomes after.outcomes

/-- Every scenario of a book, with every condition and outcome, is unchanged in another. -/
def KeptBook (before after : Book) : Prop :=
  ∀ id scenario, Table.get? before id = some scenario →
    ∃ later, Table.get? after id = some later ∧ Kept scenario later

theorem Kept.refl (scenario : Scenario) : Kept scenario scenario :=
  ⟨rfl, rfl, fun _ _ found => found, fun _ _ found => found⟩

theorem keptEntries_put {Value : Type} (table : Table Value) (name : String) (value : Value)
    (absent : ∀ current, table.get? name ≠ some current) :
    KeptEntries table (table.put name value) := by
  intro other current found
  have different : name ≠ other := fun same => absent current (same ▸ found)
  rw [Table.get?_put_other _ _ _ _ different, found]

theorem keptBook_put {book : Book} {id : String} {before after : Scenario}
    (found : Table.get? book id = some before) (kept : Kept before after) :
    KeptBook book (Table.put book id after) := by
  intro name scenario isFound
  by_cases same : id = name
  · subst same
    cases found.symm.trans isFound
    exact ⟨after, Table.get?_put_self _ _ _, kept⟩
  · exact ⟨scenario, (Table.get?_put_other _ _ _ _ same).trans isFound, .refl scenario⟩

/-- An addition under a key that the book does not hold changes nothing that is there. -/
theorem keptBook_addition {book added : Book} {key : String} (addition : Addition book key added)
    (new : key ∉ keysOf book) : KeptBook book added := by
  have noPart {id : String} {scenario : Scenario} (found : Table.get? book id = some scenario) :
      ¬ IsPartKey scenario key :=
    fun part => new ((mem_keysOf book key).mpr (Or.inr ⟨id, scenario, found, part⟩))
  cases addition with
  | scenario name =>
    have absent : ∀ current, Table.get? book key ≠ some current :=
      fun current found => new ((mem_keysOf book key).mpr (Or.inl ⟨current, found⟩))
    exact fun id scenario found =>
      ⟨scenario, keptEntries_put book key _ absent id scenario found, .refl scenario⟩
  | condition found condition =>
    refine keptBook_put found ⟨rfl, rfl, keptEntries_put _ _ _ fun current isFound => ?_,
      fun _ _ => id⟩
    exact noPart found (Or.inl ⟨current, isFound⟩)
  | outcome found outcome =>
    refine keptBook_put found ⟨rfl, rfl, fun _ _ => id,
      keptEntries_put _ _ _ fun current isFound => ?_⟩
    exact noPart found (Or.inr ⟨current, isFound⟩)

/-! ### Histories -/

/-- A step of a history. -/
inductive Event where
  | edit (edit : Edit)
  | load (library : Library)
  | save (library : Library) (strict : Bool)
  | evaluate (id answers : Json)
  /-- Anything happens outside the draft. -/
  | elsewhere (world : World)

/-- Where a history has got to: the draft and the world, every key that the draft has held, and the
keys of the conditions and outcomes that loading brought in. -/
structure History where
  draft : Draft
  world : World
  held : List String
  loaded : List String

namespace History

/-- The history of a draft that was just opened. -/
def opened (book : Book) (clock : Clock) (world : World) : History :=
  ⟨openOn book clock, world, keysOf book, []⟩

/-- A history after the draft became another, whose keys are held from then on. -/
def moved (history : History) (draft : Draft) : History :=
  { history with draft := draft, held := keysOf draft.book ++ history.held }

/-- A history after one more step. -/
def after (history : History) : Event → History
  | .edit edit => history.moved (edit.perform.outcome history.draft).2
  | .load library =>
    match (history.draft.load library).outcome history.world with
    | (.ok (true, draft), world) =>
      { history.moved draft with
        world := world, loaded := partKeys draft.book ++ history.loaded }
    | (.ok (false, draft), world) => { history.moved draft with world := world }
    | (.error _, world) => { history with world := world }
  | .save library strict =>
    { history with
      world := ((history.draft.save library strict).outcome history.world).2 }
  | .evaluate id answers =>
    { history with
      world := ((history.draft.evaluate id answers).outcome history.world).2 }
  | .elsewhere world => { history with world := world }

/-- A history after a sequence of steps. -/
def run (history : History) (events : List Event) : History := events.foldl after history

/-- What the draft holds now it has held; loaded keys were held; and what was held and not loaded
is reserved. -/
structure Covered (history : History) : Prop where
  current : keysOf history.draft.book ⊆ history.held
  loaded : history.loaded ⊆ history.held
  held : ∀ key ∈ history.held, key ∈ history.draft.reserved ∨ key ∈ history.loaded

/-! ### One step -/

/-- A draft that forgets no reserved key and holds no key that is neither old nor reserved. -/
theorem covered_moved {history : History} (covered : history.Covered) (draft : Draft)
    (remembers : history.draft.reserved ⊆ draft.reserved)
    (keys : ∀ key ∈ keysOf draft.book,
      key ∈ keysOf history.draft.book ∨ key ∈ draft.reserved) :
    (history.moved draft).Covered := by
  refine ⟨List.subset_append_left _ _,
    fun key member => List.mem_append_right _ (covered.loaded member), fun key member => ?_⟩
  have old (isHeld : key ∈ history.held) : key ∈ draft.reserved ∨ key ∈ history.loaded :=
    (covered.held key isHeld).imp_left (@remembers key)
  rcases List.mem_append.mp member with now | before
  · exact (keys key now).elim (fun current => old (covered.current current)) Or.inl
  · exact old before

theorem covered_edit {history : History} (covered : history.Covered) (edit : Edit) :
    (history.after (.edit edit)).Covered := by
  have step := step_perform edit history.draft
  rw [after]
  revert step
  generalize edit.perform.outcome history.draft = ended
  intro step
  cases step with
  | refused => exact covered_moved covered _ (fun _ => id) fun _ => Or.inl
  | revised result noKey revision =>
    exact covered_moved covered _ (fun _ => id) fun _ member =>
      Or.inl (keysOf_revision revision member)
  | unissued => exact covered_moved covered _ (fun _ => id) fun _ => Or.inl
  | wasted => exact covered_moved covered _ (List.subset_cons_self _ _) fun _ => Or.inl
  | added next addition =>
    refine covered_moved covered _ (List.subset_cons_self _ _) fun key member => ?_
    rcases List.mem_cons.mp (keysOf_addition addition member) with rfl | old
    · exact Or.inr List.mem_cons_self
    · exact Or.inl old

/-- Loading leaves a draft as it is, or brings in a book and reserves the identities of its
scenarios. -/
theorem outcome_load (draft : Draft) (library : Library) (world : World) :
    (∃ fault after, (draft.load library).outcome world = (.error fault, after)) ∨
      (∃ after, (draft.load library).outcome world = (.ok (false, draft), after)) ∨
      ∃ book after, (draft.load library).outcome world =
        (.ok (true, ⟨book, Table.names book ++ draft.reserved, draft.clock⟩), after) := by
  unfold Draft.load
  split
  · exact Or.inr (Or.inl ⟨world, rfl⟩)
  · show (∃ fault after, (library.load >>= _).outcome world = _) ∨
      (∃ after, (library.load >>= _).outcome world = _) ∨
      ∃ book after, (library.load >>= _).outcome world = _
    rw [Run.outcome_bind]
    obtain ⟨fault | book, after⟩ := library.load.outcome world
    · exact Or.inl ⟨fault, after, rfl⟩
    · exact Or.inr (Or.inr ⟨book, after, rfl⟩)

/-- The invariant does not mention the world. -/
theorem Covered.inWorld {history : History} (covered : history.Covered) (world : World) :
    ({ history with world := world } : History).Covered :=
  ⟨covered.current, covered.loaded, covered.held⟩

theorem covered_load {history : History} (covered : history.Covered) (library : Library) :
    (history.after (.load library)).Covered := by
  rw [after]
  obtain ⟨fault, world, failed⟩ | ⟨world, kept⟩ | ⟨book, world, filled⟩ :=
    outcome_load history.draft library history.world
  · rw [failed]
    exact covered.inWorld world
  · rw [kept]
    exact (covered_moved covered history.draft (fun _ => id) fun _ => Or.inl).inWorld world
  · rw [filled]
    refine ⟨List.subset_append_left _ _, fun key member => ?_, fun key member => ?_⟩
    · refine List.mem_append.mpr ((List.mem_append.mp member).imp (fun part => ?_)
        (@covered.loaded key))
      exact (mem_keysOf_iff book key).mpr (Or.inr part)
    · rcases List.mem_append.mp member with now | before
      · exact ((mem_keysOf_iff book key).mp now).imp (List.mem_append_left _)
          (List.mem_append_left _)
      · exact (covered.held key before).imp (List.mem_append_right _) (List.mem_append_right _)

/-- Whatever happens next, every key held so far is reserved or was loaded. -/
theorem covered_after {history : History} (covered : history.Covered) (event : Event) :
    (history.after event).Covered := by
  cases event with
  | edit edit => exact covered_edit covered edit
  | load library => exact covered_load covered library
  | save library strict => exact covered.inWorld _
  | evaluate id answers => exact covered.inWorld _
  | elsewhere world => exact covered.inWorld world

/-! ### Whole histories -/

theorem covered_opened (book : Book) (clock : Clock) (world : World) :
    (opened book clock world).Covered :=
  ⟨fun _ => id, List.nil_subset _, fun _ => Or.inl⟩

theorem covered_run {history : History} (covered : history.Covered) (events : List Event) :
    (history.run events).Covered := by
  induction events generalizing history with
  | nil => exact covered
  | cons event rest inductionHypothesis => exact inductionHypothesis (covered_after covered event)

/-- An edit that answers a key answers one that the draft never held, and changes no entry that is
there, exactly if the key is not one of a condition or outcome that loading brought in. -/
theorem issues_fresh_exactly (book : Book) (clock : Clock) (world : World) (events : List Event)
    (edit : Edit) (key : String) (later : Draft)
    (issues : edit.perform.outcome ((opened book clock world).run events).draft =
      (.ok (.key key), later)) :
    (key ∉ ((opened book clock world).run events).held ∧
        KeptBook ((opened book clock world).run events).draft.book later.book) ↔
      key ∉ ((opened book clock world).run events).loaded := by
  have covered := covered_run (covered_opened book clock world) events
  revert issues covered
  generalize (opened book clock world).run events = history
  intro issues covered
  constructor
  · exact fun new isLoaded => new.1 (covered.loaded isLoaded)
  · intro notLoaded
    have step := step_perform edit history.draft
    rw [issues] at step
    cases step with
    | revised result noKey => exact absurd rfl (noKey key)
    | added next addition =>
      have new : key ∉ history.held := fun isHeld =>
        (covered.held key isHeld).elim next.fresh notLoaded
      exact ⟨new, keptBook_addition addition fun current => new (covered.current current)⟩

/-! ### Two drafts filled from a library -/

/-- A clock that stands still. -/
def stoppedClock : Clock := ⟨[], .int 1700000000⟩

/-- An empty draft that was filled from a library, at the time of the clock. -/
def filledFrom (library : Library) : History :=
  (opened Table.empty stoppedClock World.fresh).run [.load library]

/-- A condition is added under the key that the clock makes, unless that key is reserved. -/
theorem addCondition_adds {draft : Draft} {id : Json} {name key : String} {scenario : Scenario}
    (found : scenarioAt draft.book id = .ok (name, scenario))
    (issues : (issueKey "condition").outcome draft = (.ok key, draft.issued key)) :
    (Edit.addCondition id).perform.outcome draft =
      (.ok (.key key), (draft.issued key).withBook (Table.put draft.book name
        { scenario with
          conditions := scenario.conditions.put key ⟨newConditionLabel, .text, 0, []⟩ })) := by
  show (Run.ofExcept (scenarioAt draft.book id) >>= _ >>= _).outcome draft = _
  rw [bind_assoc, Run.outcome_bind, Run.outcome_ofExcept, found, Run.continued]
  show ((issueKey "condition" >>= _) >>= _).outcome draft = _
  rw [bind_assoc, Run.outcome_bind, issues]
  rfl

/-- A draft at the stopped clock issues the key of its time if that key is not reserved. -/
theorem issueKey_stopped {draft : Draft} (stops : draft.clock = stoppedClock)
    (isFree : freeStamp draft.reserved "condition" 1700000000000 = 1700000000000) :
    (issueKey "condition").outcome draft =
      (.ok "condition_1700000000000", draft.issued "condition_1700000000000") := by
  rw [issueKey_of_time "condition" draft 1700000000000 (by rw [stops]; rfl), isFree,
    if_neg (by decide +kernel)]
  rfl

/-- A condition added to the default book gets a new key, and nothing there changes. -/
theorem issues_fresh_default :
    let history := filledFrom ⟨none, none, none⟩
    ∃ later, (Edit.addCondition (.str "bullishBreakout")).perform.outcome history.draft =
        (.ok (.key "condition_1700000000000"), later) ∧
      "condition_1700000000000" ∉ history.held ∧ KeptBook history.draft.book later.book := by
  have issues : (Edit.addCondition (.str "bullishBreakout")).perform.outcome
      (filledFrom ⟨none, none, none⟩).draft = _ :=
    addCondition_adds rfl (issueKey_stopped rfl (by decide +kernel))
  exact ⟨_, issues, (issues_fresh_exactly Table.empty stoppedClock World.fresh
    [.load ⟨none, none, none⟩] _ _ _ issues).mpr (List.not_mem_nil)⟩

/-- A library with one scenario, whose condition has the key of the time at the stopped clock. -/
def trendLibrary : Library :=
  ⟨none, some (.given (.ok (documentOf (.obj [("s", .obj [("name", .str "S"),
    ("conditions", .obj [("condition_1700000000000", .obj [("label", .str "Trend"),
      ("type", .str "checkbox"), ("weight", .int 5)])])])])))), none⟩

/-- A condition added to a loaded scenario gets the key of a condition that is there, and replaces
it. -/
theorem issues_loadedKey :
    let history := filledFrom trendLibrary
    ∃ later, (Edit.addCondition (.str "s")).perform.outcome history.draft =
        (.ok (.key "condition_1700000000000"), later) ∧
      "condition_1700000000000" ∈ history.held ∧ ¬ KeptBook history.draft.book later.book := by
  have issues : (Edit.addCondition (.str "s")).perform.outcome
      (filledFrom trendLibrary).draft = _ :=
    addCondition_adds rfl (issueKey_stopped rfl (by decide +kernel))
  refine ⟨_, issues, by decide +kernel, fun kept => ?_⟩
  obtain ⟨later, isLater, keeps⟩ := kept "s" _ rfl
  have condition := keeps.conditions "condition_1700000000000" _ rfl
  cases isLater
  injection condition with same
  injection same with _ sameKind
  cases sameKind

end History

end Draft

end MarketSignal
