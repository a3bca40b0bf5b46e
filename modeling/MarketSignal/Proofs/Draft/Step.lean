/-
This file says what an edit of a draft can do. An edit that changes or deletes is refused and
changes nothing, or revises the book in one place, at an entry that it found. An edit that adds is
refused and at most reads the clock or uses a key up, or it issues the next key and puts the new
entry under it. What holds of every step of a draft is shown from this list, without looking at the
edits again.
-/
import MarketSignal.Proofs.Draft.Keys
import MarketSignal.Proofs.Table
import MarketSignal.Draft.Request

namespace MarketSignal

/-- What the key starts with that an edit issues, if it issues one. -/
def Edit.stem? : Edit → Option String
  | .addScenario _ => some "scenario"
  | .addCondition _ => some "condition"
  | .addOutcome _ _ _ _ => some "output"
  | _ => none

namespace Draft

/-! ### Found entries -/

/-- What is looked up with success is in the table, under the name that was asked for. -/
theorem eq_str_of_lookUp {Value : Type} {table : Table Value} {key : Json} {name : String}
    {value : Value} (found : table.lookUp key = .ok (some (name, value))) :
    key = .str name ∧ table.get? name = some value := by
  unfold Table.lookUp at found
  split at found
  case h_1 text =>
    obtain ⟨present, isPresent, same⟩ := Option.map_eq_some_iff.mp (Except.ok.inj found)
    cases same
    exact ⟨rfl, isPresent⟩
  case h_2 => cases found
  case h_3 => cases found
  case h_4 => cases found

theorem not_missing {Result : Type} (kind : String) (key : Json) (result : Result) :
    missing kind key ≠ .ok result := by
  unfold missing
  cases key.display <;> exact nofun

/-- The part of a spot lies in its scenario, and the scenario in the book. -/
structure Spot.Lies {Part : Type} (spot : Spot Part) (book : Book)
    (parts : Scenario → Table Part) : Prop where
  scenario : Table.get? book spot.id = some spot.scenario
  part : (parts spot.scenario).get? spot.key = some spot.part

section

variable {book : Book} {id key index : Json}

theorem lookUp_of_scenarioAt {name : String} {scenario : Scenario}
    (found : scenarioAt book id = .ok (name, scenario)) :
    Table.lookUp book id = .ok (some (name, scenario)) := by
  obtain ⟨entry, isEntry, rest⟩ := bind_eq_ok found
  cases entry with
  | none => exact absurd rest (not_missing _ _ _)
  | some entry =>
    cases rest
    exact isEntry

theorem lookUp_of_conditionAt {spot : Spot Condition}
    (found : conditionAt book id key = .ok spot) :
    Table.lookUp book id = .ok (some (spot.id, spot.scenario)) ∧
      spot.scenario.conditions.lookUp key = .ok (some (spot.key, spot.part)) := by
  obtain ⟨⟨name, scenario⟩, isScenario, rest⟩ := bind_eq_ok found
  obtain ⟨entry, isEntry, rest⟩ := bind_eq_ok rest
  cases entry with
  | none =>
    obtain ⟨text, -, rest⟩ := bind_eq_ok rest
    exact absurd rest (not_missing _ _ _)
  | some entry =>
    cases rest
    exact ⟨lookUp_of_scenarioAt isScenario, isEntry⟩

theorem lookUp_of_outcomeAt {spot : Spot Outcome} (found : outcomeAt book id key = .ok spot) :
    Table.lookUp book id = .ok (some (spot.id, spot.scenario)) ∧
      spot.scenario.outcomes.lookUp key = .ok (some (spot.key, spot.part)) := by
  obtain ⟨⟨name, scenario⟩, isScenario, rest⟩ := bind_eq_ok found
  obtain ⟨entry, isEntry, rest⟩ := bind_eq_ok rest
  cases entry with
  | none =>
    obtain ⟨text, -, rest⟩ := bind_eq_ok rest
    exact absurd rest (not_missing _ _ _)
  | some entry =>
    cases rest
    exact ⟨lookUp_of_scenarioAt isScenario, isEntry⟩

/-- A choice is found in a condition that is found, at the place that its index stands for. -/
theorem placeOf?_of_choiceAt {spot : Spot Condition} {place : Nat} {choice : Choice}
    (found : choiceAt book id key index = .ok (spot, place, choice)) :
    conditionAt book id key = .ok spot ∧
      placeOf? spot.part.choices.length index = .ok (some place) ∧
      spot.part.choices[place]? = some choice := by
  obtain ⟨condition, isCondition, rest⟩ := bind_eq_ok found
  obtain ⟨position, isPosition, rest⟩ := bind_eq_ok rest
  dsimp only at rest
  split at rest
  case h_1 place choice isPlace =>
    cases rest
    obtain ⟨_, rfl, isThere⟩ := Option.bind_eq_some_iff.mp isPlace
    obtain ⟨_, isChoice, same⟩ := Option.map_eq_some_iff.mp isThere
    cases same
    exact ⟨isCondition, isPosition, isChoice⟩
  case h_2 =>
    obtain ⟨text, -, rest⟩ := bind_eq_ok rest
    obtain ⟨shown, -, rest⟩ := bind_eq_ok rest
    exact absurd rest (not_missing _ _ _)

theorem lies_scenarioAt {name : String} {scenario : Scenario}
    (found : scenarioAt book id = .ok (name, scenario)) :
    Table.get? book name = some scenario :=
  (eq_str_of_lookUp (lookUp_of_scenarioAt found)).2

theorem lies_conditionAt {spot : Spot Condition} (found : conditionAt book id key = .ok spot) :
    spot.Lies book Scenario.conditions := by
  obtain ⟨isScenario, isCondition⟩ := lookUp_of_conditionAt found
  exact ⟨(eq_str_of_lookUp isScenario).2, (eq_str_of_lookUp isCondition).2⟩

theorem lies_outcomeAt {spot : Spot Outcome} (found : outcomeAt book id key = .ok spot) :
    spot.Lies book Scenario.outcomes := by
  obtain ⟨isScenario, isOutcome⟩ := lookUp_of_outcomeAt found
  exact ⟨(eq_str_of_lookUp isScenario).2, (eq_str_of_lookUp isOutcome).2⟩

/-- A choice that is found is the one at its place. -/
theorem lies_choiceAt {spot : Spot Condition} {place : Nat} {choice : Choice}
    (found : choiceAt book id key index = .ok (spot, place, choice)) :
    spot.Lies book Scenario.conditions ∧ spot.part.choices[place]? = some choice := by
  obtain ⟨isCondition, -, isChoice⟩ := placeOf?_of_choiceAt found
  exact ⟨lies_conditionAt isCondition, isChoice⟩

end

/-! ### Revisions -/

/-- What an edit makes of a book by changing or deleting one of its entries. -/
inductive Revision (book : Book) : Book → Prop where
  | renamed {id : String} {scenario : Scenario} (found : Table.get? book id = some scenario)
      (name : Json) : Revision book (Table.put book id { scenario with name := name })
  | scenarioErased (id : String) : Revision book (Table.erase book id)
  | conditionPut {spot : Spot Condition} (lies : spot.Lies book Scenario.conditions)
      (updated : Condition) :
      Revision book (Table.put book spot.id
        { spot.scenario with conditions := spot.scenario.conditions.put spot.key updated })
  | conditionErased {spot : Spot Condition} (lies : spot.Lies book Scenario.conditions) :
      Revision book (Table.put book spot.id
        { spot.scenario with conditions := spot.scenario.conditions.erase spot.key })
  | outcomePut {spot : Spot Outcome} (lies : spot.Lies book Scenario.outcomes)
      (updated : Outcome) :
      Revision book (Table.put book spot.id
        { spot.scenario with outcomes := spot.scenario.outcomes.put spot.key updated })
  | outcomeErased {spot : Spot Outcome} (lies : spot.Lies book Scenario.outcomes) :
      Revision book (Table.put book spot.id
        { spot.scenario with outcomes := spot.scenario.outcomes.erase spot.key })

/-- The draft with another book. -/
def withBook (draft : Draft) (book : Book) : Draft := { draft with book := book }

/-- The work was refused and left the draft alone, or it revised the book. -/
inductive Revised {Result : Type} (draft : Draft) : Except Fault Result × Draft → Prop where
  | refused (fault : Fault) : Revised draft (.error fault, draft)
  | done (result : Result) {book : Book} (revision : Revision draft.book book) :
      Revised draft (.ok result, draft.withBook book)

section

variable {Found Value Result : Type} {draft : Draft}

/-- Work that first looks for an entry of the book. -/
theorem revised_find {find : Book → Except Fault Found} {next : Found → Run Draft Result}
    (rest : ∀ found, find draft.book = .ok found → Revised draft ((next found).outcome draft)) :
    Revised draft
      ((currentBook >>= fun book => Run.ofExcept (find book) >>= next).outcome draft) := by
  show Revised draft ((Run.ofExcept (find draft.book) >>= next).outcome draft)
  rw [Run.outcome_bind, Run.outcome_ofExcept]
  cases isFound : find draft.book with
  | error fault => exact .refused fault
  | ok found => exact rest found isFound

/-- Work that succeeds has found the entry that it looks for first. -/
theorem exists_of_find {find : Book → Except Fault Found} {next : Found → Run Draft Result}
    {later : Draft} {result : Result}
    (answers : (currentBook >>= fun book => Run.ofExcept (find book) >>= next).outcome draft =
      (.ok result, later)) :
    ∃ found, find draft.book = .ok found ∧ (next found).outcome draft = (.ok result, later) := by
  obtain ⟨book, _, isBook, rest⟩ := Run.exists_of_bind_eq_ok answers
  cases isBook
  exact Run.exists_of_ofExcept_bind_eq_ok rest

/-- Work that first reads a value that the author gave. -/
theorem revised_given {given : Except Fault Value} {next : Value → Run Draft Result}
    (rest : ∀ value, Revised draft ((next value).outcome draft)) :
    Revised draft ((Run.ofExcept given >>= next).outcome draft) := by
  rw [Run.outcome_bind, Run.outcome_ofExcept]
  cases given with
  | error fault => exact .refused fault
  | ok value => exact rest value

end

variable (draft : Draft)

theorem revised_renameScenario (id name : Json) :
    Revised draft ((renameScenario id name).outcome draft) :=
  revised_find fun _ isFound => .done () (.renamed (lies_scenarioAt isFound) name)

theorem revised_deleteScenario (id : Json) :
    Revised draft ((deleteScenario id).outcome draft) :=
  revised_find fun found _ => .done () (.scenarioErased found.1)

theorem revised_updateCondition (id key label kind weight : Json) :
    Revised draft ((updateCondition id key label kind weight).outcome draft) :=
  revised_find fun _ isFound => revised_given fun _ => revised_given fun _ =>
    .done _ (.conditionPut (lies_conditionAt isFound) _)

theorem revised_deleteCondition (id key : Json) :
    Revised draft ((deleteCondition id key).outcome draft) :=
  revised_find fun _ isFound => .done () (.conditionErased (lies_conditionAt isFound))

theorem revised_addChoice (id key value label weight : Json) :
    Revised draft ((addChoice id key value label weight).outcome draft) :=
  revised_find fun _ isFound => revised_given fun _ =>
    .done _ (.conditionPut (lies_conditionAt isFound) _)

theorem revised_updateChoice (id key index value label weight : Json) :
    Revised draft ((updateChoice id key index value label weight).outcome draft) :=
  revised_find fun _ isFound => revised_given fun _ =>
    .done _ (.conditionPut (lies_choiceAt isFound).1 _)

theorem revised_deleteChoice (id key index : Json) :
    Revised draft ((deleteChoice id key index).outcome draft) :=
  revised_find fun _ isFound => .done () (.conditionPut (lies_choiceAt isFound).1 _)

theorem revised_updateOutcome (id key threshold message : Json) (kind : Option Json) :
    Revised draft ((updateOutcome id key threshold message kind).outcome draft) := by
  refine revised_find fun spot isFound => ?_
  have lies := lies_outcomeAt isFound
  split
  · exact .done _ (.outcomePut lies _)
  · rw [← bind_pure_comp, bind_assoc]
    exact revised_given fun _ => .done _ (.outcomePut lies _)

theorem revised_deleteOutcome (id key : Json) :
    Revised draft ((deleteOutcome id key).outcome draft) :=
  revised_find fun _ isFound => .done () (.outcomeErased (lies_outcomeAt isFound))

/-! ### Additions -/

/-- What an edit makes of a book by putting a new entry under a key. -/
inductive Addition (book : Book) (key : String) : Book → Prop where
  | scenario (name : Json) :
      Addition book key (Table.put book key ⟨key, name, Table.empty, Table.empty⟩)
  | condition {id : String} {scenario : Scenario} (found : Table.get? book id = some scenario)
      (added : Condition) :
      Addition book key
        (Table.put book id { scenario with conditions := scenario.conditions.put key added })
  | outcome {id : String} {scenario : Scenario} (found : Table.get? book id = some scenario)
      (added : Outcome) :
      Addition book key
        (Table.put book id { scenario with outcomes := scenario.outcomes.put key added })

/-- The work was refused before or after a key was issued, or it put a new entry under the key that
it issued. -/
inductive Added (draft : Draft) : Except Fault String × Draft → Prop where
  | refused (fault : Fault) : Added draft (.error fault, draft)
  | unissued (fault : Fault) : Added draft (.error fault, draft.ticked)
  | wasted {stem key : String} (next : draft.NextKey stem key) (fault : Fault) :
      Added draft (.error fault, draft.issued key)
  | done {stem key : String} (next : draft.NextKey stem key) {book : Book}
      (addition : Addition draft.book key book) :
      Added draft (.ok key, (draft.issued key).withBook book)

/-- Work that first looks for a scenario. -/
theorem added_find {id : Json} {next : String × Scenario → Run Draft String}
    (rest : ∀ name scenario, Table.get? draft.book name = some scenario →
      Added draft ((next (name, scenario)).outcome draft)) :
    Added draft
      ((currentBook >>= fun book => Run.ofExcept (scenarioAt book id) >>= next).outcome draft) := by
  show Added draft ((Run.ofExcept (scenarioAt draft.book id) >>= next).outcome draft)
  rw [Run.outcome_bind, Run.outcome_ofExcept]
  cases isFound : scenarioAt draft.book id with
  | error fault => exact .refused fault
  | ok found => exact rest found.1 found.2 (lies_scenarioAt isFound)

/-- Work that issues a key. -/
theorem added_issueKey {stem : String} {next : String → Run Draft String}
    (rest : ∀ key, draft.NextKey stem key →
      Added draft ((next key).outcome (draft.issued key))) :
    Added draft ((issueKey stem >>= next).outcome draft) := by
  rw [Run.outcome_bind]
  obtain ⟨fault, refused⟩ | ⟨key, isNext, issues⟩ := outcome_issueKey stem draft
  · rw [refused]
    exact .unissued fault
  · rw [issues]
    exact rest key isNext

theorem added_addScenario (name : Json) : Added draft ((addScenario name).outcome draft) :=
  added_issueKey draft fun _ isNext => .done isNext (.scenario name)

theorem added_addCondition (id : Json) : Added draft ((addCondition id).outcome draft) :=
  added_find draft fun _ _ isFound => added_issueKey draft fun _ isNext =>
    .done isNext (.condition isFound _)

theorem added_addOutcome (id threshold message kind : Json) :
    Added draft ((addOutcome id threshold message kind).outcome draft) := by
  refine added_find draft fun name scenario isFound =>
    added_issueKey draft fun key isNext => ?_
  rw [Run.outcome_bind, Run.outcome_ofExcept]
  cases givenNumber threshold with
  | error fault => exact .wasted isNext fault
  | ok number => exact .done isNext (.outcome isFound _)

/-! ### Any edit -/

/-- What an edit answers and leaves behind. -/
inductive Step (draft : Draft) : Except Fault EditResult × Draft → Prop where
  | refused (fault : Fault) : Step draft (.error fault, draft)
  | revised (result : EditResult) (noKey : ∀ key, result ≠ .key key) {book : Book}
      (revision : Revision draft.book book) : Step draft (.ok result, draft.withBook book)
  | unissued (fault : Fault) : Step draft (.error fault, draft.ticked)
  | wasted {stem key : String} (next : draft.NextKey stem key) (fault : Fault) :
      Step draft (.error fault, draft.issued key)
  | added {stem key : String} (next : draft.NextKey stem key) {book : Book}
      (addition : Addition draft.book key book) :
      Step draft (.ok (.key key), (draft.issued key).withBook book)

variable {draft}

/-- A revision answers anything but a key. -/
theorem step_of_revised {Result : Type} {work : Run Draft Result}
    (revised : Revised draft (work.outcome draft)) (answer : Result → EditResult)
    (noKey : ∀ result key, answer result ≠ .key key) :
    Step draft ((work >>= fun result => pure (answer result)).outcome draft) := by
  rw [Run.outcome_bind]
  revert revised
  generalize work.outcome draft = ended
  intro revised
  cases revised with
  | refused fault => exact .refused fault
  | done result revision => exact .revised _ (noKey result) revision

theorem step_of_added {work : Run Draft String} (added : Added draft (work.outcome draft)) :
    Step draft ((work >>= fun key => pure (.key key)).outcome draft) := by
  rw [Run.outcome_bind]
  revert added
  generalize work.outcome draft = ended
  intro added
  cases added with
  | refused fault => exact .refused fault
  | unissued fault => exact .unissued fault
  | wasted next fault => exact .wasted next fault
  | done next addition => exact .added next addition

/-- What is answered after work on the draft comes from the result of the work. -/
theorem exists_of_answered {Result : Type} {work : Run Draft Result}
    {answer : Result → EditResult} {later : Draft} {answered : EditResult}
    (succeeds : (work >>= fun result => pure (answer result)).outcome draft =
      (.ok answered, later)) :
    ∃ result, work.outcome draft = (.ok result, later) ∧ answered = answer result := by
  obtain ⟨result, between, works, last⟩ := Run.exists_of_bind_eq_ok succeeds
  cases last
  exact ⟨result, works, rfl⟩

/-- Every edit takes one of these steps. -/
theorem step_perform (edit : Edit) (draft : Draft) : Step draft (edit.perform.outcome draft) := by
  cases edit with
  | addScenario name => exact step_of_added (added_addScenario draft name)
  | renameScenario id name =>
    exact step_of_revised (revised_renameScenario draft id name) _ nofun
  | deleteScenario id => exact step_of_revised (revised_deleteScenario draft id) _ nofun
  | addCondition id => exact step_of_added (added_addCondition draft id)
  | updateCondition id key label kind weight =>
    exact step_of_revised (revised_updateCondition draft id key label kind weight) _ nofun
  | deleteCondition id key => exact step_of_revised (revised_deleteCondition draft id key) _ nofun
  | addChoice id key value label weight =>
    exact step_of_revised (revised_addChoice draft id key value label weight) _ nofun
  | updateChoice id key index value label weight =>
    exact step_of_revised (revised_updateChoice draft id key index value label weight) _ nofun
  | deleteChoice id key index =>
    exact step_of_revised (revised_deleteChoice draft id key index) _ nofun
  | addOutcome id threshold message kind =>
    exact step_of_added (added_addOutcome draft id threshold message kind)
  | updateOutcome id key threshold message kind =>
    exact step_of_revised (revised_updateOutcome draft id key threshold message kind) _ nofun
  | deleteOutcome id key => exact step_of_revised (revised_deleteOutcome draft id key) _ nofun

end Draft

end MarketSignal
