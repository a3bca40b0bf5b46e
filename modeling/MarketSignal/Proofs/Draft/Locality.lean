/-
This file proves that an edit which changes or deletes an entry leaves everything else alone. What
an edit does is told from the outside in: in the book the value under one identity is changed where
it stands, in that scenario only the conditions or only the outcomes are changed, among those the
value under one key, and in a condition, where the edit is about a choice, only the choices. On each
level a change is described by what stands before and behind the changed entry, which are the same
lists afterwards, so that neither another entry nor the order of the entries can differ.
-/
import MarketSignal.Proofs.Draft.Step

namespace MarketSignal

/-! ### Changes of one entry of a table -/

/-- What is put under a name takes the place of the first entry of that name. -/
theorem Entries.put_between {Value : Type} (front back : List (String × Value)) (name : String)
    (old new : Value) (absent : name ∉ names front) :
    put (front ++ (name, old) :: back) name new = front ++ (name, new) :: back := by
  induction front with
  | nil => exact if_pos rfl
  | cons entry rest inductionHypothesis =>
    obtain ⟨other, current⟩ := entry
    have apart : name ≠ other ∧ name ∉ names rest := by
      simpa only [names, List.map_cons, List.mem_cons, not_or] using absent
    rw [List.cons_append, put, if_neg (Ne.symm apart.1), inductionHypothesis apart.2,
      List.cons_append]

namespace Table

variable {Value : Type}

/-- The value under a name is changed where it stands; all other entries are the same, in the same
order. -/
def ChangedAt (before : Table Value) (name : String) (change : Value → Value → Prop)
    (after : Table Value) : Prop :=
  ∃ front old new back, before.entries = front ++ (name, old) :: back ∧
    after.entries = front ++ (name, new) :: back ∧ change old new

/-- The entry under a name is taken out; all other entries are the same, in the same order. -/
def TakenOut (before : Table Value) (name : String) (after : Table Value) : Prop :=
  ∃ front old back, before.entries = front ++ (name, old) :: back ∧ after.entries = front ++ back

/-- An entry that is found stands between entries of other names. -/
theorem exists_between {table : Table Value} {name : String} {value : Value}
    (found : table.get? name = some value) :
    ∃ front back, table.entries = front ++ (name, value) :: back ∧
      name ∉ Entries.names front ∧ name ∉ Entries.names back := by
  obtain ⟨front, back, between⟩ :=
    List.append_of_mem ((table.mem_entries name value).mpr found)
  have distinct := table.distinct
  rw [between, Entries.names, List.map_append, List.map_cons, List.nodup_middle] at distinct
  have apart := (List.nodup_cons.mp distinct).1
  rw [List.mem_append, not_or] at apart
  exact ⟨front, back, between, apart⟩

theorem changedAt_put {table : Table Value} {name : String} {old new : Value}
    {change : Value → Value → Prop} (found : table.get? name = some old)
    (changed : change old new) : table.ChangedAt name change (table.put name new) := by
  obtain ⟨front, back, between, absent, -⟩ := exists_between found
  refine ⟨front, old, new, back, between, ?_, changed⟩
  show Entries.put table.entries name new = _
  rw [between, Entries.put_between front back name old new absent]

theorem takenOut_erase {table : Table Value} {name : String} {value : Value}
    (found : table.get? name = some value) : table.TakenOut name (table.erase name) := by
  obtain ⟨front, back, between, absent, absentBehind⟩ := exists_between found
  refine ⟨front, value, back, between, ?_⟩
  show table.entries.filter _ = _
  rw [between, List.filter_append, List.filter_cons_of_neg (by simp),
    Entries.filter_of_absent front name absent, Entries.filter_of_absent back name absentBehind]

end Table

/-! ### Changes of one part -/

/-- The conditions of a scenario are changed, and nothing else of it. -/
structure Scenario.ConditionsChanged (change : Table Condition → Table Condition → Prop)
    (before after : Scenario) : Prop where
  sameId : after.id = before.id
  sameName : after.name = before.name
  conditions : change before.conditions after.conditions
  sameOutcomes : after.outcomes = before.outcomes

/-- The outcomes of a scenario are changed, and nothing else of it. -/
structure Scenario.OutcomesChanged (change : Table Outcome → Table Outcome → Prop)
    (before after : Scenario) : Prop where
  sameId : after.id = before.id
  sameName : after.name = before.name
  sameConditions : after.conditions = before.conditions
  outcomes : change before.outcomes after.outcomes

/-- The choices of a condition are changed, and nothing else of it. -/
structure Condition.ChoicesChanged (change : List Choice → List Choice → Prop)
    (before after : Condition) : Prop where
  sameLabel : after.label = before.label
  sameKind : after.kind = before.kind
  sameWeight : after.weight = before.weight
  choices : change before.choices after.choices

/-- In a book, the conditions of one scenario are changed. -/
def Book.ConditionsChangedAt (before : Book) (id : String)
    (change : Table Condition → Table Condition → Prop) (after : Book) : Prop :=
  Table.ChangedAt before id (Scenario.ConditionsChanged change) after

/-- In a book, the outcomes of one scenario are changed. -/
def Book.OutcomesChangedAt (before : Book) (id : String)
    (change : Table Outcome → Table Outcome → Prop) (after : Book) : Prop :=
  Table.ChangedAt before id (Scenario.OutcomesChanged change) after

/-- In a book, the choices of one condition of one scenario are changed. -/
def Book.ChoicesChangedAt (before : Book) (id key : String)
    (change : List Choice → List Choice → Prop) (after : Book) : Prop :=
  before.ConditionsChangedAt id
    (fun old new => old.ChangedAt key (Condition.ChoicesChanged change) new) after

/-- The place that an index names: a whole number, or a truth value that counts as one. -/
inductive Json.Names : Json → Nat → Prop where
  | whole (place : Nat) : Names (.int place) place
  | no : Names (.bool false) 0
  | yes : Names (.bool true) 1

/-- What an edit that changes or deletes an entry makes of a book, and what it answers. An edit that
changes an entry answers the new one, and one that adds a choice answers its place. -/
inductive Edit.Alters (before : Book) : Edit → EditResult → Book → Prop where
  | renamesScenario {id : String} {name : Json} {after : Book}
      (changed : Table.ChangedAt before id (fun old new => new = { old with name := name }) after) :
      Alters before (.renameScenario (.str id) name) .done after
  | deletesScenario {id : String} {after : Book} (taken : Table.TakenOut before id after) :
      Alters before (.deleteScenario (.str id)) .done after
  | updatesCondition {id key : String} {label kind weight : Json} {updated : Condition}
      {after : Book}
      (changed : before.ConditionsChangedAt id
        (fun old new => old.ChangedAt key (fun was condition => condition = updated ∧
          (was.choices ≠ [] → updated.choices = was.choices)) new) after) :
      Alters before (.updateCondition (.str id) (.str key) label kind weight) (.condition updated)
        after
  | deletesCondition {id key : String} {after : Book}
      (taken : before.ConditionsChangedAt id (fun old new => old.TakenOut key new) after) :
      Alters before (.deleteCondition (.str id) (.str key)) .done after
  | addsChoice {id key : String} {value label weight : Json} {place : Nat} {after : Book}
      (added : before.ChoicesChangedAt id key
        (fun old new => old.length = place ∧ ∃ choice, new = old ++ [choice]) after) :
      Alters before (.addChoice (.str id) (.str key) value label weight) (.place place) after
  | updatesChoice {id key : String} {index value label weight : Json} {place : Nat}
      {updated : Choice} {after : Book} (names : index.Names place)
      (changed : before.ChoicesChangedAt id key
        (fun old new => ∃ front choice back, front.length = place ∧
          old = front ++ choice :: back ∧ new = front ++ updated :: back) after) :
      Alters before (.updateChoice (.str id) (.str key) index value label weight) (.choice updated)
        after
  | deletesChoice {id key : String} {index : Json} {place : Nat} {after : Book}
      (names : index.Names place)
      (taken : before.ChoicesChangedAt id key
        (fun old new => ∃ front choice back, front.length = place ∧
          old = front ++ choice :: back ∧ new = front ++ back) after) :
      Alters before (.deleteChoice (.str id) (.str key) index) .done after
  | updatesOutcome {id key : String} {threshold message : Json} {kind : Option Json}
      {updated : Outcome} {after : Book}
      (changed : before.OutcomesChangedAt id
        (fun old new => old.ChangedAt key (fun _ outcome => outcome = updated) new) after) :
      Alters before (.updateOutcome (.str id) (.str key) threshold message kind) (.outcome updated)
        after
  | deletesOutcome {id key : String} {after : Book}
      (taken : before.OutcomesChangedAt id (fun old new => old.TakenOut key new) after) :
      Alters before (.deleteOutcome (.str id) (.str key)) .done after

namespace Draft

/-! ### What entries are found by -/

theorem eq_str_of_scenarioAt {book : Book} {id : Json} {name : String} {scenario : Scenario}
    (found : scenarioAt book id = .ok (name, scenario)) : id = .str name :=
  (eq_str_of_lookUp (lookUp_of_scenarioAt found)).1

theorem eq_str_of_conditionAt {book : Book} {id key : Json} {spot : Spot Condition}
    (found : conditionAt book id key = .ok spot) : id = .str spot.id ∧ key = .str spot.key := by
  obtain ⟨isScenario, isCondition⟩ := lookUp_of_conditionAt found
  exact ⟨(eq_str_of_lookUp isScenario).1, (eq_str_of_lookUp isCondition).1⟩

theorem eq_str_of_outcomeAt {book : Book} {id key : Json} {spot : Spot Outcome}
    (found : outcomeAt book id key = .ok spot) : id = .str spot.id ∧ key = .str spot.key := by
  obtain ⟨isScenario, isOutcome⟩ := lookUp_of_outcomeAt found
  exact ⟨(eq_str_of_lookUp isScenario).1, (eq_str_of_lookUp isOutcome).1⟩

/-- An index that stands for a place names it. -/
theorem names_of_placeOf? {count place : Nat} {index : Json}
    (isPlace : placeOf? count index = .ok (some place)) : index.Names place := by
  unfold placeOf? at isPlace
  split at isPlace
  case h_1 number =>
    obtain ⟨within, same⟩ := Option.ite_some_none_eq_some.mp (Except.ok.inj isPlace)
    obtain ⟨whole, rfl⟩ := Int.eq_ofNat_of_zero_le within.1
    cases same
    exact .whole whole
  case h_2 truth =>
    obtain ⟨-, same⟩ := Option.ite_some_none_eq_some.mp (Except.ok.inj isPlace)
    subst same
    cases truth
    · exact .no
    · exact .yes
  case h_3 => split at isPlace <;> cases isPlace
  case h_4 => cases isPlace

/-! ### What is put back -/

section

variable {book : Book}

theorem conditionsChangedAt_put {spot : Spot Condition} (lies : spot.Lies book Scenario.conditions)
    {change : Table Condition → Table Condition → Prop} {conditions : Table Condition}
    (changed : change spot.scenario.conditions conditions) :
    book.ConditionsChangedAt spot.id change
      (Table.put book spot.id { spot.scenario with conditions := conditions }) :=
  Table.changedAt_put lies.scenario ⟨rfl, rfl, changed, rfl⟩

theorem outcomesChangedAt_put {spot : Spot Outcome} (lies : spot.Lies book Scenario.outcomes)
    {change : Table Outcome → Table Outcome → Prop} {outcomes : Table Outcome}
    (changed : change spot.scenario.outcomes outcomes) :
    book.OutcomesChangedAt spot.id change
      (Table.put book spot.id { spot.scenario with outcomes := outcomes }) :=
  Table.changedAt_put lies.scenario ⟨rfl, rfl, rfl, changed⟩

theorem choicesChangedAt_put {spot : Spot Condition} (lies : spot.Lies book Scenario.conditions)
    {change : List Choice → List Choice → Prop} {choices : List Choice}
    (changed : change spot.part.choices choices) :
    book.ChoicesChangedAt spot.id spot.key change
      (Table.put book spot.id { spot.scenario with
        conditions := spot.scenario.conditions.put spot.key
          { spot.part with choices := choices } }) :=
  conditionsChangedAt_put lies (Table.changedAt_put lies.part ⟨rfl, rfl, rfl, changed⟩)

end

/-- A list falls apart at the place of an element, and so it does with the element changed or taken
out. -/
theorem exists_split_at {Item : Type} {items : List Item} {place : Nat} {item : Item}
    (isThere : items[place]? = some item) (updated : Item) :
    ∃ front back, front.length = place ∧ items = front ++ item :: back ∧
      items.set place updated = front ++ updated :: back ∧
      items.eraseIdx place = front ++ back := by
  obtain ⟨within, isItem⟩ := List.getElem?_eq_some_iff.mp isThere
  refine ⟨items.take place, items.drop (place + 1), List.length_take_of_le within.le, ?_, ?_, ?_⟩
  · rw [← isItem, List.cons_getElem_drop_succ, List.take_append_drop]
  · rw [List.set_eq_take_append_cons_drop, if_pos within]
  · rw [List.eraseIdx_eq_take_drop_succ]

/-! ### The edits that change or delete -/

section

variable {draft later : Draft}

theorem alters_renameScenario {id name : Json}
    (renames : (renameScenario id name).outcome draft = (.ok (), later)) :
    (Edit.renameScenario id name).Alters draft.book .done later.book := by
  obtain ⟨⟨key, scenario⟩, isFound, rest⟩ := exists_of_find renames
  cases rest
  cases eq_str_of_scenarioAt isFound
  exact .renamesScenario (Table.changedAt_put (lies_scenarioAt isFound) rfl)

theorem alters_deleteScenario {id : Json}
    (deletes : (deleteScenario id).outcome draft = (.ok (), later)) :
    (Edit.deleteScenario id).Alters draft.book .done later.book := by
  obtain ⟨⟨key, scenario⟩, isFound, rest⟩ := exists_of_find deletes
  cases rest
  cases eq_str_of_scenarioAt isFound
  exact .deletesScenario (Table.takenOut_erase (lies_scenarioAt isFound))

theorem alters_updateCondition {id key label kind weight : Json} {updated : Condition}
    (updates : (updateCondition id key label kind weight).outcome draft = (.ok updated, later)) :
    (Edit.updateCondition id key label kind weight).Alters draft.book (.condition updated)
      later.book := by
  obtain ⟨spot, isFound, rest⟩ := exists_of_find updates
  obtain ⟨newKind, -, rest⟩ := Run.exists_of_ofExcept_bind_eq_ok rest
  obtain ⟨newWeight, -, rest⟩ := Run.exists_of_ofExcept_bind_eq_ok rest
  cases rest
  obtain ⟨rfl, rfl⟩ := eq_str_of_conditionAt isFound
  have lies := lies_conditionAt isFound
  refine .updatesCondition (conditionsChangedAt_put lies
    (Table.changedAt_put lies.part ⟨rfl, fun some => if_neg ?_⟩))
  rw [Bool.and_eq_true, List.isEmpty_iff]
  exact fun none => some none.2

theorem alters_deleteCondition {id key : Json}
    (deletes : (deleteCondition id key).outcome draft = (.ok (), later)) :
    (Edit.deleteCondition id key).Alters draft.book .done later.book := by
  obtain ⟨spot, isFound, rest⟩ := exists_of_find deletes
  cases rest
  obtain ⟨rfl, rfl⟩ := eq_str_of_conditionAt isFound
  have lies := lies_conditionAt isFound
  exact .deletesCondition (conditionsChangedAt_put lies (Table.takenOut_erase lies.part))

theorem alters_addChoice {id key value label weight : Json} {place : Nat}
    (adds : (addChoice id key value label weight).outcome draft = (.ok place, later)) :
    (Edit.addChoice id key value label weight).Alters draft.book (.place place) later.book := by
  obtain ⟨spot, isFound, rest⟩ := exists_of_find adds
  obtain ⟨number, -, rest⟩ := Run.exists_of_ofExcept_bind_eq_ok rest
  cases rest
  obtain ⟨rfl, rfl⟩ := eq_str_of_conditionAt isFound
  exact .addsChoice (choicesChangedAt_put (lies_conditionAt isFound) ⟨rfl, _, rfl⟩)

theorem alters_updateChoice {id key index value label weight : Json} {updated : Choice}
    (updates : (updateChoice id key index value label weight).outcome draft =
      (.ok updated, later)) :
    (Edit.updateChoice id key index value label weight).Alters draft.book (.choice updated)
      later.book := by
  obtain ⟨⟨spot, place, choice⟩, isFound, rest⟩ := exists_of_find updates
  obtain ⟨number, -, rest⟩ := Run.exists_of_ofExcept_bind_eq_ok rest
  cases rest
  obtain ⟨isCondition, isPlace, isThere⟩ := placeOf?_of_choiceAt isFound
  obtain ⟨rfl, rfl⟩ := eq_str_of_conditionAt isCondition
  obtain ⟨front, back, before, split, isSet, -⟩ := exists_split_at isThere _
  exact .updatesChoice (names_of_placeOf? isPlace)
    (choicesChangedAt_put (lies_conditionAt isCondition)
      ⟨front, choice, back, before, split, isSet⟩)

theorem alters_deleteChoice {id key index : Json}
    (deletes : (deleteChoice id key index).outcome draft = (.ok (), later)) :
    (Edit.deleteChoice id key index).Alters draft.book .done later.book := by
  obtain ⟨⟨spot, place, choice⟩, isFound, rest⟩ := exists_of_find deletes
  cases rest
  obtain ⟨isCondition, isPlace, isThere⟩ := placeOf?_of_choiceAt isFound
  obtain ⟨rfl, rfl⟩ := eq_str_of_conditionAt isCondition
  obtain ⟨front, back, before, split, -, isErased⟩ := exists_split_at isThere choice
  exact .deletesChoice (names_of_placeOf? isPlace)
    (choicesChangedAt_put (lies_conditionAt isCondition)
      ⟨front, choice, back, before, split, isErased⟩)

theorem alters_updateOutcome {id key threshold message : Json} {kind : Option Json}
    {updated : Outcome}
    (updates : (updateOutcome id key threshold message kind).outcome draft =
      (.ok updated, later)) :
    (Edit.updateOutcome id key threshold message kind).Alters draft.book (.outcome updated)
      later.book := by
  obtain ⟨spot, isFound, rest⟩ := exists_of_find updates
  obtain ⟨rfl, rfl⟩ := eq_str_of_outcomeAt isFound
  have lies := lies_outcomeAt isFound
  -- The threshold is read only if one is given.
  split at rest
  · cases rest
    exact .updatesOutcome (outcomesChangedAt_put lies (Table.changedAt_put lies.part rfl))
  · rw [← bind_pure_comp, bind_assoc] at rest
    obtain ⟨number, -, rest⟩ := Run.exists_of_ofExcept_bind_eq_ok rest
    cases rest
    exact .updatesOutcome (outcomesChangedAt_put lies (Table.changedAt_put lies.part rfl))

theorem alters_deleteOutcome {id key : Json}
    (deletes : (deleteOutcome id key).outcome draft = (.ok (), later)) :
    (Edit.deleteOutcome id key).Alters draft.book .done later.book := by
  obtain ⟨spot, isFound, rest⟩ := exists_of_find deletes
  cases rest
  obtain ⟨rfl, rfl⟩ := eq_str_of_outcomeAt isFound
  have lies := lies_outcomeAt isFound
  exact .deletesOutcome (outcomesChangedAt_put lies (Table.takenOut_erase lies.part))

end

/-- An edit that issues no key and succeeds changes the book at the entry that it names and nowhere
else, and nothing of the draft but the book. -/
theorem alters_of_perform (draft : Draft) (edit : Edit) (answer : EditResult) (later : Draft)
    (issuesNoKey : edit.stem? = none)
    (succeeds : edit.perform.outcome draft = (.ok answer, later)) :
    edit.Alters draft.book answer later.book ∧ later = draft.withBook later.book := by
  have alters : edit.Alters draft.book answer later.book := by
    cases edit with
    | addScenario name => cases issuesNoKey
    | addCondition id => cases issuesNoKey
    | addOutcome id threshold message kind => cases issuesNoKey
    | renameScenario id name =>
      obtain ⟨_, renames, rfl⟩ := exists_of_answered succeeds
      exact alters_renameScenario renames
    | deleteScenario id =>
      obtain ⟨_, deletes, rfl⟩ := exists_of_answered succeeds
      exact alters_deleteScenario deletes
    | updateCondition id key label kind weight =>
      obtain ⟨_, updates, rfl⟩ := exists_of_answered succeeds
      exact alters_updateCondition updates
    | deleteCondition id key =>
      obtain ⟨_, deletes, rfl⟩ := exists_of_answered succeeds
      exact alters_deleteCondition deletes
    | addChoice id key value label weight =>
      obtain ⟨_, adds, rfl⟩ := exists_of_answered succeeds
      exact alters_addChoice adds
    | updateChoice id key index value label weight =>
      obtain ⟨_, updates, rfl⟩ := exists_of_answered succeeds
      exact alters_updateChoice updates
    | deleteChoice id key index =>
      obtain ⟨_, deletes, rfl⟩ := exists_of_answered succeeds
      exact alters_deleteChoice deletes
    | updateOutcome id key threshold message kind =>
      obtain ⟨_, updates, rfl⟩ := exists_of_answered succeeds
      exact alters_updateOutcome updates
    | deleteOutcome id key =>
      obtain ⟨_, deletes, rfl⟩ := exists_of_answered succeeds
      exact alters_deleteOutcome deletes
  refine ⟨alters, ?_⟩
  have step := step_perform edit draft
  rw [succeeds] at step
  cases step with
  | revised => rfl
  | added next addition => cases alters

/-- Taking out the first of three choices moves the two others up. -/
theorem alters_of_perform_firstChoice :
    let choice (value : String) : Choice := ⟨.str value, .str value, 0⟩
    let book (choices : List Choice) : Book := Table.put Table.empty "s"
      ⟨"s", .str "S", Table.put Table.empty "c" ⟨.str "C", .select, 1, choices⟩, Table.empty⟩
    let draft := openOn (book [choice "a", choice "b", choice "c"]) (Clock.ofReadings [])
    let edit : Edit := .deleteChoice (.str "s") (.str "c") (.int 0)
    edit.stem? = none ∧
      edit.perform.outcome draft = (.ok .done, draft.withBook (book [choice "b", choice "c"])) ∧
      edit.Alters draft.book .done (book [choice "b", choice "c"]) := by
  intro choice book draft edit
  have succeeds : edit.perform.outcome draft =
      (.ok .done, draft.withBook (book [choice "b", choice "c"])) := rfl
  exact ⟨rfl, succeeds, (alters_of_perform draft edit .done _ rfl succeeds).1⟩

end Draft

end MarketSignal
