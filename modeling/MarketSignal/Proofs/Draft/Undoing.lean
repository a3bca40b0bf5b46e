/-
This file proves that what an author adds can be taken back: the deletion of the entry that an edit
has just added restores the book, with its entries in their order. A deletion takes out whatever is
under the key, so this rests on the key being new. The invariant of a history without loading is
that every key of the book is reserved; a key that is issued is not, so what is put under it lies
behind everything else and nothing else is taken out with it.
-/
import MarketSignal.Proofs.Draft.Issuing
import MarketSignal.Proofs.Draft.Locality

namespace MarketSignal

/-! ### Putting back -/

theorem Entries.put_put {Value : Type} (entries : List (String × Value)) (name : String)
    (first second : Value) :
    put (put entries name first) name second = put entries name second := by
  induction entries with
  | nil => exact if_pos rfl
  | cons entry rest inductionHypothesis =>
    obtain ⟨other, current⟩ := entry
    rw [put, put]
    split
    case isTrue => exact if_pos rfl
    case isFalse different => rw [put, if_neg different, inductionHypothesis]

namespace Table

variable {Value : Type}

theorem put_put (table : Table Value) (name : String) (first second : Value) :
    (table.put name first).put name second = table.put name second := by
  simp only [put, Entries.put_put]

/-- Putting what is there changes nothing. -/
theorem put_of_found {table : Table Value} {name : String} {value : Value}
    (found : table.get? name = some value) : table.put name value = table := by
  obtain ⟨front, back, between, absent, -⟩ := exists_between found
  have same : Entries.put table.entries name value = table.entries := by
    rw [between, Entries.put_between front back name value value absent]
  simp only [put, same]

/-- What was put in the place of a value is gone once the value is put back. -/
theorem put_back {table : Table Value} {name : String} {value : Value}
    (found : table.get? name = some value) (other : Value) :
    (table.put name other).put name value = table := by
  rw [put_put, put_of_found found]

/-- What was put under a new name is gone once the name is erased. -/
theorem erase_new {table : Table Value} {name : String} (new : name ∉ table.names)
    (value : Value) : (table.put name value).erase name = table := by
  have absent : table.get? name = none :=
    Option.eq_none_iff_forall_ne_some.mpr fun current found =>
      new ((table.mem_names name).mpr ⟨current, found⟩)
  rw [erase_put, erase_of_absent table name absent]

end Table

/-! ### Edits that add -/

namespace Edit

/-- An edit that adds an entry. -/
def Adds : Edit → Prop
  | addScenario _ | addCondition _ | addChoice .. | addOutcome .. => True
  | _ => False

/-- The edit that deletes what another one has added, told from what that one answered. -/
def takingBack? : Edit → EditResult → Option Edit
  | addScenario _, .key id => some (deleteScenario (.str id))
  | addCondition id, .key key => some (deleteCondition id (.str key))
  | addChoice id key _ _ _, .place place => some (deleteChoice id key (.int place))
  | addOutcome id _ _ _, .key key => some (deleteOutcome id (.str key))
  | _, _ => none

/-- The edit adds something to what is there, and a number that it is given is one. -/
def Fits (book : Book) : Edit → Prop
  | addScenario _ => True
  | addCondition id => ∃ found, Draft.scenarioAt book id = .ok found
  | addChoice id key _ _ weight =>
    (∃ spot, Draft.conditionAt book id key = .ok spot) ∧
      ∃ number, Draft.givenNumber weight = .ok number
  | addOutcome id threshold _ _ =>
    (∃ found, Draft.scenarioAt book id = .ok found) ∧
      ∃ number, Draft.givenNumber threshold = .ok number
  | _ => False

end Edit

namespace Draft

/-! ### Finding what was added -/

theorem scenarioAt_of_found {book : Book} {id : String} {scenario : Scenario}
    (found : Table.get? book id = some scenario) :
    scenarioAt book (.str id) = .ok (id, scenario) := by
  rw [scenarioAt, Table.lookUp, found]
  rfl

theorem conditionAt_of_found {book : Book} {spot : Spot Condition}
    (lies : spot.Lies book Scenario.conditions) :
    conditionAt book (.str spot.id) (.str spot.key) = .ok spot := by
  rw [conditionAt, scenarioAt_of_found lies.scenario, ok_bind]
  dsimp only
  rw [Table.lookUp, lies.part]
  rfl

theorem outcomeAt_of_found {book : Book} {spot : Spot Outcome}
    (lies : spot.Lies book Scenario.outcomes) :
    outcomeAt book (.str spot.id) (.str spot.key) = .ok spot := by
  rw [outcomeAt, scenarioAt_of_found lies.scenario, ok_bind]
  dsimp only
  rw [Table.lookUp, lies.part]
  rfl

/-- The place behind all choices but the last is that of the last. -/
theorem choiceAt_last {book : Book} {spot : Spot Condition} {choices : List Choice} {last : Choice}
    (lies : spot.Lies book Scenario.conditions) (ends : spot.part.choices = choices ++ [last]) :
    choiceAt book (.str spot.id) (.str spot.key) (.int choices.length) =
      .ok (spot, choices.length, last) := by
  have within : 0 ≤ (choices.length : Int) ∧ (choices.length : Int) < spot.part.choices.length := by
    rw [ends, List.length_append, List.length_singleton]
    omega
  have isPlace : placeOf? spot.part.choices.length (.int choices.length) =
      .ok (some choices.length) := congrArg Except.ok (if_pos within)
  have isThere : spot.part.choices[choices.length]? = some last := by
    rw [ends, List.getElem?_concat_length]
  rw [choiceAt, conditionAt_of_found lies, ok_bind, isPlace, ok_bind]
  dsimp only [Option.bind_some]
  rw [isThere]
  rfl

/-- Work that finds the entry which it looks for goes on with it. -/
theorem outcome_find {Found Result : Type} {draft : Draft} {find : Book → Except Fault Found}
    {found : Found} (isFound : find draft.book = .ok found) (next : Found → Run Draft Result) :
    (currentBook >>= fun book => Run.ofExcept (find book) >>= next).outcome draft =
      (next found).outcome draft := by
  show (Run.ofExcept (find draft.book) >>= next).outcome draft = _
  rw [Run.outcome_bind, Run.outcome_ofExcept, isFound, Run.continued]

/-! ### Deleting what is found -/

section

variable {draft : Draft}

/-- An edit that answers nothing ends as its work does. -/
theorem performs_done {work : Run Draft Unit} {later : Draft}
    (succeeds : work.outcome draft = (.ok (), later)) :
    (work >>= fun _ => pure EditResult.done).outcome draft = (.ok .done, later) := by
  rw [Run.outcome_bind, succeeds]
  rfl

theorem performs_deleteScenario {id : String} {scenario : Scenario}
    (found : Table.get? draft.book id = some scenario) :
    (Edit.deleteScenario (.str id)).perform.outcome draft =
      (.ok .done, draft.withBook (Table.erase draft.book id)) := by
  refine performs_done ?_
  rw [deleteScenario, outcome_find (scenarioAt_of_found found)]
  rfl

theorem performs_deleteCondition {spot : Spot Condition}
    (lies : spot.Lies draft.book Scenario.conditions) :
    (Edit.deleteCondition (.str spot.id) (.str spot.key)).perform.outcome draft =
      (.ok .done, draft.withBook (Table.put draft.book spot.id
        { spot.scenario with conditions := spot.scenario.conditions.erase spot.key })) := by
  refine performs_done ?_
  rw [deleteCondition, outcome_find (conditionAt_of_found lies)]
  rfl

theorem performs_deleteOutcome {spot : Spot Outcome}
    (lies : spot.Lies draft.book Scenario.outcomes) :
    (Edit.deleteOutcome (.str spot.id) (.str spot.key)).perform.outcome draft =
      (.ok .done, draft.withBook (Table.put draft.book spot.id
        { spot.scenario with outcomes := spot.scenario.outcomes.erase spot.key })) := by
  refine performs_done ?_
  rw [deleteOutcome, outcome_find (outcomeAt_of_found lies)]
  rfl

/-- Deleting the last choice leaves those before it. -/
theorem performs_deleteChoice {spot : Spot Condition} {choices : List Choice} {last : Choice}
    (lies : spot.Lies draft.book Scenario.conditions)
    (ends : spot.part.choices = choices ++ [last]) :
    (Edit.deleteChoice (.str spot.id) (.str spot.key) (.int choices.length)).perform.outcome draft =
      (.ok .done, draft.withBook (Table.put draft.book spot.id
        { spot.scenario with
          conditions := spot.scenario.conditions.put spot.key
            { spot.part with choices := choices } })) := by
  have left : spot.part.choices.eraseIdx choices.length = choices := by
    rw [ends, List.eraseIdx_append_of_length_le le_rfl, Nat.sub_self, List.eraseIdx_zero,
      List.tail_cons, List.append_nil]
  refine performs_done ?_
  rw [deleteChoice, outcome_find (choiceAt_last lies ends)]
  dsimp only
  rw [left]
  rfl

end

/-! ### What an addition leaves -/

section

variable {draft later : Draft} {id : Json} {key : String}

/-- A key that is issued was not reserved. -/
theorem issued_of_issueKey {stem : String}
    (issues : (issueKey stem).outcome draft = (.ok key, later)) :
    later = draft.issued key ∧ key ∉ draft.reserved := by
  obtain ⟨fault, refused⟩ | ⟨other, isNext, succeeds⟩ := outcome_issueKey stem draft
  · rw [refused] at issues
    cases issues
  · rw [succeeds] at issues
    cases issues
    exact ⟨rfl, isNext.fresh⟩

theorem left_of_addScenario {name : Json}
    (adds : (addScenario name).outcome draft = (.ok key, later)) :
    key ∉ draft.reserved ∧ later = (draft.issued key).withBook
      (Table.put draft.book key ⟨key, name, Table.empty, Table.empty⟩) := by
  obtain ⟨other, between, issues, rest⟩ := Run.exists_of_bind_eq_ok adds
  obtain ⟨rfl, fresh⟩ := issued_of_issueKey issues
  have same : other = key := Except.ok.inj (congrArg Prod.fst rest)
  subst same
  exact ⟨fresh, (congrArg Prod.snd rest).symm⟩

theorem left_of_addCondition (adds : (addCondition id).outcome draft = (.ok key, later)) :
    ∃ name scenario, id = .str name ∧ Table.get? draft.book name = some scenario ∧
      key ∉ draft.reserved ∧ later = (draft.issued key).withBook
        (Table.put draft.book name { scenario with
          conditions := scenario.conditions.put key ⟨newConditionLabel, .text, 0, []⟩ }) := by
  obtain ⟨⟨name, scenario⟩, isFound, isAdded⟩ := exists_of_find adds
  obtain ⟨other, between, issues, rest⟩ := Run.exists_of_bind_eq_ok isAdded
  obtain ⟨rfl, fresh⟩ := issued_of_issueKey issues
  have same : other = key := Except.ok.inj (congrArg Prod.fst rest)
  subst same
  exact ⟨name, scenario, eq_str_of_scenarioAt isFound, lies_scenarioAt isFound, fresh,
    (congrArg Prod.snd rest).symm⟩

theorem left_of_addOutcome {threshold message kind : Json}
    (adds : (addOutcome id threshold message kind).outcome draft = (.ok key, later)) :
    ∃ name scenario number, id = .str name ∧ Table.get? draft.book name = some scenario ∧
      key ∉ draft.reserved ∧ later = (draft.issued key).withBook
        (Table.put draft.book name { scenario with
          outcomes := scenario.outcomes.put key ⟨some number, message, kind⟩ }) := by
  obtain ⟨⟨name, scenario⟩, isFound, isAdded⟩ := exists_of_find adds
  obtain ⟨other, between, issues, rest⟩ := Run.exists_of_bind_eq_ok isAdded
  obtain ⟨rfl, fresh⟩ := issued_of_issueKey issues
  obtain ⟨number, -, rest⟩ := Run.exists_of_ofExcept_bind_eq_ok rest
  have same : other = key := Except.ok.inj (congrArg Prod.fst rest)
  subst same
  exact ⟨name, scenario, number, eq_str_of_scenarioAt isFound, lies_scenarioAt isFound, fresh,
    (congrArg Prod.snd rest).symm⟩

theorem left_of_addChoice {part value label weight : Json} {place : Nat}
    (adds : (addChoice id part value label weight).outcome draft = (.ok place, later)) :
    ∃ (spot : Spot Condition) (number : Float), id = .str spot.id ∧ part = .str spot.key ∧
      spot.Lies draft.book Scenario.conditions ∧ place = spot.part.choices.length ∧
      later = draft.withBook (Table.put draft.book spot.id { spot.scenario with
        conditions := spot.scenario.conditions.put spot.key { spot.part with
          choices := spot.part.choices ++ [⟨value, label, number⟩] } }) := by
  obtain ⟨spot, isFound, isAdded⟩ := exists_of_find adds
  obtain ⟨number, -, rest⟩ := Run.exists_of_ofExcept_bind_eq_ok isAdded
  obtain ⟨isScenario, isCondition⟩ := eq_str_of_conditionAt isFound
  exact ⟨spot, number, isScenario, isCondition, lies_conditionAt isFound,
    (Except.ok.inj (congrArg Prod.fst rest)).symm, (congrArg Prod.snd rest).symm⟩

end

/-! ### Taking back -/

section

variable {draft later : Draft} {id : Json} {key : String}
  (reserves : keysOf draft.book ⊆ draft.reserved)

include reserves

theorem takesBack_addScenario {name : Json}
    (adds : (addScenario name).outcome draft = (.ok key, later)) :
    (Edit.deleteScenario (.str key)).perform.outcome later =
      (.ok .done, later.withBook draft.book) := by
  obtain ⟨fresh, rfl⟩ := left_of_addScenario adds
  have new : key ∉ Table.names draft.book :=
    fun member => fresh (reserves ((mem_keysOf_iff _ _).mpr (Or.inl member)))
  rw [performs_deleteScenario (Table.get?_put_self _ _ _)]
  simp only [withBook, Table.erase_new new]

/-- A key that is new to the draft is new to each of its scenarios. -/
theorem new_of_fresh {name : String} {scenario : Scenario}
    (found : Table.get? draft.book name = some scenario) (fresh : key ∉ draft.reserved) :
    key ∉ scenario.conditions.names ∧ key ∉ scenario.outcomes.names := by
  have noPart : ¬ IsPartKey scenario key := fun part =>
    fresh (reserves ((mem_keysOf draft.book key).mpr (Or.inr ⟨name, scenario, found, part⟩)))
  exact ⟨fun member => noPart (Or.inl ((Table.mem_names _ _).mp member)),
    fun member => noPart (Or.inr ((Table.mem_names _ _).mp member))⟩

theorem takesBack_addCondition (adds : (addCondition id).outcome draft = (.ok key, later)) :
    (Edit.deleteCondition id (.str key)).perform.outcome later =
      (.ok .done, later.withBook draft.book) := by
  obtain ⟨name, scenario, rfl, found, fresh, rfl⟩ := left_of_addCondition adds
  have new := (new_of_fresh reserves found fresh).1
  let added : Condition := ⟨newConditionLabel, .text, 0, []⟩
  let grown : Scenario := { scenario with conditions := scenario.conditions.put key added }
  have lies : (⟨name, grown, key, added⟩ : Spot Condition).Lies
      ((draft.issued key).withBook (Table.put draft.book name grown)).book Scenario.conditions :=
    ⟨Table.get?_put_self _ _ _, Table.get?_put_self _ _ _⟩
  refine (performs_deleteCondition lies).trans ?_
  simp only [withBook, issued, grown, Table.erase_new new, Table.put_back found]

theorem takesBack_addOutcome {threshold message kind : Json}
    (adds : (addOutcome id threshold message kind).outcome draft = (.ok key, later)) :
    (Edit.deleteOutcome id (.str key)).perform.outcome later =
      (.ok .done, later.withBook draft.book) := by
  obtain ⟨name, scenario, number, rfl, found, fresh, rfl⟩ := left_of_addOutcome adds
  have new := (new_of_fresh reserves found fresh).2
  let added : Outcome := ⟨some number, message, kind⟩
  let grown : Scenario := { scenario with outcomes := scenario.outcomes.put key added }
  have lies : (⟨name, grown, key, added⟩ : Spot Outcome).Lies
      ((draft.issued key).withBook (Table.put draft.book name grown)).book Scenario.outcomes :=
    ⟨Table.get?_put_self _ _ _, Table.get?_put_self _ _ _⟩
  refine (performs_deleteOutcome lies).trans ?_
  simp only [withBook, issued, grown, Table.erase_new new, Table.put_back found]

omit reserves

/-- A choice has no key but its place, which is the last one. -/
theorem takesBack_addChoice {part value label weight : Json} {place : Nat}
    (adds : (addChoice id part value label weight).outcome draft = (.ok place, later)) :
    (Edit.deleteChoice id part (.int place)).perform.outcome later =
      (.ok .done, later.withBook draft.book) := by
  obtain ⟨spot, number, rfl, rfl, before, rfl, rfl⟩ := left_of_addChoice adds
  let grown : Condition :=
    { spot.part with choices := spot.part.choices ++ [⟨value, label, number⟩] }
  let scenario : Scenario :=
    { spot.scenario with conditions := spot.scenario.conditions.put spot.key grown }
  have lies : (⟨spot.id, scenario, spot.key, grown⟩ : Spot Condition).Lies
      (draft.withBook (Table.put draft.book spot.id scenario)).book Scenario.conditions :=
    ⟨Table.get?_put_self _ _ _, Table.get?_put_self _ _ _⟩
  refine (performs_deleteChoice lies rfl).trans ?_
  simp only [withBook, scenario, grown, Table.put_back before.part, Table.put_back before.scenario]

end

/-- What was added is deleted again, and the book is what it was. -/
theorem takesBack_perform {draft later : Draft} (reserves : keysOf draft.book ⊆ draft.reserved)
    {edit : Edit} (adds : edit.Adds) {result : EditResult}
    (succeeds : edit.perform.outcome draft = (.ok result, later)) :
    ∃ back, edit.takingBack? result = some back ∧
      back.perform.outcome later = (.ok .done, later.withBook draft.book) := by
  cases edit with
  | addScenario name =>
    obtain ⟨key, adds, rfl⟩ := exists_of_answered succeeds
    exact ⟨_, rfl, takesBack_addScenario reserves adds⟩
  | addCondition id =>
    obtain ⟨key, adds, rfl⟩ := exists_of_answered succeeds
    exact ⟨_, rfl, takesBack_addCondition reserves adds⟩
  | addChoice id key value label weight =>
    obtain ⟨place, adds, rfl⟩ := exists_of_answered succeeds
    exact ⟨_, rfl, takesBack_addChoice adds⟩
  | addOutcome id threshold message kind =>
    obtain ⟨key, adds, rfl⟩ := exists_of_answered succeeds
    exact ⟨_, rfl, takesBack_addOutcome reserves adds⟩
  | renameScenario | deleteScenario | updateCondition | deleteCondition | updateChoice
  | deleteChoice | updateOutcome | deleteOutcome => exact adds.elim

/-! ### Additions that succeed -/

/-- What follows a step that succeeds. -/
theorem exists_ok_bind {First Second : Type} {work : Run Draft First}
    {next : First → Run Draft Second} {draft between : Draft} {first : First}
    (succeeds : work.outcome draft = (.ok first, between))
    (rest : ∃ second later, (next first).outcome between = (.ok second, later)) :
    ∃ second later, (work >>= next).outcome draft = (.ok second, later) := by
  rw [Run.outcome_bind, succeeds]
  exact rest

section

variable {draft : Draft} {seconds : Float} {stamp : Int}
  (reads : draft.clock.read.1 = .float seconds)
  (finite : truncated? (seconds * 1000) = some stamp)
  (bounded : draft.reserved.length < 10 ^ 4299)

include reads finite bounded

/-- At a time that is a number a key is issued, unless there is no number left to write. -/
theorem issueKey_succeeds (stem : String) :
    ∃ key, (issueKey stem).outcome draft = (.ok key, draft.issued key) := by
  have isStamp : Clock.milliseconds draft.clock.read.1 = .ok stamp := by
    rw [reads, Clock.milliseconds, finite]
  refine ⟨_, (issueKey_of_time stem draft stamp isStamp).trans (if_neg ?_)⟩
  rw [freeStamp_writable stem finite bounded]
  exact Bool.false_ne_true

/-- An edit that fits adds its entry. -/
theorem exists_added {edit : Edit} (fits : edit.Fits draft.book) :
    ∃ result later, edit.perform.outcome draft = (.ok result, later) := by
  have issues (stem : String) := issueKey_succeeds reads finite bounded stem
  cases edit with
  | addScenario name =>
    obtain ⟨key, isKey⟩ := issues "scenario"
    obtain ⟨_, _, adds⟩ : ∃ key later, (addScenario name).outcome draft = (.ok key, later) :=
      exists_ok_bind isKey ⟨key, _, rfl⟩
    exact exists_ok_bind adds ⟨_, _, rfl⟩
  | addCondition id =>
    obtain ⟨found, isFound⟩ := fits
    obtain ⟨key, isKey⟩ := issues "condition"
    obtain ⟨_, _, adds⟩ : ∃ key later, (addCondition id).outcome draft = (.ok key, later) := by
      rw [addCondition, outcome_find isFound]
      exact exists_ok_bind isKey ⟨key, _, rfl⟩
    exact exists_ok_bind adds ⟨_, _, rfl⟩
  | addChoice id key value label weight =>
    obtain ⟨⟨spot, isFound⟩, number, isNumber⟩ := fits
    obtain ⟨_, _, adds⟩ : ∃ place later,
        (addChoice id key value label weight).outcome draft = (.ok place, later) := by
      rw [addChoice, outcome_find isFound, isNumber]
      exact ⟨_, _, rfl⟩
    exact exists_ok_bind adds ⟨_, _, rfl⟩
  | addOutcome id threshold message kind =>
    obtain ⟨⟨found, isFound⟩, number, isNumber⟩ := fits
    obtain ⟨key, isKey⟩ := issues "output"
    obtain ⟨_, _, adds⟩ : ∃ key later,
        (addOutcome id threshold message kind).outcome draft = (.ok key, later) := by
      rw [addOutcome, outcome_find isFound]
      refine exists_ok_bind isKey ?_
      rw [isNumber]
      exact ⟨key, _, rfl⟩
    exact exists_ok_bind adds ⟨_, _, rfl⟩
  | renameScenario | deleteScenario | updateCondition | deleteCondition | updateChoice
  | deleteChoice | updateOutcome | deleteOutcome => exact fits.elim

end

namespace History

/-! ### Histories without loading -/

/-- Only loading brings in keys that are not reserved. -/
theorem loaded_run {events : List Event} (unloaded : ∀ library, Event.load library ∉ events)
    (history : History) : (history.run events).loaded = history.loaded := by
  induction events generalizing history with
  | nil => rfl
  | cons event rest inductionHypothesis =>
    have same : (history.after event).loaded = history.loaded := by
      cases event with
      | load library => exact absurd List.mem_cons_self (unloaded library)
      | edit | save | evaluate | elsewhere => rfl
    exact (inductionHypothesis
      (fun library member => unloaded library (List.mem_cons_of_mem _ member)) _).trans same

/-- Without loading every key of the book is reserved. -/
theorem reserves_run (book : Book) (clock : Clock) (world : World) {events : List Event}
    (unloaded : ∀ library, Event.load library ∉ events) :
    keysOf ((opened book clock world).run events).draft.book ⊆
      ((opened book clock world).run events).draft.reserved := by
  have covered := covered_run (covered_opened book clock world) events
  have nothing := loaded_run unloaded (opened book clock world)
  intro key member
  refine (covered.held key (covered.current member)).resolve_right fun isLoaded => ?_
  rw [nothing] at isLoaded
  exact List.not_mem_nil isLoaded

/-- Wherever a history without loading has got to, an edit that adds an entry is taken back by
deleting what it has added: the book is what it was, with its entries in their order. At a time that
is a finite number of milliseconds the entry is added if there is something to add it to and what is
given as a number is one, as long as there are numbers left to make keys from. -/
theorem taking_back_restores (book : Book) (clock : Clock) (world : World) (events : List Event)
    (unloaded : ∀ library, Event.load library ∉ events) (edit : Edit) (adds : edit.Adds) :
    let draft := ((opened book clock world).run events).draft
    (∀ result later, edit.perform.outcome draft = (.ok result, later) →
        ∃ back, edit.takingBack? result = some back ∧
          back.perform.outcome later = (.ok .done, later.withBook draft.book)) ∧
      ∀ seconds stamp, draft.clock.read.1 = .float seconds →
        truncated? (seconds * 1000) = some stamp → draft.reserved.length < 10 ^ 4299 →
        edit.Fits draft.book →
          ∃ result later, edit.perform.outcome draft = (.ok result, later) := by
  intro draft
  refine ⟨fun result later succeeds => ?_, fun seconds stamp reads finite bounded fits => ?_⟩
  · exact takesBack_perform (reserves_run book clock world unloaded) adds succeeds
  · exact exists_added reads finite bounded fits

/-- A book with one scenario, whose condition has the key of a time. -/
def trendBook : Book :=
  Table.put Table.empty "s" ⟨"s", .str "S", Table.put Table.empty "condition_1700000000000"
    ⟨.str "Trend", .checkbox, 5, []⟩, Table.empty⟩

/-- At the time that a key is made from, a condition gets the next one, also after the condition
that had the key was deleted. Deleting the new condition does not bring back the old one. -/
theorem taking_back_restores_trend :
    let events : List Event :=
      [.edit (.deleteCondition (.str "s") (.str "condition_1700000000000"))]
    let draft := ((opened trendBook ⟨[], .float 1700000000⟩ World.fresh).run events).draft
    (∃ result later, (Edit.addCondition (.str "s")).perform.outcome draft = (.ok result, later)) ∧
      ∃ later, (Edit.addCondition (.str "s")).perform.outcome draft =
          (.ok (.key "condition_1700000000001"), later) ∧
        (Edit.deleteCondition (.str "s") (.str "condition_1700000000001")).perform.outcome later =
          (.ok .done, later.withBook draft.book) := by
  intro events draft
  have finite : truncated? ((1700000000 : Float) * 1000) = some 1700000000000 := by decide +kernel
  have issues : (issueKey "condition").outcome draft =
      (.ok "condition_1700000000001", draft.issued "condition_1700000000001") := by
    have isKey : keyOf "condition" (freeStamp draft.reserved "condition" 1700000000000) =
        "condition_1700000000001" := by decide +kernel
    have isStamp : Clock.milliseconds draft.clock.read.1 = .ok 1700000000000 := by
      show Clock.milliseconds (.float 1700000000) = _
      rw [Clock.milliseconds, finite]
    rw [issueKey_of_time "condition" draft 1700000000000 isStamp, if_neg (by decide +kernel), isKey]
  have adds : (Edit.addCondition (.str "s")).perform.outcome draft = _ :=
    addCondition_adds rfl issues
  have unloaded : ∀ library, Event.load library ∉ events := by simp [events]
  obtain ⟨restores, succeeds⟩ := taking_back_restores trendBook ⟨[], .float 1700000000⟩ World.fresh
    events unloaded (.addCondition (.str "s")) trivial
  obtain ⟨back, isBack, takesBack⟩ := restores _ _ adds
  cases isBack
  exact ⟨succeeds 1700000000 1700000000000 rfl finite (by decide +kernel) ⟨_, rfl⟩,
    _, adds, takesBack⟩

end History

end Draft

end MarketSignal
