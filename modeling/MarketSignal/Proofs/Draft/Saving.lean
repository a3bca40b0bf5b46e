/-
This file proves what is loaded after a draft was saved. An author may give any number as a weight
or threshold and any text as a kind, and a draft keeps them as they are given; a book that is read
has no number that is none and no empty kind. The invariant is therefore not that the book of a
draft is one as it is read, but only that its texts are texts. Every edit preserves it, and so does
filling a draft from a library, so it holds after every history. A book of texts is loaded as it is
read back, and that is the book of the draft exactly if nothing in it is altered by reading.
-/
import MarketSignal.Proofs.Draft.Freshness
import MarketSignal.Proofs.Storage.Loading

namespace MarketSignal

/-! ### Changed tables of texts -/

/-- A scenario that is found in a book of texts. -/
theorem Book.Textual.found {book : Book} (textual : Book.Textual book) {id : String}
    {scenario : Scenario} (isFound : Table.get? book id = some scenario) :
    scenario.Textual ∧ scenario.id = id :=
  textual (id, scenario) ((Table.mem_entries book id scenario).mpr isFound)

theorem Scenario.Textual.putCondition {scenario : Scenario} (textual : scenario.Textual)
    (key : String) {condition : Condition} (added : condition.Textual) :
    { scenario with conditions := scenario.conditions.put key condition }.Textual :=
  ⟨textual.name, Table.forall_put textual.conditions added, textual.outcomes⟩

theorem Scenario.Textual.eraseCondition {scenario : Scenario} (textual : scenario.Textual)
    (key : String) : { scenario with conditions := scenario.conditions.erase key }.Textual :=
  ⟨textual.name, Table.forall_erase textual.conditions key, textual.outcomes⟩

theorem Scenario.Textual.putOutcome {scenario : Scenario} (textual : scenario.Textual)
    (key : String) {outcome : Outcome} (added : outcome.Textual) :
    { scenario with outcomes := scenario.outcomes.put key outcome }.Textual :=
  ⟨textual.name, textual.conditions, Table.forall_put textual.outcomes added⟩

theorem Scenario.Textual.eraseOutcome {scenario : Scenario} (textual : scenario.Textual)
    (key : String) : { scenario with outcomes := scenario.outcomes.erase key }.Textual :=
  ⟨textual.name, textual.conditions, Table.forall_erase textual.outcomes key⟩

namespace Draft

/-- The book of the draft is one of texts. -/
def Textual (draft : Draft) : Prop := Book.Textual draft.book

/-! ### Found entries of a book of texts -/

/-- A spot whose scenario is one of texts, under its identity, and whose part is one of texts. -/
structure Spot.Textual {Part : Type} (spot : Spot Part) (ofTexts : Part → Prop) : Prop where
  scenario : spot.scenario.Textual
  same : spot.scenario.id = spot.id
  part : ofTexts spot.part

theorem textual_scenarioAt {book : Book} {id : Json} {found : String × Scenario}
    (textual : Book.Textual book) (isFound : scenarioAt book id = .ok found) :
    found.2.Textual ∧ found.2.id = found.1 :=
  textual.found (lies_scenarioAt isFound)

theorem textual_conditionAt {book : Book} {id key : Json} {spot : Spot Condition}
    (textual : Book.Textual book) (isFound : conditionAt book id key = .ok spot) :
    spot.Textual Condition.Textual := by
  have lies := lies_conditionAt isFound
  obtain ⟨scenario, same⟩ := textual.found lies.scenario
  exact ⟨scenario, same, scenario.conditions _ ((Table.mem_entries _ _ _).mpr lies.part)⟩

theorem textual_outcomeAt {book : Book} {id key : Json} {spot : Spot Outcome}
    (textual : Book.Textual book) (isFound : outcomeAt book id key = .ok spot) :
    spot.Textual Outcome.Textual := by
  have lies := lies_outcomeAt isFound
  obtain ⟨scenario, same⟩ := textual.found lies.scenario
  exact ⟨scenario, same, scenario.outcomes _ ((Table.mem_entries _ _ _).mpr lies.part)⟩

theorem textual_choiceAt {book : Book} {id key index : Json}
    {found : Spot Condition × Nat × Choice} (textual : Book.Textual book)
    (isFound : choiceAt book id key index = .ok found) :
    found.1.Textual Condition.Textual ∧ found.2.2.Textual := by
  obtain ⟨lies, isChoice⟩ := lies_choiceAt isFound
  obtain ⟨scenario, same⟩ := textual.found lies.scenario
  have part := scenario.conditions _ ((Table.mem_entries _ _ _).mpr lies.part)
  exact ⟨⟨scenario, same, part⟩, part.choices _ (List.mem_of_getElem? isChoice)⟩

/-! ### Work on a draft of texts -/

/-- Work that starts from what it finds in the book. -/
theorem keeps_find {Found Result : Type} {find : Book → Except Fault Found}
    {next : Found → Run Draft Result} {facts : Found → Prop}
    (finds : ∀ {book found}, Book.Textual book → find book = .ok found → facts found)
    (rest : ∀ found, facts found → (next found).Keeps Textual) :
    (currentBook >>= fun book => Run.ofExcept (find book) >>= next).Keeps Textual := by
  intro draft textual
  show Textual ((Run.ofExcept (find draft.book) >>= next).outcome draft).2
  rw [Run.outcome_bind, Run.outcome_ofExcept]
  cases isFound : find draft.book with
  | error fault => exact textual
  | ok found => exact rest found (finds textual isFound) draft textual

/-- Work that reads a value which the author gave. -/
theorem keeps_given {Value Result : Type} {given : Except Fault Value}
    {next : Value → Run Draft Result} (rest : ∀ value, (next value).Keeps Textual) :
    (Run.ofExcept given >>= next).Keeps Textual :=
  Run.keeps_bind (Run.keeps_ofExcept given) rest

theorem keeps_issueKey (stem : String) : (issueKey stem).Keeps Textual := by
  intro draft textual
  obtain ⟨fault, refused⟩ | ⟨key, -, issues⟩ := outcome_issueKey stem draft
  · rw [refused]
    exact textual
  · rw [issues]
    exact textual

/-- What work answers is no matter. -/
theorem keeps_answer {Result Answer : Type} {work : Run Draft Result} (keeps : work.Keeps Textual)
    (answer : Result → Answer) : (work >>= fun result => pure (answer result)).Keeps Textual :=
  Run.keeps_bind keeps fun _ => Run.keeps_pure _

/-- A scenario of texts may be put under its identity. -/
theorem keeps_putScenario {id : String} {scenario : Scenario} (textual : scenario.Textual)
    (same : scenario.id = id) : (putScenario id scenario).Keeps Textual :=
  fun _ all => Table.forall_put all ⟨textual, same⟩

/-- A text that stays unless the author gives another is a text. -/
theorem isText_valueOr {current value : Json} (isText : current.IsText)
    (given : value.IsTextOrNull) : (valueOr current value).IsText := by
  rcases given with missing | ⟨text, isGiven⟩
  · rw [missing]
    exact isText
  · rw [isGiven]
    exact ⟨text, rfl⟩

/-! ### Edits -/

theorem keeps_addScenario {name : Json} (given : name.IsText) :
    (addScenario name).Keeps Textual := by
  refine Run.keeps_bind (keeps_issueKey _) fun key => ?_
  have textual : (Scenario.mk key name Table.empty Table.empty).Textual :=
    ⟨given, List.forall_mem_nil _, List.forall_mem_nil _⟩
  exact keeps_answer (keeps_putScenario textual rfl) _

theorem keeps_renameScenario (id : Json) {name : Json} (given : name.IsText) :
    (renameScenario id name).Keeps Textual :=
  keeps_find textual_scenarioAt fun _ found =>
    keeps_putScenario ⟨given, found.1.conditions, found.1.outcomes⟩ found.2

theorem keeps_deleteScenario (id : Json) : (deleteScenario id).Keeps Textual :=
  keeps_find textual_scenarioAt fun found _ _ textual => Table.forall_erase textual found.1

theorem keeps_addCondition (id : Json) : (addCondition id).Keeps Textual :=
  keeps_find textual_scenarioAt fun _ found => Run.keeps_bind (keeps_issueKey _) fun key =>
    keeps_answer (keeps_putScenario
      (found.1.putCondition key ⟨⟨_, rfl⟩, List.forall_mem_nil _⟩) found.2) _

theorem keeps_updateCondition (id key kind weight : Json) {label : Json}
    (given : label.IsTextOrNull) : (updateCondition id key label kind weight).Keeps Textual := by
  refine keeps_find textual_conditionAt fun spot textual => keeps_given fun kind =>
    keeps_given fun weight => ?_
  refine keeps_answer (keeps_putScenario (textual.scenario.putCondition spot.key
    ⟨isText_valueOr textual.part.label given, ?_⟩) textual.same) _
  dsimp only
  split
  · exact List.forall_mem_singleton.mpr ⟨⟨_, rfl⟩, ⟨_, rfl⟩⟩
  · exact textual.part.choices

theorem keeps_deleteCondition (id key : Json) : (deleteCondition id key).Keeps Textual :=
  keeps_find textual_conditionAt fun spot textual =>
    keeps_putScenario (textual.scenario.eraseCondition spot.key) textual.same

/-- A scenario stays one of texts when a condition gets other choices of texts. -/
theorem textual_putChoices {spot : Spot Condition} (textual : spot.Textual Condition.Textual)
    {choices : List Choice} (ofTexts : ∀ choice ∈ choices, choice.Textual) :
    { spot.scenario with
      conditions := spot.scenario.conditions.put spot.key
        { spot.part with choices := choices } }.Textual :=
  textual.scenario.putCondition spot.key ⟨textual.part.label, ofTexts⟩

theorem keeps_addChoice (id key weight : Json) {value label : Json} (isValue : value.IsText)
    (isLabel : label.IsText) : (addChoice id key value label weight).Keeps Textual := by
  refine keeps_find textual_conditionAt fun spot textual => keeps_given fun weight => ?_
  refine keeps_answer (keeps_putScenario (textual_putChoices textual ?_) textual.same) _
  exact List.forall_mem_append.mpr
    ⟨textual.part.choices, List.forall_mem_singleton.mpr ⟨isValue, isLabel⟩⟩

theorem keeps_updateChoice (id key index weight : Json) {value label : Json}
    (isValue : value.IsTextOrNull) (isLabel : label.IsTextOrNull) :
    (updateChoice id key index value label weight).Keeps Textual := by
  refine keeps_find textual_choiceAt fun found textual => keeps_given fun weight => ?_
  obtain ⟨ofSpot, ofChoice⟩ := textual
  refine keeps_answer (keeps_putScenario (textual_putChoices ofSpot fun choice member => ?_)
    ofSpot.same) _
  rcases List.mem_or_eq_of_mem_set member with before | rfl
  · exact ofSpot.part.choices choice before
  · exact ⟨isText_valueOr ofChoice.value isValue, isText_valueOr ofChoice.label isLabel⟩

theorem keeps_deleteChoice (id key index : Json) : (deleteChoice id key index).Keeps Textual :=
  keeps_find textual_choiceAt fun _ textual =>
    keeps_putScenario (textual_putChoices textual.1 fun choice member =>
      textual.1.part.choices choice (List.mem_of_mem_eraseIdx member)) textual.1.same

theorem keeps_addOutcome (id threshold : Json) {message kind : Json} (isMessage : message.IsText)
    (isKind : kind.IsTextOrNull) : (addOutcome id threshold message kind).Keeps Textual :=
  keeps_find textual_scenarioAt fun _ found => Run.keeps_bind (keeps_issueKey _) fun key =>
    keeps_given fun _ =>
      keeps_answer (keeps_putScenario (found.1.putOutcome key ⟨isMessage, isKind⟩) found.2) _

theorem keeps_updateOutcome (id key threshold : Json) {message : Json} {kind : Option Json}
    (isMessage : message.IsTextOrNull) (isKind : ∀ given, kind = some given → given.IsTextOrNull) :
    (updateOutcome id key threshold message kind).Keeps Textual := by
  refine keeps_find textual_outcomeAt fun spot textual => ?_
  have ofMessage := isText_valueOr textual.part.message isMessage
  have ofKind : (kind.getD spot.part.kind).IsTextOrNull := by
    cases kind with
    | none => exact textual.part.kind
    | some given => exact isKind given rfl
  -- A threshold that is left out stays as it is; one that is given is read before anything is put.
  split
  · rw [pure_bind]
    exact keeps_answer (keeps_putScenario
      (textual.scenario.putOutcome spot.key ⟨ofMessage, ofKind⟩) textual.same) _
  · rw [← bind_pure_comp, bind_assoc]
    refine keeps_given fun number => ?_
    rw [pure_bind]
    exact keeps_answer (keeps_putScenario
      (textual.scenario.putOutcome spot.key ⟨ofMessage, ofKind⟩) textual.same) _

theorem keeps_deleteOutcome (id key : Json) : (deleteOutcome id key).Keeps Textual :=
  keeps_find textual_outcomeAt fun spot textual =>
    keeps_putScenario (textual.scenario.eraseOutcome spot.key) textual.same

end Draft

/-- The texts that an edit is given are texts, and where it changes an entry they may be left out.
A kind may be left out always. -/
def Edit.Annotated (edit : Edit) : Prop :=
  match edit with
  | .addScenario name => name.IsText
  | .renameScenario _ name => name.IsText
  | .updateCondition _ _ label _ _ => label.IsTextOrNull
  | .addChoice _ _ value label _ => value.IsText ∧ label.IsText
  | .updateChoice _ _ _ value label _ => value.IsTextOrNull ∧ label.IsTextOrNull
  | .addOutcome _ _ message kind => message.IsText ∧ kind.IsTextOrNull
  | .updateOutcome _ _ _ message kind =>
    message.IsTextOrNull ∧ ∀ given, kind = some given → given.IsTextOrNull
  | .deleteScenario _ | .addCondition _ | .deleteCondition _ _ | .deleteChoice _ _ _
  | .deleteOutcome _ _ => True

namespace Draft

/-! ### Histories -/

theorem keeps_perform (edit : Edit) (annotated : edit.Annotated) : edit.perform.Keeps Textual := by
  cases edit with
  | addScenario name =>
    exact keeps_answer (keeps_addScenario annotated) _
  | renameScenario id name =>
    exact keeps_answer (keeps_renameScenario id annotated) _
  | deleteScenario id =>
    exact keeps_answer (keeps_deleteScenario id) _
  | addCondition id =>
    exact keeps_answer (keeps_addCondition id) _
  | updateCondition id key label kind weight =>
    exact keeps_answer (keeps_updateCondition id key kind weight annotated) _
  | deleteCondition id key =>
    exact keeps_answer (keeps_deleteCondition id key) _
  | addChoice id key value label weight =>
    exact keeps_answer (keeps_addChoice id key weight annotated.1 annotated.2) _
  | updateChoice id key index value label weight =>
    exact keeps_answer (keeps_updateChoice id key index weight annotated.1 annotated.2) _
  | deleteChoice id key index =>
    exact keeps_answer (keeps_deleteChoice id key index) _
  | addOutcome id threshold message kind =>
    exact keeps_answer (keeps_addOutcome id threshold annotated.1 annotated.2) _
  | updateOutcome id key threshold message kind =>
    exact keeps_answer (keeps_updateOutcome id key threshold annotated.1 annotated.2) _
  | deleteOutcome id key =>
    exact keeps_answer (keeps_deleteOutcome id key) _

/-- What fills a draft was read. -/
theorem textual_load {draft later : Draft} (textual : draft.Textual) (library : Library)
    {world after : World} {filled : Bool}
    (loads : (draft.load library).outcome world = (.ok (filled, later), after)) :
    later.Textual := by
  unfold Draft.load at loads
  split at loads
  · cases loads
    exact textual
  · obtain ⟨book, between, isBook, rest⟩ := Run.exists_of_bind_eq_ok loads
    cases rest
    exact (Library.typed_of_load library world book (congrArg Prod.fst isBook)).textual

/-- The texts of an edit are given as texts. -/
def Event.Annotated (event : Event) : Prop :=
  match event with
  | .edit given => given.Annotated
  | _ => True

namespace History

theorem textual_after {history : History} (textual : history.draft.Textual) (event : Event)
    (annotated : event.Annotated) : (history.after event).draft.Textual := by
  cases event with
  | edit edit => exact keeps_perform edit annotated history.draft textual
  | load library =>
    rw [after]
    split
    case h_1 draft world loads => exact textual_load textual library loads
    case h_2 draft world loads => exact textual_load textual library loads
    case h_3 => exact textual
  | save library strict => exact textual
  | evaluate id answers => exact textual
  | elsewhere world => exact textual

/-- The texts of a draft are texts as long as only texts are given. -/
theorem textual_run {history : History} (textual : history.draft.Textual) (events : List Event)
    (annotated : ∀ event ∈ events, event.Annotated) : (history.run events).draft.Textual := by
  induction events generalizing history with
  | nil => exact textual
  | cons event rest inductionHypothesis =>
    obtain ⟨first, others⟩ := List.forall_mem_cons.mp annotated
    exact inductionHypothesis (textual_after textual event first) others

end History

/-! ### Saving -/

/-- What saving does once nothing speaks against the book. -/
theorem holds_of_storing {draft : Draft} (textual : draft.Textual) (library : Library)
    (store : RecordStore) (isPrimary : library.primary = some store) (message : String)
    {world after : World} {text : String}
    (saves : (library.save draft.book >>= fun _ => World.note .info message >>= fun _ =>
      Run.ofExcept draft.book.backupText).outcome world = (.ok text, after)) :
    store.Holds bookKey (Book.toJson draft.book) after := by
  obtain ⟨_, stored, isStored, rest⟩ := Run.exists_of_bind_eq_ok saves
  have holds := (Library.holds_of_save library store isPrimary draft.book world).1
    (congrArg Prod.fst isStored) textual
  rw [isStored] at holds
  have keeps : (World.note .info message >>= fun _ =>
      Run.ofExcept draft.book.backupText).Keeps
        (store.Holds bookKey (Book.toJson draft.book)) :=
    Run.keeps_bind ((RecordStore.harmless_note _ _).keeps store _ _) fun _ => Run.keeps_ofExcept _
  have holdsLater := keeps stored holds
  rw [rest] at holdsLater
  exact holdsLater

/-- A save that answers has stored the book. -/
theorem holds_of_save {draft : Draft} (textual : draft.Textual) (library : Library)
    (store : RecordStore) (isPrimary : library.primary = some store) (strict : Bool)
    {world after : World} {text : String}
    (saves : (draft.save library strict).outcome world = (.ok text, after)) :
    store.Holds bookKey (Book.toJson draft.book) after := by
  unfold Draft.save at saves
  dsimp only at saves
  split at saves
  case isFalse => exact holds_of_storing textual library store isPrimary _ saves
  case isTrue =>
    obtain ⟨issues, between, isLinted, rest⟩ := Run.exists_of_bind_eq_ok saves
    split at rest
    case isFalse => exact holds_of_storing textual library store isPrimary _ rest
    case isTrue => cases rest

/-- What is loaded after a save is the book of the draft as it is read back. -/
theorem load_asRead_of_save {draft : Draft} (textual : draft.Textual) (library : Library)
    (store : RecordStore) (isPrimary : library.primary = some store) (strict : Bool)
    (world : World) {after : World} {text : String}
    (saves : (draft.save library strict).outcome world = (.ok text, after)) (record : Json)
    (readable : ((store.read bookKey).outcome after).1 = .ok record) :
    (library.load.outcome after).1 = .ok (Book.asRead draft.book) :=
  library.load_asRead_of_holds store isPrimary draft.book textual after
    (holds_of_save textual library store isPrimary strict saves) record readable

namespace History

/-- A draft starts from nothing, or from a book that was read from a document. -/
def Start (book : Book) : Prop :=
  book = Table.empty ∨ ∃ document, Book.ofDocument document = .ok book

theorem textual_opened {book : Book} (start : Start book) (clock : Clock) (world : World) :
    (opened book clock world).draft.Textual := by
  rcases start with rfl | ⟨document, isRead⟩
  · exact List.forall_mem_nil _
  · exact (Book.typed_of_ofDocument document book isRead).textual

/-- Whatever an author does to a draft, if it is saved and the record can be read, then loading
answers the book of the draft as it is read back, and this is the book of the draft exactly if no
weight or threshold in it is the number that is none and no kind of an outcome is the empty text. -/
theorem load_saved_exactly (book : Book) (start : Start book) (clock : Clock) (world : World)
    (events : List Event) (annotated : ∀ event ∈ events, event.Annotated) (library : Library)
    (store : RecordStore) (isPrimary : library.primary = some store) (strict : Bool)
    (text : String) (after : World) (record : Json)
    (saves : (((opened book clock world).run events).draft.save library strict).outcome
      ((opened book clock world).run events).world = (.ok text, after))
    (readable : ((store.read bookKey).outcome after).1 = .ok record) :
    (library.load.outcome after).1 =
        .ok (Book.asRead ((opened book clock world).run events).draft.book) ∧
      ((library.load.outcome after).1 = .ok ((opened book clock world).run events).draft.book ↔
        ¬ Book.Altered ((opened book clock world).run events).draft.book) := by
  have textual := textual_run (textual_opened start clock world) events annotated
  have loads :=
    load_asRead_of_save textual library store isPrimary strict _ saves record readable
  refine ⟨loads, ?_⟩
  rw [loads, Except.ok.injEq]
  exact Book.asRead_eq_iff _ textual

/-! ### Two drafts saved in memory -/

/-- A document with one scenario and one outcome. -/
def risingDocument : Json :=
  documentOf (.obj [("s", .obj [("name", .str "S"),
    ("outputs", .obj [("o", .obj [("threshold", .int 5), ("message", .str "Up")])])])])

/-- The book of that document. -/
def risingBook : Book := (Book.ofDocument risingDocument).toOption.getD Table.empty

/-- The edit that gives the outcome a kind. -/
def givesKind (kind : Json) : Event :=
  .edit (.updateOutcome (.str "s") (.str "o") .null .null (some kind))

/-- A draft of that book, after its outcome was given a kind. -/
def kindGiven (kind : String) : History :=
  (opened risingBook stoppedClock World.fresh).run [givesKind (.str kind)]

theorem start_risingBook : Start risingBook := Or.inr ⟨risingDocument, rfl⟩

theorem annotated_givesKind (kind : String) :
    ∀ event ∈ [givesKind (.str kind)], event.Annotated := by
  refine List.forall_mem_singleton.mpr ⟨Or.inl rfl, fun given isGiven => ?_⟩
  cases isGiven
  exact Or.inr ⟨kind, rfl⟩

/-- A library that keeps its records in memory. -/
def memoryLibrary : Library := ⟨some .memory, none, none⟩

/-- An outcome with a kind is loaded as it was saved. -/
theorem load_saved_bullish :
    let history := kindGiven "bullish"
    ∃ text after, (history.draft.save memoryLibrary true).outcome history.world =
        (.ok text, after) ∧
      (memoryLibrary.load.outcome after).1 = .ok history.draft.book :=
  ⟨_, _, rfl, (load_saved_exactly risingBook start_risingBook stoppedClock World.fresh _
    (annotated_givesKind "bullish") memoryLibrary .memory rfl true _ _ _ rfl rfl).1⟩

/-- An outcome with an empty kind is not: it is loaded without a kind. -/
theorem load_saved_emptyKind :
    let history := kindGiven ""
    Start risingBook ∧ (∀ event ∈ [givesKind (.str "")], event.Annotated) ∧
      ∃ text after record, (history.draft.save memoryLibrary true).outcome history.world =
          (.ok text, after) ∧
        ((RecordStore.memory.read bookKey).outcome after).1 = .ok record ∧
        (memoryLibrary.load.outcome after).1 ≠ .ok history.draft.book := by
  refine ⟨start_risingBook, annotated_givesKind "", _, _, _, rfl, rfl, fun loads => ?_⟩
  have textual := textual_run (textual_opened start_risingBook stoppedClock World.fresh) _
    (annotated_givesKind "")
  have same : Book.asRead (kindGiven "").draft.book = (kindGiven "").draft.book :=
    Except.ok.inj ((load_asRead_of_save textual memoryLibrary .memory rfl true
      (kindGiven "").world rfl _ rfl).symm.trans loads)
  have altered : Book.Altered (kindGiven "").draft.book :=
    ⟨_, List.mem_cons_self, Or.inr ⟨_, List.mem_cons_self, Or.inr rfl⟩⟩
  exact (Book.asRead_eq_iff _ textual).mp same altered

end History

end Draft

end MarketSignal
