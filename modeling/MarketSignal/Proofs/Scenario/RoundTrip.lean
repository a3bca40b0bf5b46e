/-
This file proves what a book of texts is read back as from the value that it is written as: a book
that was read before as itself, and any other without the numbers that are none and without empty
kinds. What is written satisfies the grammar, so the check on the way back lets it pass; what is
left out when it is empty, the choices of a condition and the kind of an outcome, is read as empty;
and every table comes back in its order, since its names are distinct.
-/
import MarketSignal.Proofs.Document.Refusal
import MarketSignal.Proofs.Scenario.Textual
import MarketSignal.Proofs.Json.Plain

namespace MarketSignal

/-! ### Reading texts, numbers and tables back -/

theorem Json.display_str (text : String) : Json.display (.str text) = .ok text := by
  rw [Json.display, Json.shown?, Json.hasLongNumber, if_neg Bool.false_ne_true, Json.shown,
    String.ofList_toList]
  all_goals
    intro _ same
    cases same

theorem readText_str (text : String) : readText (.str text) = .ok text := Json.display_str text

theorem readWeight_float (weight : Float) :
    readWeight (.float weight) = .ok (weightAsRead weight) := by
  show Except.ok ((if isNotANumber weight then none else some weight).getD 0) = _
  unfold weightAsRead
  split <;> rfl

theorem readNumber?_threshold (threshold : Option Float) :
    readNumber? (thresholdToJson threshold) = .ok (thresholdAsRead threshold) := by
  cases threshold <;> rfl

/-- A table that was written entry by entry is read entry by entry, in its order. -/
theorem readMembers_map {Part Item Read : Type} (write : Part → Item)
    (read : String → Item → Except Fault Read) (change : Part → Read) (table : Table Part)
    (back : ∀ entry ∈ table.entries, read entry.1 (write entry.2) = .ok (change entry.2)) :
    readMembers read (table.map write).entries = .ok (table.map change) := by
  have each := mapM_map_eq_ok (fun entry : String × Part => (entry.1, write entry.2))
    (fun entry => do return (entry.1, ← read entry.1 entry.2))
    (fun entry => (entry.1, change entry.2)) table.entries (by
      intro entry present
      simp only [back entry present]
      rfl)
  rw [readMembers, Table.map]
  dsimp only
  rw [each, ok_bind]
  exact congrArg Except.ok (Table.ofEntries_entries (table.map change))

/-! ### The parts of a scenario -/

theorem Choice.read_toJson (choice : Choice) (textual : choice.Textual) :
    Choice.read choice.toJson = .ok choice.asRead := by
  obtain ⟨answer, label, weight⟩ := choice
  obtain ⟨⟨answer, rfl⟩, ⟨label, rfl⟩⟩ := textual
  show (do
    let answer ← readText (.str answer)
    let label ← readText (.str label)
    let weight ← readWeight (.float weight)
    pure (⟨.str answer, .str label, weight⟩ : Choice)) = _
  rw [readText_str, readText_str, readWeight_float]
  rfl

theorem ConditionKind.read_name (kind : ConditionKind) :
    ConditionKind.read (.str kind.name) = .ok kind := by
  rw [ConditionKind.read]
  simp only [ConditionKind.ofName?_name]
  rfl

theorem Condition.read_toJson (condition : Condition) (textual : condition.Textual) :
    Condition.read condition.toJson = .ok condition.asRead := by
  have choices := mapM_map_eq_ok Choice.toJson Choice.read Choice.asRead condition.choices
    fun choice member => choice.read_toJson (textual.choices choice member)
  obtain ⟨label, kind, weight, items⟩ := condition
  obtain ⟨⟨label, rfl⟩, -⟩ := textual
  cases items with
  | nil =>
    show (do
      let kind ← ConditionKind.read (.str kind.name)
      let label ← readText (.str label)
      let weight ← readWeight (.float weight)
      pure (⟨.str label, kind, weight, []⟩ : Condition)) = _
    rw [ConditionKind.read_name, readText_str, readWeight_float]
    rfl
  | cons first rest =>
    show (do
      let kind ← ConditionKind.read (.str kind.name)
      let label ← readText (.str label)
      let weight ← readWeight (.float weight)
      let choices ← ((first :: rest).map Choice.toJson).mapM Choice.read
      pure (⟨.str label, kind, weight, choices⟩ : Condition)) = _
    rw [ConditionKind.read_name, readText_str, readWeight_float, choices]
    rfl

theorem Outcome.read_toJson (outcome : Outcome) (textual : outcome.Textual) :
    Outcome.read outcome.toJson = .ok outcome.asRead := by
  obtain ⟨threshold, message, kind⟩ := outcome
  obtain ⟨⟨message, rfl⟩, isText⟩ := textual
  dsimp only at isText
  rw [Outcome.toJson, Outcome.asRead]
  dsimp only
  split
  case isTrue truthy =>
    rcases isText with rfl | ⟨text, rfl⟩
    · cases truthy
    · show (do
        let threshold ← readNumber? (thresholdToJson threshold)
        let message ← readText (.str message)
        if (Json.str text).truthy then do
          let kind ← Json.display (.str text)
          pure (⟨threshold, .str message, .str kind⟩ : Outcome)
        else pure ⟨threshold, .str message, .null⟩) = _
      rw [readNumber?_threshold threshold, readText_str, ok_bind, ok_bind, if_pos truthy,
        Json.display_str]
      rfl
  case isFalse =>
    show (do
      let threshold ← readNumber? (thresholdToJson threshold)
      let message ← readText (.str message)
      pure (⟨threshold, .str message, .null⟩ : Outcome)) = _
    rw [readNumber?_threshold threshold, readText_str]
    rfl

/-! ### Scenarios and books -/

/-- Members that are there, or are empty, are taken as they are. -/
theorem optionalMembers_obj (members : List (String × Json)) :
    optionalMembers (.obj members) = .ok members := by
  cases members <;> rfl

theorem Scenario.read_toJson (scenario : Scenario) (textual : scenario.Textual) :
    Scenario.read scenario.id scenario.toJson = .ok scenario.asRead := by
  obtain ⟨id, name, conditions, outcomes⟩ := scenario
  obtain ⟨⟨name, rfl⟩, ofConditions, ofOutcomes⟩ := textual
  show (do
    let conditions ←
      readMembers _ (← optionalMembers (.obj (conditions.map Condition.toJson).entries))
    let outcomes ← readMembers _ (← optionalMembers (.obj (outcomes.map Outcome.toJson).entries))
    let name ← readText (.str name)
    pure (⟨id, .str name, conditions, outcomes⟩ : Scenario)) = _
  rw [optionalMembers_obj, ok_bind,
    readMembers_map Condition.toJson _ Condition.asRead conditions, ok_bind, optionalMembers_obj,
    ok_bind, readMembers_map Outcome.toJson _ Outcome.asRead outcomes, ok_bind, readText_str]
  · rfl
  · exact fun entry present => entry.2.read_toJson (ofOutcomes entry present)
  · intro entry present
    simp only [entry.2.read_toJson (ofConditions entry present)]

theorem Book.read_toJson (book : Book) (textual : Book.Textual book) :
    readMembers Scenario.read (Table.map Scenario.toJson book).entries = .ok (Book.asRead book) :=
  readMembers_map Scenario.toJson Scenario.read Scenario.asRead book fun entry present => by
    obtain ⟨ofTexts, sameId⟩ := textual entry present
    rw [← sameId]
    exact entry.2.read_toJson ofTexts

/-! ### The grammar lets pass what is written -/

theorem choiceFlaws_toJson (place : Place) (choice : Choice) (textual : choice.Textual) :
    choiceFlaws place choice.toJson = [] := by
  obtain ⟨answer, label, weight⟩ := choice
  obtain ⟨⟨answer, rfl⟩, ⟨label, rfl⟩⟩ := textual
  rfl

theorem eachItemFlaws_map {Part : Type} (flaws : Place → Json → List Flaw) (write : Part → Json)
    (place : Place) (parts : List Part)
    (none : ∀ place, ∀ part ∈ parts, flaws place (write part) = []) :
    eachItemFlaws flaws place (.arr (parts.map write)) = [] := by
  rw [eachItemFlaws, List.flatMap_eq_nil_iff]
  intro entry present
  obtain ⟨part, member, same⟩ := List.mem_map.mp (List.fst_mem_of_mem_zipIdx present)
  rw [← same]
  exact none _ part member

theorem eachMemberFlaws_map {Part : Type} (flaws : Place → Json → List Flaw) (write : Part → Json)
    (place : Place) (table : Table Part)
    (none : ∀ place, ∀ entry ∈ table.entries, flaws place (write entry.2) = []) :
    eachMemberFlaws flaws place (.obj (table.map write).entries) = [] := by
  rw [eachMemberFlaws, List.flatMap_eq_nil_iff]
  intro member present
  obtain ⟨entry, isEntry, same⟩ := List.mem_map.mp present
  rw [← same]
  exact none _ entry isEntry

theorem conditionFlaws_toJson (place : Place) (condition : Condition)
    (textual : condition.Textual) : conditionFlaws place condition.toJson = [] := by
  obtain ⟨label, kind, weight, items⟩ := condition
  obtain ⟨⟨label, rfl⟩, ofChoices⟩ := textual
  cases items with
  | nil => cases kind <;> rfl
  | cons first rest =>
    have choices (place : Place) : eachItemFlaws choiceFlaws place
        (.arr ((first :: rest).map Choice.toJson)) = [] :=
      eachItemFlaws_map choiceFlaws Choice.toJson place _ fun place choice member =>
        choiceFlaws_toJson place choice (ofChoices choice member)
    cases kind <;> exact choices _

theorem outcomeFlaws_toJson (place : Place) (outcome : Outcome) (textual : outcome.Textual) :
    outcomeFlaws place outcome.toJson = [] := by
  obtain ⟨threshold, message, kind⟩ := outcome
  obtain ⟨⟨message, rfl⟩, rfl | ⟨text, rfl⟩⟩ := textual
  · cases threshold <;> rfl
  · rw [Outcome.toJson]
    dsimp only
    split
    · cases threshold <;> rfl
    · cases threshold <;> rfl

theorem scenarioFlaws_toJson (place : Place) (scenario : Scenario) (textual : scenario.Textual) :
    scenarioFlaws place scenario.toJson = [] := by
  obtain ⟨id, name, conditions, outcomes⟩ := scenario
  obtain ⟨⟨name, rfl⟩, textualConditions, textualOutcomes⟩ := textual
  have ofConditions (place : Place) : partsFlaws conditionFlaws place
      (.obj (conditions.map Condition.toJson).entries) = [] :=
    eachMemberFlaws_map conditionFlaws Condition.toJson place conditions fun place entry present =>
      conditionFlaws_toJson place entry.2 (textualConditions entry present)
  have ofOutcomes (place : Place) : partsFlaws outcomeFlaws place
      (.obj (outcomes.map Outcome.toJson).entries) = [] :=
    eachMemberFlaws_map outcomeFlaws Outcome.toJson place outcomes fun place entry present =>
      outcomeFlaws_toJson place entry.2 (textualOutcomes entry present)
  show [] ++ [] ++ partsFlaws conditionFlaws _ _ ++ partsFlaws outcomeFlaws _ _ = []
  rw [ofConditions, ofOutcomes]
  rfl

theorem scenariosFlaws_toJson (place : Place) (book : Book) (textual : Book.Textual book) :
    scenariosFlaws place (Book.toJson book) = [] :=
  eachMemberFlaws_map scenarioFlaws Scenario.toJson place book fun place entry present =>
    scenarioFlaws_toJson place entry.2 (textual entry present).1

/-- What a store keeps of a book is read as the book is read back. -/
theorem Book.ofDocument_documentOf (book : Book) (textual : Book.Textual book) :
    Book.ofDocument (documentOf (Book.toJson book)) = .ok (Book.asRead book) := by
  have flawless : documentFlaws (documentOf (Book.toJson book)) = [] := by
    show [] ++ [] ++ [] ++ scenariosFlaws _ _ = []
    rw [scenariosFlaws_toJson _ book textual]
    rfl
  rw [Book.ofDocument, checkDocument_flawless _ _ flawless, ok_bind]
  exact Book.read_toJson book textual

/-- A book that was read before is read as itself. -/
theorem Book.ofDocument_documentOf_typed (book : Book) (typed : Book.Typed book) :
    Book.ofDocument (documentOf (Book.toJson book)) = .ok book := by
  rw [Book.ofDocument_documentOf book typed.textual, Book.asRead_eq book typed]

/-- A backup is read as the book is read back. -/
theorem Book.ofDocument_backup (book : Book) (textual : Book.Textual book) :
    Book.ofDocument (Book.backup book) = .ok (Book.asRead book) := by
  have flawless : documentFlaws (Book.backup book) = [] := by
    show [] ++ [] ++ [] ++ scenariosFlaws _ _ = []
    rw [scenariosFlaws_toJson _ book textual]
    rfl
  rw [Book.ofDocument, checkDocument_flawless _ _ flawless, ok_bind]
  exact Book.read_toJson book textual

/-! ### What is written is faithful -/

theorem Json.IsText.faithful {value : Json} (isText : value.IsText) : value.Faithful := by
  obtain ⟨text, rfl⟩ := isText
  exact Json.faithful_str text

theorem Choice.faithful_toJson (choice : Choice) (textual : choice.Textual) :
    choice.toJson.Faithful := by
  refine Json.faithful_obj _ (show ["value", "label", "weight"].Nodup by decide) ?_
  simp only [List.forall_mem_cons]
  exact ⟨textual.value.faithful, textual.label.faithful, Json.faithful_float _,
    fun member present => absurd present List.not_mem_nil⟩

theorem Condition.faithful_toJson (condition : Condition) (textual : condition.Textual) :
    condition.toJson.Faithful := by
  have choices : (Json.arr (condition.choices.map Choice.toJson)).Faithful := by
    refine Json.faithful_arr _ (List.forall_mem_map.mpr fun choice member => ?_)
    exact choice.faithful_toJson (textual.choices choice member)
  have nothing (member : String × Json) (present : member ∈ []) : member.2.Faithful :=
    absurd present List.not_mem_nil
  unfold Condition.toJson
  dsimp only
  split
  · refine Json.faithful_obj _ (show ["label", "type", "weight"].Nodup by decide) ?_
    simp only [List.forall_mem_cons]
    exact ⟨textual.label.faithful, Json.faithful_str _, Json.faithful_float _, nothing⟩
  · refine Json.faithful_obj _ (show ["label", "type", "weight", "options"].Nodup by decide) ?_
    simp only [List.cons_append, List.nil_append, List.forall_mem_cons]
    exact ⟨textual.label.faithful, Json.faithful_str _, Json.faithful_float _, choices, nothing⟩

theorem thresholdToJson_faithful (threshold : Option Float) :
    (thresholdToJson threshold).Faithful := by
  cases threshold with
  | none => exact Json.faithful_null
  | some number => exact Json.faithful_float number

theorem Outcome.faithful_toJson (outcome : Outcome) (textual : outcome.Textual) :
    outcome.toJson.Faithful := by
  have kind : outcome.kind.Faithful := by
    rcases textual.kind with missing | isText
    · rw [missing]
      exact Json.faithful_null
    · exact isText.faithful
  have nothing (member : String × Json) (present : member ∈ []) : member.2.Faithful :=
    absurd present List.not_mem_nil
  unfold Outcome.toJson
  dsimp only
  split
  · refine Json.faithful_obj _ (show ["threshold", "message", "type"].Nodup by decide) ?_
    simp only [List.cons_append, List.nil_append, List.forall_mem_cons]
    exact ⟨thresholdToJson_faithful _, textual.message.faithful, kind, nothing⟩
  · refine Json.faithful_obj _ (show ["threshold", "message"].Nodup by decide) ?_
    simp only [List.forall_mem_cons]
    exact ⟨thresholdToJson_faithful _, textual.message.faithful, nothing⟩

theorem Scenario.faithful_toJson (scenario : Scenario) (textual : scenario.Textual) :
    scenario.toJson.Faithful := by
  refine Json.faithful_obj _ (show ["name", "conditions", "outputs"].Nodup by decide) ?_
  simp only [List.forall_mem_cons]
  refine ⟨textual.name.faithful, ?_, ?_, fun member present => absurd present List.not_mem_nil⟩
  · exact Json.faithful_map Condition.toJson _ fun entry present =>
      entry.2.faithful_toJson (textual.conditions entry present)
  · exact Json.faithful_map Outcome.toJson _ fun entry present =>
      entry.2.faithful_toJson (textual.outcomes entry present)

theorem Book.faithful_toJson (book : Book) (textual : Book.Textual book) :
    (Book.toJson book).Faithful :=
  Json.faithful_map Scenario.toJson book fun entry present =>
    entry.2.faithful_toJson (textual entry present).1

theorem Book.faithful_documentOf (book : Book) (textual : Book.Textual book) :
    (documentOf (Book.toJson book)).Faithful :=
  Json.faithful_obj _ (show ["scenarios"].Nodup by decide)
    (List.forall_mem_singleton.mpr (Book.faithful_toJson book textual))

theorem Book.faithful_backup (book : Book) (textual : Book.Textual book) :
    (Book.backup book).Faithful := by
  refine Json.faithful_obj _ (show ["version", "scenarios"].Nodup by decide) ?_
  simp only [List.forall_mem_cons]
  exact ⟨Json.faithful_str _, Book.faithful_toJson book textual,
    fun member present => absurd present List.not_mem_nil⟩

/-! ### The text of a backup -/

theorem Book.backupText_eq (book : Book) (textual : Book.Textual book) :
    Book.backupText book = .ok (Book.backup book).page := by
  rw [Book.backupText, Json.writePage, (Book.faithful_backup book textual).short,
    if_neg Bool.false_ne_true]

/-- A backup is written and restored as the book is read back. -/
theorem Book.restore_backupText (book : Book) (textual : Book.Textual book) :
    (Book.backupText book >>= Book.restore) = .ok (Book.asRead book) := by
  have faithful := Book.faithful_backup book textual
  rw [Book.backupText_eq book textual, ok_bind, Book.restore, Json.read_page _ faithful]
  show (do
    checkVersion (Book.backup book)
    Book.ofDocument (Book.backup book)) = _
  rw [show checkVersion (Book.backup book) = .ok () from rfl, ok_bind,
    Book.ofDocument_backup book textual]

end MarketSignal
