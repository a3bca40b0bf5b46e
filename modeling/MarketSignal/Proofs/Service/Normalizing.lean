/-
This file proves that collecting answers brings them into a normal form, and that an answer survives
being sent. What is collected for a condition is collected again as it is, whatever was given at
first; and an answer that is written as an object is read as the answer that it was. So a caller may
give values, give the values of collected answers again, or send the collected answers themselves:
the engine, and a request to evaluate, make the same signal of each.
-/
import MarketSignal.Proofs.Scenario.RoundTrip
import MarketSignal.Proofs.Service.Evaluating
import MarketSignal.Proofs.Settings.Applying

namespace MarketSignal

/-! ### Collecting again -/

theorem Json.shown_str (text : String) : String.ofList (Json.str text).shown = text :=
  String.ofList_toList

/-- What was collected for a condition is collected as it is. -/
theorem Condition.collected_collected (condition : Condition) (given : Json) :
    condition.collected (condition.collected given) = condition.collected given := by
  unfold Condition.collected
  cases condition.kind with
  | checkbox => rfl
  | text =>
    cases given
    case null => rfl
    all_goals
      dsimp only
      rw [Json.shown_str, Text.trim_trim]
  | radio | select =>
    cases given
    case null => rfl
    all_goals
      dsimp only
      rw [Json.shown_str]

theorem Condition.answerTo_collected (condition : Condition) (given : Json) :
    condition.answerTo (condition.collected given) = condition.answerTo given := by
  rw [answerTo, answerTo, collected_collected]

/-- What is collected is null, a truth value or a text. -/
theorem Condition.faithful_collected (condition : Condition) (given : Json) :
    (condition.collected given).Faithful := by
  unfold Condition.collected
  cases condition.kind with
  | checkbox => exact ⟨trivial, rfl⟩
  | text | radio | select =>
    cases given
    case null => exact Json.faithful_null
    all_goals exact Json.faithful_str _

namespace Scenario

/-- The answers that are collected, one for each condition, in the order of the conditions. -/
def collected (scenario : Scenario) (given : Json) : Table Answer :=
  Table.ofEntries (scenario.answersTo given)

variable (scenario : Scenario) (given : Json)

theorem entries_collected : (scenario.collected given).entries = scenario.answersTo given := by
  refine Entries.settle_of_distinct _ ?_
  have names : Entries.names (scenario.answersTo given) = scenario.conditions.names := by
    simp only [answersTo, Entries.names, List.map_map]
    rfl
  rw [names]
  exact scenario.conditions.distinct

theorem get?_collected {key : String} {condition : Condition}
    (known : scenario.conditions.get? key = some condition) :
    (scenario.collected given).get? key = some (condition.answerTo (given.member key)) := by
  rw [← Table.mem_entries, entries_collected]
  exact List.mem_map.mpr ⟨(key, condition), (scenario.conditions.mem_entries _ _).mpr known, rfl⟩

end Scenario

/-! ### Answers as they are given again -/

namespace Answer

/-- The values of answers, as a caller may give them. -/
def valuesOf (answers : Table Answer) : Json := .obj (answers.map Answer.value).entries

/-- Answers as a caller may send them. -/
def sent (answers : Table Answer) : Json := .obj (answers.map Answer.toJson).entries

/-- An answer whose label is a text and whose weight is a number is read as it was written. -/
theorem read_toJson (answer : Answer) (isText : answer.label.IsText)
    (proper : isNotANumber answer.weight = false) : read answer.toJson = .ok answer := by
  obtain ⟨_, kind, value, weight⟩ := answer
  obtain ⟨label, rfl⟩ := isText
  show (do
    let label ← readText (.str label)
    let kind ← readText (.str kind)
    let weight ← readWeight (.float weight)
    return (⟨.str label, kind, value, weight⟩ : Answer)) = _
  rw [readText_str, ok_bind, readText_str, ok_bind, readWeight_float, weightAsRead_eq weight proper]
  rfl

theorem readAll_sent (answers : Table Answer)
    (readable : ∀ entry ∈ answers.entries,
      entry.2.label.IsText ∧ isNotANumber entry.2.weight = false) :
    readAll (sent answers) = .ok answers := by
  have all := readMembers_map Answer.toJson (fun _ item => read item) id answers
    fun entry present =>
      entry.2.read_toJson (readable entry present).1 (readable entry present).2
  rw [Table.map_eq_self id answers fun _ _ => rfl] at all
  exact all

theorem faithful_valuesOf (answers : Table Answer)
    (faithful : ∀ entry ∈ answers.entries, entry.2.value.Faithful) : (valuesOf answers).Faithful :=
  Json.faithful_map Answer.value answers faithful

theorem faithful_sent (answers : Table Answer)
    (faithful : ∀ entry ∈ answers.entries, entry.2.label.Faithful ∧ entry.2.value.Faithful) :
    (sent answers).Faithful := by
  refine Json.faithful_map Answer.toJson answers fun entry present => ?_
  obtain ⟨label, value⟩ := faithful entry present
  refine Json.faithful_obj _ (show ["label", "type", "value", "weight"].Nodup by decide) ?_
  simp only [List.forall_mem_cons]
  exact ⟨label, Json.faithful_str _, value, Json.faithful_float _, nofun⟩

end Answer

namespace Scenario

variable (scenario : Scenario) (given : Json)

/-- The values of what was collected are collected as they are. -/
theorem collected_valuesOf :
    scenario.collected (Answer.valuesOf (scenario.collected given)) =
      scenario.collected given := by
  refine congrArg Table.ofEntries (List.map_congr_left fun entry present => ?_)
  have known := (scenario.conditions.mem_entries _ _).mp present
  have again : (Answer.valuesOf (scenario.collected given)).member entry.1 =
      entry.2.collected (given.member entry.1) := by
    rw [Answer.valuesOf, Json.member_obj, Table.map, Entries.get?_map]
    show (((scenario.collected given).get? entry.1).map Answer.value).getD .null = _
    rw [scenario.get?_collected given known]
    rfl
  rw [again, Condition.answerTo_collected]

/-- The label of a collected answer is a text, its weight a number, and its value can be sent. -/
theorem readable_collected (typed : scenario.Typed) :
    ∀ entry ∈ (scenario.collected given).entries, entry.2.label.IsText ∧
      isNotANumber entry.2.weight = false ∧ entry.2.value.Faithful := by
  intro entry present
  rw [entries_collected] at present
  obtain ⟨⟨key, condition⟩, known, rfl⟩ := List.mem_map.mp present
  have ofCondition := typed.conditions _ known
  refine ⟨?_, ofCondition.weight, condition.faithful_collected _⟩
  show (if condition.label.truthy then condition.label else .str unknownLabel).IsText
  split
  · exact ofCondition.label
  · exact ⟨unknownLabel, rfl⟩

theorem readAll_collected (typed : scenario.Typed) :
    Answer.readAll (Answer.sent (scenario.collected given)) = .ok (scenario.collected given) :=
  Answer.readAll_sent _ fun entry present =>
    have readable := scenario.readable_collected given typed entry present
    ⟨readable.1, readable.2.1⟩

/-- Collecting the values of what was collected answers it again. -/
theorem collect_valuesOf :
    (scenario.collect (Answer.valuesOf (scenario.collected given))).Yields
      (.ok (scenario.collected given)) := by
  have canShow : scenario.CanShow (Answer.valuesOf (scenario.collected given)) := by
    refine scenario.canShow_of_short (Answer.faithful_valuesOf _ fun entry present => ?_).short
    rw [entries_collected] at present
    obtain ⟨⟨key, condition⟩, -, rfl⟩ := List.mem_map.mp present
    exact condition.faithful_collected _
  have collects : (scenario.collect (Answer.valuesOf (scenario.collected given))).Yields
      (.ok (scenario.collected (Answer.valuesOf (scenario.collected given)))) :=
    (scenario.collect_warns (.members _) canShow).yields
  rw [collected_valuesOf] at collects
  exact collects

end Scenario

/-! ### Requests -/

namespace Service

/-- A body that gives values for the conditions. -/
def givingBody (given : Json) : Json := .obj [("values", given)]

/-- A body that sends answers. -/
def sendingBody (answers : Table Answer) : Json := .obj [("collected", Answer.sent answers)]

section

variable {scenario : Scenario} {signal : Signal} {answers : Table Answer}
  (isSignal : (MarketSignal.evaluate (.scenario scenario) (.answers answers)).Yields (.ok signal))
  (found : signal.reason ≠ some .scenarioNotFound)

include isSignal found

/-- The engine and a request make the same signal of the values that are collected. -/
theorem yields_givingBody {given : Json}
    (collects : (scenario.collect given).Yields (.ok answers)) :
    (scenario.assessBody (givingBody given)).Yields (.ok signal) ∧
      (answersOf (givingBody given) scenario >>= signalled (.scenario scenario)).Yields
        (.ok (.success signal.toJson)) :=
  ⟨.bind collects isSignal,
    .bind (Run.yields_inJournal collects) (signalled_yields isSignal found)⟩

/-- They make it of the answers that are sent, too. -/
theorem yields_sendingBody (areRead : Answer.readAll (Answer.sent answers) = .ok answers) :
    (scenario.assessBody (sendingBody answers)).Yields (.ok signal) ∧
      (answersOf (sendingBody answers) scenario >>= signalled (.scenario scenario)).Yields
        (.ok (.success signal.toJson)) := by
  have same := evaluate_answers scenario (.plain (Answer.sent answers)) answers areRead
  constructor
  · show (MarketSignal.evaluate (.scenario scenario) (.plain (Answer.sent answers))).Yields _
    rw [same]
    exact isSignal
  · show (Run.ofExcept (Answer.readAll (Answer.sent answers)) >>= _).Yields _
    rw [areRead]
    exact .bind (Run.yields_ofExcept _) (signalled_yields isSignal found)

end

/-- For a scenario of a document, what is collected from any values that can be shown is collected
again from its own values, and is read again when it is sent; both survive being written as text.
The engine makes the same signal of the values that were given first, of those that are given again
and of the answers that are sent, and a request is answered with this signal in each case. -/
theorem collecting_normalizes (document : Json) (book : Book)
    (accepted : Book.ofDocument document = .ok book) (id : String) (scenario : Scenario)
    (known : Table.get? book id = some scenario) (given : Json) (isGiven : given.IsGiven)
    (canShow : scenario.CanShow given) :
    ∃ answers, (scenario.collect given).Yields (.ok answers) ∧
      (scenario.collect (Answer.valuesOf answers)).Yields (.ok answers) ∧
      Answer.readAll (Answer.sent answers) = .ok answers ∧
      (∀ body ∈ [givingBody (Answer.valuesOf answers), sendingBody answers],
        Json.read body.line = .ok body) ∧
      ∃ signal,
        (MarketSignal.evaluate (.scenario scenario) (.answers answers)).Yields (.ok signal) ∧
        ∀ body ∈ [givingBody given, givingBody (Answer.valuesOf answers), sendingBody answers],
          (scenario.assessBody body).Yields (.ok signal) ∧
            (answersOf body scenario >>= signalled (.scenario scenario)).Yields
              (.ok (.success signal.toJson)) := by
  have typed := (Book.typed_of_ofDocument document book accepted _
    (Entries.mem_of_get? _ _ _ known)).1
  have collects := (scenario.collect_warns isGiven canShow).yields
  have again := scenario.collect_valuesOf given
  have areRead := scenario.readAll_collected given typed
  have readable := scenario.readable_collected given typed
  obtain ⟨signal, isSignal, found⟩ :=
    exists_evaluated scenario typed.ofTexts (.answers (scenario.collected given)) _ rfl
  refine ⟨scenario.collected given, collects, again, areRead, ?_, signal, isSignal, ?_⟩
  · have body (name : String) {part : Json} (faithful : part.Faithful) :
        Json.read (Json.obj [(name, part)]).line = .ok (.obj [(name, part)]) :=
      Json.read_line _ (Json.faithful_obj _ (List.nodup_singleton _)
        (List.forall_mem_singleton.mpr faithful))
    simp only [List.forall_mem_cons]
    refine ⟨body "values" ?_, body "collected" ?_, nofun⟩
    · exact Answer.faithful_valuesOf _ fun entry present => (readable entry present).2.2
    · exact Answer.faithful_sent _ fun entry present =>
        ⟨(readable entry present).1.faithful, (readable entry present).2.2⟩
  · simp only [List.forall_mem_cons]
    exact ⟨yields_givingBody isSignal found collects, yields_givingBody isSignal found again,
      yields_sendingBody isSignal found areRead, nofun⟩

/-- The document of the scenario with a question of each kind. -/
def fourDocument : Json :=
  documentOf (.obj [("s", fourQuestions.toJson)])

/-- Values that are not what is collected from them. -/
def looseValues : Json :=
  .obj [("a", .int 5), ("c", .str "on"), ("d", .str "  up "), ("e", .str "of no concern")]

theorem canShow_looseValues : fourQuestions.CanShow looseValues :=
  fourQuestions.canShow_of_short (by decide +kernel)

/-- A number becomes the name of a choice, what is not empty becomes a tick, a text loses its
blanks, and a choice that is not given becomes null. -/
theorem collecting_normalizes_fourQuestions :
    ∃ answers, Answer.valuesOf answers =
        .obj [("d", .str "up"), ("c", .bool true), ("b", .null), ("a", .str "5")] ∧
      (fourQuestions.collect looseValues).Yields (.ok answers) ∧
      (fourQuestions.collect (Answer.valuesOf answers)).Yields (.ok answers) ∧
      Answer.readAll (Answer.sent answers) = .ok answers ∧
      ∃ signal, ∀ body ∈ [givingBody looseValues, givingBody (Answer.valuesOf answers),
        sendingBody answers], (fourQuestions.assessBody body).Yields (.ok signal) := by
  have accepted : Book.ofDocument fourDocument = .ok (Table.ofEntries [("s", fourQuestions)]) := rfl
  obtain ⟨answers, collects, again, areRead, -, signal, -, each⟩ :=
    collecting_normalizes fourDocument _ accepted "s" fourQuestions rfl looseValues (.members _)
      canShow_looseValues
  have known : (fourQuestions.collect looseValues).Yields
      (.ok (fourQuestions.collected looseValues)) :=
    (fourQuestions.collect_warns (.members _) canShow_looseValues).yields
  have isCollected := Except.ok.inj ((collects []).symm.trans (known []))
  refine ⟨answers, ?_, collects, again, areRead, signal, fun body member => (each body member).1⟩
  rw [isCollected]
  rfl

end Service

end MarketSignal
