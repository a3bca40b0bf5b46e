/-
This file proves how answers are scored. Each answer to a condition of the scenario has a worth that
depends on the two alone; the contributions are these worths in the order of the keys. The one thing
that can go wrong on the way is a warning that cannot be put into words: that no choice has the
value of an answer, where the value holds a whole number that is too long to write.
-/
import MarketSignal.Proofs.Document.Refusal
import MarketSignal.Proofs.Run
import MarketSignal.Proofs.Scenario.Typed
import MarketSignal.Signal.Score

namespace MarketSignal

/-! ### The worth of an answer -/

/-- Whether a choice is the one that a text names. -/
def Choice.answers (choice : Choice) (text : String) : Bool :=
  match choice.value with
  | .str known => known == text
  | _ => false

/-- The weight of the first choice that a value names; zero if it names none. -/
def Condition.weightOf (condition : Condition) (value : Json) : Float :=
  match value with
  | .str text =>
    ((condition.choices.find? fun choice => choice.answers text).map Choice.weight).getD 0
  | _ => 0

/-- What an answer to a condition is worth. The kind of the answer decides, not that of the
condition. -/
def Condition.worth (condition : Condition) (answer : Answer) : Float :=
  if answer.value.isNull then 0
  else if answer.kind = "radio" ∨ answer.kind = "select" then condition.weightOf answer.value
  else if answer.kind = "checkbox" then if answer.value.truthy then condition.weight else 0
  else if answer.kind = "text" then condition.weight
  else 0

/-- An answer that names a choice by a value with a whole number that is too long to write. -/
def Answer.Unspeakable (answer : Answer) : Prop :=
  (answer.kind = "radio" ∨ answer.kind = "select") ∧ answer.value.hasLongNumber = true

/-! ### Choices -/

theorem Json.same_str (known : String) (value : Json) :
    (Json.str known).same value = true ↔ value = .str known := by
  cases value
  case str text =>
    rw [Json.same, beq_iff_eq]
    exact ⟨fun same => same ▸ rfl, fun same => (Json.str.inj same).symm⟩
  all_goals
    refine ⟨fun same => ?_, nofun⟩
    simp [Json.same, Json.wholeNumber?] at same

/-- A choice is found by its text and by nothing else. -/
theorem Condition.find?_same (condition : Condition)
    (texts : ∀ choice ∈ condition.choices, choice.value.IsText) (value : Json) :
    (condition.choices.find? fun choice => choice.value.same value) =
      match value with
      | .str text => condition.choices.find? fun choice => choice.answers text
      | _ => none := by
  have named (text : String) :
      (condition.choices.find? fun choice => choice.value.same (.str text)) =
        condition.choices.find? fun choice => choice.answers text := by
    refine List.find?_congr fun choice member => ?_
    obtain ⟨known, isKnown⟩ := texts choice member
    rw [Choice.answers, isKnown, Bool.eq_iff_iff, Json.same_str, beq_iff_eq]
    exact ⟨fun same => (Json.str.inj same).symm, fun same => same ▸ rfl⟩
  have unnamed (noText : ∀ text, value ≠ .str text) :
      (condition.choices.find? fun choice => choice.value.same value) = none := by
    refine List.find?_eq_none.mpr fun choice member => ?_
    obtain ⟨known, isKnown⟩ := texts choice member
    rw [isKnown, Json.same_str]
    exact noText known
  cases value
  case str text => exact named text
  all_goals exact unnamed nofun

theorem Condition.choiceWeight_yields (condition : Condition)
    (texts : ∀ choice ∈ condition.choices, choice.value.IsText) (key : String) (value : Json) :
    (value.hasLongNumber = true →
        (condition.choiceWeight key value).Yields (.error .longNumber)) ∧
      (value.hasLongNumber ≠ true →
        (condition.choiceWeight key value).Yields (.ok (condition.weightOf value))) := by
  have spelled := value.spell_failsExactly
  have found := condition.find?_same texts value
  unfold Condition.choiceWeight
  constructor
  · intro long
    have unnamed : (condition.choices.find? fun choice => choice.value.same value) = none := by
      rw [found]
      cases value
      case str text => cases long
      all_goals rfl
    rw [unnamed]
    dsimp only
    rw [spelled.fails long]
    exact Run.Yields.bind_error (Run.yields_ofExcept _) _
  · intro short
    obtain ⟨text, isText⟩ := spelled.succeeds short
    have weight : condition.weightOf value =
        ((condition.choices.find? fun choice => choice.value.same value).map
          Choice.weight).getD 0 := by
      rw [found]
      cases value <;> rfl
    rw [weight]
    cases condition.choices.find? fun choice => choice.value.same value with
    | none =>
      dsimp only
      rw [isText]
      exact .bind (Run.yields_ofExcept _) (.bind (Run.yields_note _ _) (Run.yields_pure 0))
    | some choice => exact Run.yields_pure choice.weight

/-! ### Contributions -/

/-- An answer contributes its worth, unless a warning about it cannot be put into words. -/
theorem Condition.contribution_yields (condition : Condition)
    (texts : ∀ choice ∈ condition.choices, choice.value.IsText) (key : String) (answer : Answer) :
    (answer.Unspeakable → (condition.contribution key answer).Yields (.error .longNumber)) ∧
      (¬ answer.Unspeakable →
        (condition.contribution key answer).Yields (.ok (condition.worth answer))) := by
  obtain ⟨label, name, value, weight⟩ := answer
  obtain ⟨fails, succeeds⟩ := condition.choiceWeight_yields texts key value
  unfold Condition.contribution Condition.worth
  dsimp only
  by_cases missing : value.isNull = true
  · have short : value.hasLongNumber = false := by
      cases value
      case null => rfl
      all_goals cases missing
    rw [if_pos missing, if_pos missing]
    refine ⟨fun unspeakable => absurd (short.symm.trans unspeakable.2) Bool.false_ne_true, ?_⟩
    exact fun _ => .bind (Run.yields_note _ _) (Run.yields_pure 0)
  rw [if_neg missing, if_neg missing]
  cases isKind : ConditionKind.ofName? name with
  | none =>
    have other (kind : ConditionKind) : name ≠ kind.name := by
      rintro rfl
      rw [ConditionKind.ofName?_name] at isKind
      cases isKind
    have noChoice : ¬ (name = "radio" ∨ name = "select") :=
      not_or.mpr ⟨other .radio, other .select⟩
    rw [if_neg noChoice, if_neg (show name ≠ "checkbox" from other .checkbox),
      if_neg (show name ≠ "text" from other .text)]
    refine ⟨fun unspeakable => absurd unspeakable.1 noChoice, fun _ => ?_⟩
    exact .bind (Run.yields_note _ _) (Run.yields_pure 0)
  | some kind =>
    have isName := ConditionKind.name_of_ofName? name kind isKind
    have chosen (chooses : name = "radio" ∨ name = "select") :
        ((name = "radio" ∨ name = "select") ∧ value.hasLongNumber = true →
            (condition.choiceWeight key value).Yields (.error .longNumber)) ∧
          (¬ ((name = "radio" ∨ name = "select") ∧ value.hasLongNumber = true) →
            (condition.choiceWeight key value).Yields (.ok (condition.weightOf value))) :=
      ⟨fun unspeakable => fails unspeakable.2, fun speakable => succeeds fun long =>
        speakable ⟨chooses, long⟩⟩
    cases kind with
    | radio =>
      have chooses : name = "radio" ∨ name = "select" := Or.inl isName
      rw [if_pos chooses]
      exact chosen chooses
    | select =>
      have chooses : name = "radio" ∨ name = "select" := Or.inr isName
      rw [if_pos chooses]
      exact chosen chooses
    | checkbox =>
      replace isName : name = "checkbox" := isName
      have noChoice : ¬ (name = "radio" ∨ name = "select") := by
        rw [isName]
        decide
      rw [if_neg noChoice, if_pos isName]
      exact ⟨fun unspeakable => absurd unspeakable.1 noChoice, fun _ => Run.yields_pure _⟩
    | text =>
      replace isName : name = "text" := isName
      have noChoice : ¬ (name = "radio" ∨ name = "select") := by
        rw [isName]
        decide
      have noBox : name ≠ "checkbox" := by
        rw [isName]
        decide
      rw [if_neg noChoice, if_neg noBox, if_pos isName]
      exact ⟨fun unspeakable => absurd unspeakable.1 noChoice, fun _ => Run.yields_pure _⟩

/-- What answers are worth, one after another. Answers to no condition of the scenario are left
out. -/
def Scenario.worths (scenario : Scenario) (answers : List (String × Answer)) :
    List (String × Float) :=
  answers.filterMap fun entry =>
    (scenario.conditions.get? entry.1).map fun condition => (entry.1, condition.worth entry.2)

/-- An answer to a condition of the scenario that a warning cannot be put into words for. -/
def Scenario.Unspeakable (scenario : Scenario) (entry : String × Answer) : Prop :=
  scenario.conditions.has entry.1 = true ∧ entry.2.Unspeakable

/-- The texts of a scenario that take part in an evaluation are texts. -/
structure Scenario.OfTexts (scenario : Scenario) : Prop where
  values : ∀ entry ∈ scenario.conditions.entries, ∀ choice ∈ entry.2.choices, choice.value.IsText
  messages : ∀ entry ∈ scenario.outcomes.entries, entry.2.message.IsText

theorem Scenario.Typed.ofTexts {scenario : Scenario} (typed : scenario.Typed) :
    scenario.OfTexts where
  values := fun entry present choice member =>
    ((typed.conditions entry present).choices choice member).value
  messages := fun entry present => (typed.outcomes entry present).message

theorem Scenario.contributions_yields (scenario : Scenario) (texts : scenario.OfTexts)
    (answers : List (String × Answer)) :
    ((∃ entry ∈ answers, scenario.Unspeakable entry) →
        (scenario.contributions answers).Yields (.error .longNumber)) ∧
      ((¬ ∃ entry ∈ answers, scenario.Unspeakable entry) →
        (scenario.contributions answers).Yields (.ok (scenario.worths answers))) := by
  induction answers with
  | nil =>
    refine ⟨?_, fun _ => Run.yields_pure []⟩
    rintro ⟨entry, member, -⟩
    exact absurd member List.not_mem_nil
  | cons entry rest inductionHypothesis =>
    obtain ⟨key, answer⟩ := entry
    obtain ⟨fails, succeeds⟩ := inductionHypothesis
    have either : (∃ entry ∈ (key, answer) :: rest, scenario.Unspeakable entry) ↔
        scenario.Unspeakable (key, answer) ∨ ∃ entry ∈ rest, scenario.Unspeakable entry := by
      simp only [List.mem_cons, exists_eq_or_imp]
    rw [either, Scenario.contributions, Scenario.worths, List.filterMap_cons]
    cases isCondition : scenario.conditions.get? key with
    | none =>
      have speakable : ¬ scenario.Unspeakable (key, answer) := by
        rintro ⟨known, -⟩
        rw [Table.has, isCondition] at known
        cases known
      rw [or_iff_right speakable]
      exact ⟨fun unspeakable => .bind (Run.yields_note _ _) (fails unspeakable),
        fun speakable => .bind (Run.yields_note _ _) (succeeds speakable)⟩
    | some condition =>
      have known : scenario.conditions.has key = true := by
        rw [Table.has, isCondition]
        rfl
      obtain ⟨failsHere, succeedsHere⟩ := condition.contribution_yields
        (texts.values _ (Entries.mem_of_get? _ _ _ isCondition)) key answer
      constructor
      · intro unspeakable
        by_cases here : answer.Unspeakable
        · exact (failsHere here).bind_error _
        · refine .bind (succeedsHere here) (.bind_error (fails ?_) _)
          exact unspeakable.resolve_left fun both => here both.2
      · intro speakable
        obtain ⟨here, behind⟩ := not_or.mp speakable
        refine .bind (succeedsHere fun unspeakable => here ⟨known, unspeakable⟩) ?_
        exact .bind (succeeds behind) (Run.yields_pure _)

/-! ### The order of the keys -/

theorem Table.mem_sorted {Value : Type} (table : Table Value) (entry : String × Value) :
    entry ∈ table.sorted ↔ entry ∈ table.entries :=
  (List.mergeSort_perm _ _).mem_iff

/-- Sorting leaves the names in strictly ascending order, since none occurs twice. -/
theorem Table.sorted_ascending {Value : Type} (table : Table Value) :
    (Entries.names table.sorted).Pairwise (· < ·) := by
  have distinct : (Entries.names table.sorted).Nodup :=
    ((List.mergeSort_perm _ _).map Prod.fst).nodup_iff.mpr table.distinct
  have ordered : table.sorted.Pairwise fun left right => (!decide (right.1 < left.1)) = true := by
    refine List.pairwise_mergeSort (fun first second third => ?_) (fun left right => ?_) _
    · simp only [Bool.not_eq_true', decide_eq_false_iff_not, not_lt]
      exact le_trans
    · simp only [Bool.or_eq_true, Bool.not_eq_true', decide_eq_false_iff_not, not_lt]
      exact le_total left.1 right.1
  simp only [Bool.not_eq_true', decide_eq_false_iff_not, not_lt] at ordered
  rw [Entries.names, List.Nodup, List.pairwise_map] at distinct
  rw [Entries.names, List.pairwise_map]
  exact (ordered.and distinct).imp fun both => lt_of_le_of_ne both.1 both.2

/-- The keys of the contributions are keys of the answers, in their order. -/
theorem Scenario.names_worths (scenario : Scenario) (answers : List (String × Answer)) :
    (Entries.names (scenario.worths answers)).Sublist (Entries.names answers) := by
  induction answers with
  | nil => exact List.Sublist.refl []
  | cons entry rest inductionHypothesis =>
    rw [worths, List.filterMap_cons]
    cases scenario.conditions.get? entry.1 with
    | none => exact inductionHypothesis.cons entry.1
    | some condition => exact inductionHypothesis.cons_cons entry.1

/-! ### The score -/

/-- The score is the sum of what the answers are worth, from the first key to the last. -/
theorem Scenario.score_yields (scenario : Scenario) (texts : scenario.OfTexts)
    (answers : Table Answer) :
    ((∃ entry ∈ answers.entries, scenario.Unspeakable entry) →
        (scenario.score answers).Yields (.error .longNumber)) ∧
      ((¬ ∃ entry ∈ answers.entries, scenario.Unspeakable entry) →
        (scenario.score answers).Yields
          (.ok (total (scenario.worths answers.sorted),
            Table.ofEntries (scenario.worths answers.sorted)))) := by
  obtain ⟨fails, succeeds⟩ := scenario.contributions_yields texts answers.sorted
  simp only [Table.mem_sorted] at fails succeeds
  unfold Scenario.score
  exact ⟨fun unspeakable => (fails unspeakable).bind_error _,
    fun speakable => (succeeds speakable).bind (Run.yields_pure _)⟩

end MarketSignal
