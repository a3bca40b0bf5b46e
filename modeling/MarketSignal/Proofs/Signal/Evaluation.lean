/-
This file says exactly what an evaluation comes to. The signal lists what the answers to conditions
of the scenario are worth, in the order of the keys, adds them up, and speaks for the outcome that
the sum selects. No other way out is taken, except where an answer cannot even be warned about.
-/
import MarketSignal.Proofs.Scenario.RoundTrip
import MarketSignal.Proofs.Signal.Score
import MarketSignal.Signal.Basic

namespace MarketSignal

/-! ### The signal of an evaluation -/

/-- The signal is the one that the answers give by the rules of the scenario. -/
structure Scenario.Signals (scenario : Scenario) (answers : Table Answer) (signal : Signal) :
    Prop where
  reason : signal.reason = none
  ascending : signal.contributions.names.Pairwise (· < ·)
  contributions : ∀ key weight, signal.contributions.get? key = some weight ↔
    ∃ answer condition, answers.get? key = some answer ∧
      scenario.conditions.get? key = some condition ∧ weight = condition.worth answer
  score : signal.score = signal.contributions.values.foldl (· + ·) 0
  kind : signal.kind =
    match selectOutcome scenario.outcomes signal.score with
    | some (_, outcome) => if outcome.kind.truthy then outcome.kind else .str "neutral"
    | none => .str "neutral"
  message : signal.message =
    match selectOutcome scenario.outcomes signal.score with
    | some (_, outcome) => if outcome.message.truthy then outcome.message else .str "Unknown result"
    | none => .str "Neutral signal"

/-- There is an answer to a condition of the scenario that cannot be warned about. -/
def Scenario.Stumped (scenario : Scenario) (answers : Table Answer) : Prop :=
  ∃ entry ∈ answers.entries, scenario.Unspeakable entry

/-! ### The selected outcome -/

/-- The selected outcome is one of the outcomes. -/
theorem mem_of_selectOutcome (outcomes : Table Outcome) (score : Float) (entry : String × Outcome)
    (selected : selectOutcome outcomes score = some entry) : entry ∈ outcomes.entries := by
  have grows (rest : List (String × Outcome)) (best : Option (Float × String × Outcome))
      (threshold : Float)
      (isBest : rest.foldl (betterOutcome score) best = some (threshold, entry)) :
      (∃ threshold, best = some (threshold, entry)) ∨ entry ∈ rest := by
    induction rest generalizing best with
    | nil => exact Or.inl ⟨threshold, isBest⟩
    | cons next others inductionHypothesis =>
      rcases inductionHypothesis _ isBest with ⟨highest, here⟩ | behind
      · unfold betterOutcome at here
        split at here
        · exact Or.inl ⟨highest, here⟩
        · split at here
          · exact Or.inl ⟨highest, here⟩
          · split at here
            · cases here
              exact Or.inr List.mem_cons_self
            · split at here
              · cases here
                exact Or.inr List.mem_cons_self
              · exact Or.inl ⟨highest, here⟩
      · exact Or.inr (List.mem_cons_of_mem _ behind)
  obtain ⟨⟨threshold, other⟩, isBest, same⟩ := Option.map_eq_some_iff.mp selected
  cases same
  rcases grows outcomes.entries none threshold isBest with ⟨_, nothing⟩ | member
  · cases nothing
  · exact member

/-- The signal for a score. -/
def Scenario.signalFor (scenario : Scenario) (score : Float) (contributions : Table Float) :
    Signal :=
  match selectOutcome scenario.outcomes score with
  | some (_, outcome) =>
    ⟨if outcome.kind.truthy then outcome.kind else .str "neutral",
      if outcome.message.truthy then outcome.message else .str "Unknown result",
      score, contributions, none⟩
  | none => ⟨.str "neutral", .str "Neutral signal", score, contributions, none⟩

/-- The score and the contributions are handed on, and there is no reason to give. -/
theorem Scenario.signalFor_parts (scenario : Scenario) (score : Float)
    (contributions : Table Float) :
    (scenario.signalFor score contributions).score = score ∧
      (scenario.signalFor score contributions).contributions = contributions ∧
      (scenario.signalFor score contributions).reason = none := by
  unfold Scenario.signalFor
  cases selectOutcome scenario.outcomes score <;> exact ⟨rfl, rfl, rfl⟩

theorem Scenario.signal_yields (scenario : Scenario) (texts : scenario.OfTexts) (score : Float)
    (contributions : Table Float) :
    (scenario.signal score contributions).Yields
      (.ok (scenario.signalFor score contributions)) := by
  unfold Scenario.signal Scenario.signalFor
  cases selected : selectOutcome scenario.outcomes score with
  | none => exact .bind (Run.yields_note _ _) (Run.yields_pure _)
  | some entry =>
    obtain ⟨key, outcome⟩ := entry
    obtain ⟨text, isText⟩ := texts.messages _ (mem_of_selectOutcome _ _ _ selected)
    dsimp only at isText ⊢
    rw [isText, Json.display_str]
    exact .bind (Run.yields_ofExcept _) (.bind (Run.yields_note _ _) (Run.yields_pure _))

/-! ### The contributions -/

theorem Scenario.mem_worths (scenario : Scenario) (answers : Table Answer) (key : String)
    (weight : Float) :
    (key, weight) ∈ scenario.worths answers.sorted ↔
      ∃ answer condition, answers.get? key = some answer ∧
        scenario.conditions.get? key = some condition ∧ weight = condition.worth answer := by
  unfold Scenario.worths
  simp only [List.mem_filterMap, Table.mem_sorted, Option.map_eq_some_iff]
  constructor
  · rintro ⟨⟨other, answer⟩, present, condition, isCondition, same⟩
    cases same
    exact ⟨answer, condition, (answers.mem_entries _ _).mp present, isCondition, rfl⟩
  · rintro ⟨answer, condition, isAnswer, isCondition, rfl⟩
    exact ⟨(key, answer), (answers.mem_entries _ _).mpr isAnswer, condition, isCondition, rfl⟩

/-- The contributions as a table, in which none is lost. -/
theorem Scenario.entries_worths (scenario : Scenario) (answers : Table Answer) :
    (Table.ofEntries (scenario.worths answers.sorted)).entries =
      scenario.worths answers.sorted := by
  refine Entries.settle_of_distinct _ ?_
  exact (answers.sorted_ascending.sublist (scenario.names_worths answers.sorted)).imp ne_of_lt

theorem Scenario.signals_signalFor (scenario : Scenario) (answers : Table Answer) :
    scenario.Signals answers
      (scenario.signalFor (total (scenario.worths answers.sorted))
        (Table.ofEntries (scenario.worths answers.sorted))) := by
  have entries := scenario.entries_worths answers
  obtain ⟨score, contributions, reason⟩ := scenario.signalFor_parts
    (total (scenario.worths answers.sorted)) (Table.ofEntries (scenario.worths answers.sorted))
  refine ⟨reason, ?_, fun key weight => ?_, ?_, ?_, ?_⟩
  · rw [contributions, Table.names, entries]
    exact answers.sorted_ascending.sublist (scenario.names_worths answers.sorted)
  · rw [contributions, ← Table.mem_entries, entries]
    exact scenario.mem_worths answers key weight
  · rw [score, contributions, Table.values, entries, List.foldl_map]
    rfl
  · rw [score, Scenario.signalFor]
    cases selectOutcome scenario.outcomes (total (scenario.worths answers.sorted)) <;> rfl
  · rw [score, Scenario.signalFor]
    cases selectOutcome scenario.outcomes (total (scenario.worths answers.sorted)) <;> rfl

/-! ### Evaluations -/

section

variable (scenario : Scenario) (texts : scenario.OfTexts) (replies : Replies)
  (answers : Table Answer) (isRead : replies.read = .ok answers)

include texts isRead

/-- An answer that cannot be warned about makes the evaluation fail. -/
theorem evaluate_stumped (stumped : scenario.Stumped answers) :
    (evaluate (.scenario scenario) replies).Yields (.ok (Signal.failed .internalError)) := by
  have scored : (do
      let answers ← Run.ofExcept replies.read
      return some (← scenario.score answers) : Run Journal (Option (Float × Table Float))).Yields
        (.error .longNumber) := by
    rw [isRead]
    exact .bind (Run.yields_ofExcept _)
      (((scenario.score_yields texts answers).1 stumped).bind_error _)
  exact .bind (scored.tryCatch_error (Run.yields_pure none))
    (.bind (Run.yields_note _ _) (Run.yields_pure _))

/-- Any other answers are added up, and the sum selects what is signalled. -/
theorem evaluate_yields (plain : ¬ scenario.Stumped answers) :
    (evaluate (.scenario scenario) replies).Yields
      (.ok (scenario.signalFor (total (scenario.worths answers.sorted))
        (Table.ofEntries (scenario.worths answers.sorted)))) := by
  have scored : (do
      let answers ← Run.ofExcept replies.read
      return some (← scenario.score answers) : Run Journal (Option (Float × Table Float))).Yields
        (.ok (some (total (scenario.worths answers.sorted),
          Table.ofEntries (scenario.worths answers.sorted)))) := by
    rw [isRead]
    exact .bind (Run.yields_ofExcept _)
      (.bind ((scenario.score_yields texts answers).2 plain) (Run.yields_pure _))
  exact .bind (scored.tryCatch_ok _) (scenario.signal_yields texts _ _)

/-- The signal of such answers is the one that the rules of the scenario give. -/
theorem evaluate_signals (plain : ¬ scenario.Stumped answers) :
    ∃ signal, (evaluate (.scenario scenario) replies).Yields (.ok signal) ∧
      scenario.Signals answers signal :=
  ⟨_, evaluate_yields scenario texts replies answers isRead plain,
    scenario.signals_signalFor answers⟩

/-- An evaluation fails exactly if there is an answer to a condition that cannot be warned about.
Otherwise the signal is the one that the answers give by the rules of the scenario. -/
theorem evaluate_exactly (journal : Journal) :
    (scenario.Stumped answers →
      ((evaluate (.scenario scenario) replies).outcome journal).1 =
        .ok (Signal.failed .internalError)) ∧
      (¬ scenario.Stumped answers →
        ∃ signal, ((evaluate (.scenario scenario) replies).outcome journal).1 = .ok signal ∧
          scenario.Signals answers signal) := by
  refine ⟨fun stumped => evaluate_stumped scenario texts replies answers isRead stumped journal,
    fun plain => ?_⟩
  obtain ⟨signal, yields, signals⟩ := evaluate_signals scenario texts replies answers isRead plain
  exact ⟨signal, yields journal, signals⟩

end

/-! ### A scenario with one choice -/

/-- A scenario that asks for one choice and signals once it is made. -/
def oneChoice : Scenario :=
  ⟨"s", .str "S", Table.ofEntries [("c", ⟨.str "", .select, 0, [⟨.str "a", .str "", 2⟩]⟩)],
    Table.ofEntries [("o", ⟨some 1, .str "Up", .str "bullish"⟩)]⟩

theorem ofTexts_oneChoice : oneChoice.OfTexts where
  values := by
    intro entry present choice member
    cases List.mem_singleton.mp present
    cases List.mem_singleton.mp member
    exact ⟨"a", rfl⟩
  messages := by
    intro entry present
    cases List.mem_singleton.mp present
    exact ⟨"Up", rfl⟩

/-- The answers of a select with the given value, as they come. -/
def selecting (value : Json) : Json :=
  .obj [("c", .obj [("type", .str "select"), ("value", value)])]

/-- The answers of a select with the given value, as they are read. -/
def selected (value : Json) : Table Answer := Table.ofEntries [("c", ⟨.str "", "select", value, 0⟩)]

theorem read_selecting (value : Json) :
    (Replies.plain (selecting value)).read = .ok (selected value) := rfl

theorem stumped_selected (value : Json) :
    oneChoice.Stumped (selected value) ↔ value.hasLongNumber = true := by
  constructor
  · rintro ⟨entry, present, -, -, long⟩
    cases List.mem_singleton.mp present
    exact long
  · intro long
    exact ⟨_, List.mem_singleton.mpr rfl, rfl, Or.inr rfl, long⟩

/-- The choice is made and signalled; a whole number of 4301 digits in its place makes the
evaluation fail. -/
theorem evaluate_oneChoice :
    (∃ signal, ((evaluate (.scenario oneChoice) (.plain (selecting (.str "a")))).outcome []).1 =
        .ok signal ∧ oneChoice.Signals (selected (.str "a")) signal) ∧
      ((evaluate (.scenario oneChoice) (.plain (selecting (.int (10 ^ 4300))))).outcome []).1 =
        .ok (Signal.failed .internalError) := by
  constructor
  · refine (evaluate_exactly oneChoice ofTexts_oneChoice _ _ (read_selecting _) []).2 ?_
    rw [stumped_selected]
    exact Bool.false_ne_true
  · refine (evaluate_exactly oneChoice ofTexts_oneChoice _ _ (read_selecting _) []).1 ?_
    rw [stumped_selected]
    decide +kernel

/-- Accepted answers do not always give a signal without a reason: a whole number of 4301 digits
that matches no choice is not worth zero. -/
theorem evaluate_fails_longNumber :
    ¬ ∃ signal, ((evaluate (.scenario oneChoice)
      (.plain (selecting (.int (10 ^ 4300))))).outcome []).1 = .ok signal ∧
        signal.reason = none := by
  rintro ⟨signal, isSignal, reason⟩
  have failed := evaluate_stumped oneChoice ofTexts_oneChoice _ _
    (read_selecting (.int (10 ^ 4300))) ((stumped_selected _).mpr (by decide +kernel)) []
  rw [failed] at isSignal
  cases isSignal
  cases reason

end MarketSignal
