/-
This file proves when a signal has met its threshold. The outcome of a signal has a threshold that
the score does not stay below. That is the same as reaching it unless the score is the number that
is none, and then it is true of every threshold. Weights are numbers, so a sum of contributions is
that number only if infinities cancel on the way; then the highest threshold of all is signalled.
-/
import MarketSignal.Proofs.Number.Order
import MarketSignal.Proofs.Signal.Evaluation

namespace MarketSignal

/-! ### Sums -/

/-- The sum of numbers, from the first to the last. -/
def sumOf (weights : List Float) : Float := weights.foldl (· + ·) 0

/-- On the way from the first number to the last the sum is infinite, and the next number is the
opposite infinity. -/
def Cancels (weights : List Float) : Prop :=
  ∃ before weight after, weights = before ++ weight :: after ∧ Opposite (sumOf before) weight

theorem sumOf_append (weights : List Float) (last : Float) :
    sumOf (weights ++ [last]) = sumOf weights + last :=
  List.foldl_append

/-- Numbers with one more behind them cancel if they do already, or at the last one. -/
theorem cancels_append (weights : List Float) (last : Float) :
    Cancels (weights ++ [last]) ↔ Cancels weights ∨ Opposite (sumOf weights) last := by
  constructor
  · rintro ⟨before, weight, after, split_, opposite⟩
    obtain rfl | ⟨others, final, rfl⟩ := after.eq_nil_or_concat'
    · obtain ⟨rfl, same⟩ := List.append_inj' split_ rfl
      cases same
      exact Or.inr opposite
    · rw [← List.cons_append, ← List.append_assoc] at split_
      obtain ⟨rfl, -⟩ := List.append_inj' split_ rfl
      exact Or.inl ⟨before, weight, others, rfl, opposite⟩
  · rintro (⟨before, weight, after, rfl, opposite⟩ | opposite)
    · exact ⟨before, weight, after ++ [last], by rw [List.append_assoc, List.cons_append], opposite⟩
    · exact ⟨weights, last, [], rfl, opposite⟩

/-- A sum of numbers is the number that is none exactly if they cancel. -/
theorem isNotANumber_sumOf_iff (weights : List Float)
    (proper : ∀ weight ∈ weights, isNotANumber weight = false) :
    isNotANumber (sumOf weights) = true ↔ Cancels weights := by
  induction weights using List.reverseRecOn with
  | nil =>
    refine iff_of_false (by decide) ?_
    rintro ⟨before, weight, after, split_, -⟩
    exact absurd split_.symm (List.append_ne_nil_of_right_ne_nil _ (List.cons_ne_nil _ _))
  | append_singleton weights last inductionHypothesis =>
    have lastProper : ¬ isNotANumber last = true :=
      Bool.eq_false_iff.mp (proper last (List.mem_append_right _ (List.mem_singleton.mpr rfl)))
    rw [sumOf_append, isNotANumber_add_iff, cancels_append,
      inductionHypothesis fun weight member => proper weight (List.mem_append_left _ member),
      or_iff_right lastProper]

/-! ### Weights are numbers -/

theorem Condition.weightOf_proper (condition : Condition) (typed : condition.Typed)
    (value : Json) : isNotANumber (condition.weightOf value) = false := by
  unfold Condition.weightOf
  split
  case h_1 text =>
    cases found : condition.choices.find? fun choice => choice.answers text with
    | none => exact by decide
    | some choice => exact (typed.choices choice (List.mem_of_find?_eq_some found)).weight
  case h_2 => decide

/-- What an answer is worth is a number. -/
theorem Condition.worth_proper (condition : Condition) (typed : condition.Typed)
    (answer : Answer) : isNotANumber (condition.worth answer) = false := by
  have zero : isNotANumber 0 = false := by decide
  unfold Condition.worth
  split
  · exact zero
  · split
    · exact condition.weightOf_proper typed answer.value
    · split
      · split
        · exact typed.weight
        · exact zero
      · split
        · exact typed.weight
        · exact zero

theorem Scenario.Signals.contributions_proper {scenario : Scenario} (typed : scenario.Typed)
    {answers : Table Answer} {signal : Signal} (signals : scenario.Signals answers signal) :
    ∀ weight ∈ signal.contributions.values, isNotANumber weight = false := by
  intro weight member
  obtain ⟨key, found⟩ := (signal.contributions.mem_values weight).mp member
  obtain ⟨answer, condition, -, isCondition, rfl⟩ := (signals.contributions key weight).mp found
  exact condition.worth_proper
    (typed.conditions _ (Entries.mem_of_get? _ _ _ isCondition)) answer

/-! ### The selected outcome -/

theorem threshold_of_betterOutcome {score : Float} {best : Option (Float × String × Outcome)}
    {next : String × Outcome} {threshold : Float} {entry : String × Outcome}
    (isBetter : betterOutcome score best next = some (threshold, entry)) :
    best = some (threshold, entry) ∨
      (entry = next ∧ next.2.threshold = some threshold ∧
        outOfReach threshold score = false) := by
  unfold betterOutcome at isBetter
  split at isBetter
  · exact Or.inl isBetter
  case h_2 limit isThreshold =>
    split at isBetter
    · exact Or.inl isBetter
    case isFalse reached =>
      replace reached := Bool.eq_false_iff.mpr reached
      split at isBetter
      · cases isBetter
        exact Or.inr ⟨rfl, isThreshold, reached⟩
      · split at isBetter
        · cases isBetter
          exact Or.inr ⟨rfl, isThreshold, reached⟩
        · exact Or.inl isBetter

/-- The selected outcome has a threshold that the score does not stay below. -/
theorem threshold_of_selectOutcome (outcomes : Table Outcome) (score : Float)
    (entry : String × Outcome) (selected : selectOutcome outcomes score = some entry) :
    entry ∈ outcomes.entries ∧
      ∃ threshold, entry.2.threshold = some threshold ∧ ¬ score < threshold := by
  have grows (rest : List (String × Outcome)) (best : Option (Float × String × Outcome))
      (threshold : Float)
      (isBest : rest.foldl (betterOutcome score) best = some (threshold, entry)) :
      best = some (threshold, entry) ∨
        (entry ∈ rest ∧ entry.2.threshold = some threshold ∧
          outOfReach threshold score = false) := by
    induction rest generalizing best with
    | nil => exact Or.inl isBest
    | cons next others inductionHypothesis =>
      rcases inductionHypothesis _ isBest with here | ⟨member, behind⟩
      · rcases threshold_of_betterOutcome here with before | ⟨rfl, isThreshold⟩
        · exact Or.inl before
        · exact Or.inr ⟨List.mem_cons_self, isThreshold⟩
      · exact Or.inr ⟨List.mem_cons_of_mem _ member, behind⟩
  obtain ⟨⟨threshold, other⟩, isBest, same⟩ := Option.map_eq_some_iff.mp selected
  cases same
  rcases grows outcomes.entries none threshold isBest with nothing | ⟨member, isThreshold, reached⟩
  · cases nothing
  · exact ⟨member, threshold, isThreshold, of_decide_eq_false reached⟩

/-- At a score that stays below no threshold the outcome is the one that infinity selects. -/
theorem selectOutcome_of_not_below (outcomes : Table Outcome) (score : Float)
    (notBelow : ∀ threshold, ¬ score < threshold) :
    selectOutcome outcomes score = selectOutcome outcomes infinity := by
  have same : betterOutcome score = betterOutcome infinity := by
    funext best next
    have reach (threshold : Float) : outOfReach threshold score = outOfReach threshold infinity :=
      (decide_eq_false (notBelow threshold)).trans
        (decide_eq_false (not_infinity_lt threshold)).symm
    unfold betterOutcome
    simp only [reach]
  rw [selectOutcome, selectOutcome, same]

/-! ### Signals -/

/-- The signal is the fixed one for a score that reaches no threshold. -/
def Signal.IsNeutral (signal : Signal) : Prop :=
  signal.kind = .str "neutral" ∧ signal.message = .str "Neutral signal"

/-- The signal speaks for an outcome of the scenario whose threshold the score has reached. -/
def Scenario.Justifies (scenario : Scenario) (signal : Signal) : Prop :=
  ∃ entry ∈ scenario.outcomes.entries, ∃ threshold, entry.2.threshold = some threshold ∧
    threshold ≤ signal.score ∧
    signal.kind = (if entry.2.kind.truthy then entry.2.kind else .str "neutral") ∧
    signal.message = (if entry.2.message.truthy then entry.2.message else .str "Unknown result")

namespace Scenario

variable {scenario : Scenario} (typed : scenario.Typed) {answers : Table Answer} {signal : Signal}
  (signals : scenario.Signals answers signal)

include typed signals

/-- The score of a signal is the number that is none exactly if the contributions cancel. -/
theorem Signals.isNotANumber_score_iff :
    isNotANumber signal.score = true ↔ Cancels signal.contributions.values := by
  rw [signals.score]
  exact isNotANumber_sumOf_iff _ (signals.contributions_proper typed)

/-- A signal with a number for a score is neutral, or its threshold is met. -/
theorem Signals.justified (proper : isNotANumber signal.score = false) :
    signal.IsNeutral ∨ scenario.Justifies signal := by
  have kind := signals.kind
  have message := signals.message
  cases selected : selectOutcome scenario.outcomes signal.score with
  | none =>
    rw [selected] at kind message
    exact Or.inl ⟨kind, message⟩
  | some entry =>
    rw [selected] at kind message
    obtain ⟨member, threshold, isThreshold, reached⟩ :=
      threshold_of_selectOutcome _ _ _ selected
    have thresholdProper := (typed.outcomes entry member).threshold threshold isThreshold
    exact Or.inr ⟨entry, member, threshold, isThreshold,
      le_of_not_lt thresholdProper proper reached, kind, message⟩

omit signals typed in
theorem not_justifies (none_ : isNotANumber signal.score = true) :
    ¬ scenario.Justifies signal := by
  rintro ⟨entry, -, threshold, -, reached, -⟩
  exact not_le_of_isNotANumber none_ threshold reached

end Scenario

/-! ### Evaluations -/

theorem evaluate_unread (scenario : Scenario) (replies : Replies) (fault : Fault)
    (unread : replies.read = .error fault) :
    (evaluate (.scenario scenario) replies).Yields (.ok (Signal.failed .internalError)) := by
  have scored : (do
      let answers ← Run.ofExcept replies.read
      return some (← scenario.score answers) : Run Journal (Option (Float × Table Float))).Yields
        (.error fault) := by
    rw [unread]
    exact (Run.yields_ofExcept _).bind_error _
  exact .bind (scored.tryCatch_error (Run.yields_pure none))
    (.bind (Run.yields_note _ _) (Run.yields_pure _))

/-- A signal without a reason is the one that the answers give by the rules of the scenario. -/
theorem signals_of_evaluate (scenario : Scenario) (texts : scenario.OfTexts) (replies : Replies)
    (journal : Journal) (signal : Signal)
    (evaluates : ((evaluate (.scenario scenario) replies).outcome journal).1 = .ok signal)
    (noReason : signal.reason = none) :
    ∃ answers, replies.read = .ok answers ∧ scenario.Signals answers signal := by
  have notFailed : .ok signal ≠ (.ok (Signal.failed .internalError) : Except Fault Signal) := by
    rintro ⟨⟩
    cases noReason
  cases read : replies.read with
  | error fault =>
    exact absurd (evaluates.symm.trans (evaluate_unread scenario replies fault read journal))
      notFailed
  | ok answers =>
    by_cases stumped : scenario.Stumped answers
    · exact absurd (evaluates.symm.trans
        (evaluate_stumped scenario texts replies answers read stumped journal)) notFailed
    · obtain ⟨expected, yields, signals⟩ :=
        evaluate_signals scenario texts replies answers read stumped
      cases evaluates.symm.trans (yields journal)
      exact ⟨answers, rfl, signals⟩

/-- A signal without a reason is neutral or has met its threshold, except where contributions
cancel. Where they do, it is the signal of a score of infinity, so that nothing short of a scenario
without thresholds or an outcome that is neutral itself makes it neutral. -/
theorem signal_justified_exactly (document : Json) (book : Book)
    (isRead : Book.ofDocument document = .ok book) (id : String) (scenario : Scenario)
    (found : Table.get? book id = some scenario) (replies : Replies) (journal : Journal)
    (signal : Signal)
    (evaluates : ((evaluate (.scenario scenario) replies).outcome journal).1 = .ok signal)
    (noReason : signal.reason = none) :
    ((signal.IsNeutral ∨ scenario.Justifies signal) ↔
        (Cancels signal.contributions.values → signal.IsNeutral)) ∧
      (Cancels signal.contributions.values →
        signal = { scenario.signalFor infinity signal.contributions with
          score := signal.score }) := by
  have typed :=
    (Book.typed_of_ofDocument document book isRead _ (Entries.mem_of_get? _ _ _ found)).1
  obtain ⟨answers, -, signals⟩ :=
    signals_of_evaluate scenario typed.ofTexts replies journal signal evaluates noReason
  rw [← signals.isNotANumber_score_iff typed]
  cases none_ : isNotANumber signal.score with
  | false => exact ⟨iff_of_true (signals.justified typed none_) nofun, nofun⟩
  | true =>
    have unjustified : ¬ scenario.Justifies signal := Scenario.not_justifies none_
    refine ⟨(or_iff_left unjustified).trans ⟨fun neutral _ => neutral, fun neutral => neutral rfl⟩,
      fun _ => ?_⟩
    have selected := selectOutcome_of_not_below scenario.outcomes signal.score
      (not_lt_of_isNotANumber none_)
    have kind := signals.kind
    have message := signals.message
    have reason := signals.reason
    rw [selected] at kind message
    unfold Scenario.signalFor
    obtain ⟨_, _, score, contributions, _⟩ := signal
    dsimp only at kind message reason ⊢
    rw [kind, message, reason]
    cases selectOutcome scenario.outcomes infinity <;> rfl

/-! ### A scenario with two weights -/

/-- A scenario with two texts of the given weights, and an outcome from five on. -/
def pairOf (left right : Float) : Scenario :=
  ⟨"s", .str "S",
    Table.ofEntries [("a", ⟨.str "", .text, left, []⟩), ("b", ⟨.str "", .text, right, []⟩)],
    Table.ofEntries [("o", ⟨some 5, .str "Up", .str "bullish"⟩)]⟩

/-- The book of that scenario. -/
def pairBook (left right : Float) : Book := Table.ofEntries [("s", pairOf left right)]

/-- Both texts are given. -/
def bothTexts : Json :=
  .obj [("a", .obj [("type", .str "text"), ("value", .str "x")]),
    ("b", .obj [("type", .str "text"), ("value", .str "x")])]

/-- Both texts as they are read. -/
def bothAnswers : Table Answer :=
  Table.ofEntries [("a", ⟨.str "", "text", .str "x", 0⟩), ("b", ⟨.str "", "text", .str "x", 0⟩)]

section

variable {left right : Float} (leftProper : isNotANumber left = false)
  (rightProper : isNotANumber right = false)

include leftProper rightProper

theorem typed_pairOf : (pairOf left right).Typed where
  name := ⟨"S", rfl⟩
  conditions := by
    intro entry present
    rcases List.mem_cons.mp present with rfl | behind
    · exact ⟨⟨"", rfl⟩, leftProper, nofun⟩
    · cases List.mem_singleton.mp behind
      exact ⟨⟨"", rfl⟩, rightProper, nofun⟩
  outcomes := by
    intro entry present
    cases List.mem_singleton.mp present
    refine ⟨?_, ⟨"Up", rfl⟩, Or.inr ⟨"bullish", rfl, by decide⟩⟩
    rintro threshold ⟨⟩
    rfl

/-- The document of the book is read as the book. -/
theorem ofDocument_pairBook :
    Book.ofDocument (documentOf (Book.toJson (pairBook left right))) =
      .ok (pairBook left right) := by
  refine Book.ofDocument_documentOf_typed _ fun entry present => ?_
  cases List.mem_singleton.mp present
  exact ⟨typed_pairOf leftProper rightProper, rfl⟩

/-- Both weights are added. -/
theorem evaluate_pairOf (journal : Journal) :
    ((evaluate (.scenario (pairOf left right)) (.plain bothTexts)).outcome journal).1 =
      .ok ((pairOf left right).signalFor (0 + left + right)
        (Table.ofEntries [("a", left), ("b", right)])) := by
  have read : (Replies.plain bothTexts).read = .ok bothAnswers := rfl
  have plain : ¬ (pairOf left right).Stumped bothAnswers := by
    rintro ⟨entry, present, -, chooses, -⟩
    rcases List.mem_cons.mp present with rfl | behind
    · exact absurd chooses (by decide)
    · cases List.mem_singleton.mp behind
      exact absurd chooses (by decide)
  have sorted : bothAnswers.sorted = bothAnswers.entries :=
    List.mergeSort_of_pairwise (by decide)
  rw [evaluate_yields (pairOf left right) (typed_pairOf leftProper rightProper).ofTexts _ _ read
    plain journal, sorted]
  rfl

end

/-- Weights of three and four do not cancel, so their signal has met its threshold. -/
theorem signal_justified_pair :
    ∃ signal, ((evaluate (.scenario (pairOf 3 4)) (.plain bothTexts)).outcome []).1 = .ok signal ∧
      signal.reason = none ∧ (signal.IsNeutral ∨ (pairOf 3 4).Justifies signal) := by
  have three : isNotANumber 3 = false := rfl
  have four : isNotANumber 4 = false := rfl
  have evaluates := evaluate_pairOf three four []
  refine ⟨_, evaluates, rfl,
    (signal_justified_exactly _ _ (ofDocument_pairBook three four) "s" _ rfl
    _ [] _ evaluates rfl).1.mpr fun cancels => ?_⟩
  have proper : ∀ weight ∈ [(3 : Float), 4], isNotANumber weight = false := by
    intro weight member
    rcases List.mem_cons.mp member with rfl | behind
    · exact three
    · cases List.mem_singleton.mp behind
      exact four
  have sum := (isNotANumber_sumOf_iff [3, 4] proper).mpr cancels
  exact absurd sum (by decide)

/-- Infinite weights of both signs make a score that is no number; the outcome is signalled though
its threshold is not met. -/
theorem signal_unjustified_cancelling :
    ∃ signal, Book.ofDocument (documentOf (Book.toJson (pairBook infinity negativeInfinity))) =
        .ok (pairBook infinity negativeInfinity) ∧
      ((evaluate (.scenario (pairOf infinity negativeInfinity)) (.plain bothTexts)).outcome []).1 =
        .ok signal ∧
      signal.reason = none ∧ ¬ signal.IsNeutral ∧
      ¬ (pairOf infinity negativeInfinity).Justifies signal := by
  refine ⟨_, ofDocument_pairBook rfl rfl, evaluate_pairOf rfl rfl [], rfl, ?_, ?_⟩
  · rintro ⟨kind, -⟩
    have bullish : ((pairOf infinity negativeInfinity).signalFor (0 + infinity + negativeInfinity)
        (Table.ofEntries [("a", infinity), ("b", negativeInfinity)])).kind = .str "bullish" := rfl
    exact absurd (Json.str.inj (bullish.symm.trans kind)) (by decide)
  · exact Scenario.not_justifies rfl

end MarketSignal
