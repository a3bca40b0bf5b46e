/-
This file proves that a book without issues can be rearranged: an evaluation does not look at the
order of the choices within a condition. The first choice that has the value of an answer is looked
for, and where the values can be told apart there is at most one. What a condition has of choices
counts whatever its kind, since the kind of the answer decides; but a condition that is not answered
by a choice has none when there are no issues.
-/
import MarketSignal.Proofs.Scenario.Findings
import MarketSignal.Proofs.Signal.Evaluation

namespace MarketSignal

/-- Conditions that differ in the order of their choices at most. -/
structure Condition.Rearranged (left right : Condition) : Prop where
  label : left.label = right.label
  kind : left.kind = right.kind
  weight : left.weight = right.weight
  choices : left.choices.Perm right.choices

/-- Scenarios that differ in the order of the choices within their conditions at most. -/
structure Scenario.Rearranged (left right : Scenario) : Prop where
  id : left.id = right.id
  name : left.name = right.name
  conditions : List.Forall₂ (fun entry other => entry.1 = other.1 ∧ entry.2.Rearranged other.2)
    left.conditions.entries right.conditions.entries
  outcomes : left.outcomes = right.outcomes

/-! ### Looking for a choice -/

/-- Among choices with distinct values there is at most one to be found, wherever it stands. -/
theorem find?_same_of_perm {choices others : List Choice} (perm : choices.Perm others)
    (texts : ∀ choice ∈ choices, choice.value.IsText)
    (distinct : (choices.map Choice.value).Nodup) (value : Json) :
    (choices.find? fun choice => choice.value.same value) =
      others.find? fun choice => choice.value.same value := by
  have only {choice other : Choice} (isChoice : choice ∈ choices) (isOther : other ∈ choices)
      (same : choice.value.same value = true) (sameOther : other.value.same value = true) :
      choice = other := by
    obtain ⟨text, isText⟩ := texts choice isChoice
    obtain ⟨known, isKnown⟩ := texts other isOther
    rw [isText, Json.same_str] at same
    rw [isKnown, Json.same_str] at sameOther
    exact List.inj_on_of_nodup_map distinct isChoice isOther
      ((isText.trans same.symm).trans (isKnown.trans sameOther.symm).symm)
  cases found : others.find? fun choice => choice.value.same value with
  | none =>
    refine List.find?_eq_none.mpr fun choice isChoice => ?_
    exact List.find?_eq_none.mp found choice (perm.mem_iff.mp isChoice)
  | some choice =>
    have isChoice := perm.mem_iff.mpr (List.mem_of_find?_eq_some found)
    have same := List.find?_some found
    cases first : choices.find? fun choice => choice.value.same value with
    | none => exact absurd same (List.find?_eq_none.mp first choice isChoice)
    | some other =>
      have sameFirst : other.value.same value = true :=
        List.find?_some (p := fun choice : Choice => choice.value.same value) first
      exact congrArg some (only (List.mem_of_find?_eq_some first) isChoice sameFirst same)

/-- The choices of a condition without issues have distinct values, whatever its kind. -/
theorem Scenario.Unambiguous.nodup {scenario : Scenario} (clear : scenario.Unambiguous)
    (entry : String × Condition) (asked : entry ∈ scenario.conditions.entries) :
    (entry.2.choices.map Choice.value).Nodup := by
  by_cases chooses : entry.2.kind = .radio ∨ entry.2.kind = .select
  · exact clear.distinct entry asked chooses
  · rw [← ConditionKind.offersChoices_iff, ConditionKind.not_offersChoices_iff] at chooses
    rw [clear.offered entry asked chooses]
    exact List.nodup_nil

theorem Condition.Rearranged.contribution {left right : Condition}
    (rearranged : left.Rearranged right) (texts : ∀ choice ∈ left.choices, choice.value.IsText)
    (distinct : (left.choices.map Choice.value).Nodup) (key : String) (answer : Answer) :
    left.contribution key answer = right.contribution key answer := by
  unfold Condition.contribution Condition.choiceWeight
  rw [find?_same_of_perm rearranged.choices texts distinct, rearranged.weight]

/-! ### Evaluations -/

/-- Where two lists have the same names in the same places, so have they the values under a name. -/
theorem Entries.get?_of_forall₂ {Value Other : Type} {related : Value → Other → Prop}
    {entries : List (String × Value)} {others : List (String × Other)}
    (each : List.Forall₂ (fun entry other => entry.1 = other.1 ∧ related entry.2 other.2)
      entries others) (name : String) :
    Option.Rel related (Entries.get? entries name) (Entries.get? others name) := by
  induction each with
  | nil => exact .none
  | @cons entry other _ _ both _ inductionHypothesis =>
    obtain ⟨same, isRelated⟩ := both
    rw [Entries.get?, Entries.get?, ← same]
    split
    · exact .some isRelated
    · exact inductionHypothesis

namespace Scenario.Rearranged

variable {left right : Scenario}

theorem contributions (rearranged : left.Rearranged right) (textual : left.Textual)
    (clear : left.Unambiguous) (answers : List (String × Answer)) :
    left.contributions answers = right.contributions answers := by
  induction answers with
  | nil => rfl
  | cons entry rest inductionHypothesis =>
    obtain ⟨key, answer⟩ := entry
    have alike := Entries.get?_of_forall₂ rearranged.conditions key
    rw [Scenario.contributions, Scenario.contributions, inductionHypothesis, rearranged.id,
      Table.get?, Table.get?]
    cases isCondition : Entries.get? left.conditions.entries key with
    | none =>
      rw [isCondition] at alike
      cases isOther : Entries.get? right.conditions.entries key with
      | none => rfl
      | some other =>
        rw [isOther] at alike
        cases alike
    | some condition =>
      rw [isCondition] at alike
      cases isOther : Entries.get? right.conditions.entries key with
      | none =>
        rw [isOther] at alike
        cases alike
      | some other =>
        rw [isOther] at alike
        cases alike with
        | some both =>
          have asked := Entries.mem_of_get? _ _ _ isCondition
          dsimp only
          rw [both.contribution (fun choice member =>
            ((textual.conditions _ asked).choices choice member).value) (clear.nodup _ asked)]

theorem evaluate (rearranged : left.Rearranged right) (textual : left.Textual)
    (clear : left.Unambiguous) (replies : Replies) :
    left.evaluate replies = right.evaluate replies := by
  have scores : left.score = right.score := by
    funext answers
    rw [Scenario.score, Scenario.score, rearranged.contributions textual clear]
  have signals : left.signal = right.signal := by
    funext score contributions
    rw [Scenario.signal, Scenario.signal, rearranged.outcomes, rearranged.id]
  rw [Scenario.evaluate, Scenario.evaluate, scores, signals, rearranged.id]

end Scenario.Rearranged

/-- The search for issues in a book of texts reports whatever is to be found, each finding once. A
book has no issues exactly if nothing in it is to be mended, and then an evaluation gives the same
signal, and the same notices, whatever the order of the choices within the conditions. -/
theorem Book.issues_exact (book : Book)
    (textual : ∀ entry ∈ Table.entries book, entry.2.Textual) :
    (∃ findings : List Finding, findings.Nodup ∧
        (∀ finding, finding ∈ findings ↔ Finding.Of book finding) ∧
        book.issues = .ok (findings.map Finding.issue)) ∧
      (book.issues = .ok [] ↔ ∀ entry ∈ Table.entries book, entry.2.Unambiguous) ∧
      (book.issues = .ok [] → ∀ entry ∈ Table.entries book, ∀ other, entry.2.Rearranged other →
        ∀ replies journal, (evaluate (.scenario entry.2) replies).outcome journal =
          (evaluate (.scenario other) replies).outcome journal) := by
  have clear := Book.issues_eq_nil_iff book textual
  refine ⟨⟨Book.findings book, Book.nodup_findings book textual, Book.mem_findings book textual,
    Book.issues_eq book textual⟩, clear, ?_⟩
  intro none_ entry present other rearranged replies journal
  have same := rearranged.evaluate (textual entry present) (clear.mp none_ entry present) replies
  exact congrArg (fun work : Run Journal Signal => work.outcome journal) same

/-! ### A choice between up and down -/

/-- A choice that is worth something. -/
def choiceWorth (value : String) (weight : Float) : Choice := ⟨.str value, .str value, weight⟩

/-- A scenario that offers choices. -/
def offering (choices : List Choice) : Scenario where
  id := "s"
  name := .str "Trend"
  conditions := Table.ofEntries [("c", ⟨.str "Trend", .radio, 0, choices⟩)]
  outcomes := Table.empty

theorem textual_offering {choices : List Choice} (textual : ∀ choice ∈ choices, choice.Textual) :
    (offering choices).Textual where
  name := ⟨_, rfl⟩
  conditions := fun entry asked => by
    obtain rfl := List.mem_singleton.mp asked
    exact ⟨⟨_, rfl⟩, textual⟩
  outcomes := nofun

theorem rearranged_offering {choices others : List Choice} (perm : choices.Perm others) :
    (offering choices).Rearranged (offering others) where
  id := rfl
  name := rfl
  conditions := .cons ⟨rfl, rfl, rfl, rfl, perm⟩ .nil
  outcomes := rfl

/-- A choice between up and down. -/
def upOrDown : List Choice := [choiceWorth "up" 1, choiceWorth "down" 2]

theorem textual_upOrDown : ∀ choice ∈ upOrDown, choice.Textual := by
  intro choice member
  rcases List.mem_pair.mp member with rfl | rfl
  · exact ⟨⟨_, rfl⟩, ⟨_, rfl⟩⟩
  · exact ⟨⟨_, rfl⟩, ⟨_, rfl⟩⟩

theorem Book.issues_exact_upOrDown :
    Book.issues (Table.ofEntries [("s", offering upOrDown)]) = .ok [] ∧
      ∀ replies journal, (evaluate (.scenario (offering upOrDown)) replies).outcome journal =
        (evaluate (.scenario (offering upOrDown.reverse)) replies).outcome journal := by
  have noIssues : Book.issues (Table.ofEntries [("s", offering upOrDown)]) = .ok [] := rfl
  have present : ("s", offering upOrDown) ∈
      Table.entries (Table.ofEntries [("s", offering upOrDown)]) := List.mem_singleton_self _
  refine ⟨noIssues, ?_⟩
  obtain ⟨-, -, unchanged⟩ := Book.issues_exact (Table.ofEntries [("s", offering upOrDown)])
    fun entry isEntry => (List.mem_singleton.mp isEntry) ▸ textual_offering textual_upOrDown
  exact unchanged noIssues _ present _ (rearranged_offering (List.reverse_perm _).symm)

end MarketSignal
