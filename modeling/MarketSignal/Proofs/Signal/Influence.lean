/-
This file proves that a caller has no influence on a signal but through the kinds and the values of
the answers. Two evaluations are compared: their scenarios weigh conditions and choices alike and
have the same outcomes, and their answers have the same keys and agree in kind and value. Whatever
else the two say, they come to the same signal. The relation between the two runs is carried from
the answers as they are given to those that are read, from these to what each is worth, and from
the worths, which have one order, to their sum.

What else an answer says counts in one way only: a label or a weight that cannot be read keeps the
answers from being read at all, and then the signal stands for a failure.
-/
import MarketSignal.Proofs.Json.Equality
import MarketSignal.Proofs.Service.Evaluating
import MarketSignal.Proofs.Signal.Rearranging

namespace MarketSignal

/-! ### Tables entry by entry -/

/-- Two tables have the same names, and what stands under a name in one is related to what stands
there in the other. -/
def Table.Matches {Value Other : Type} (related : Value → Other → Prop) (left : Table Value)
    (right : Table Other) : Prop :=
  ∀ name, Option.Rel related (left.get? name) (right.get? name)

section

variable {Value Other : Type} {related : Value → Other → Prop} {left : Table Value}
  {right : Table Other}

theorem Table.Matches.exists_right (same : left.Matches related right) {name : String}
    {value : Value} (found : left.get? name = some value) :
    ∃ other, right.get? name = some other ∧ related value other := by
  have both := same name
  rw [found] at both
  generalize right.get? name = other at both
  cases both with
  | some isRelated => exact ⟨_, rfl, isRelated⟩

theorem Table.Matches.swap (same : left.Matches related right) :
    right.Matches (fun other value => related value other) left := by
  intro name
  have both := same name
  generalize left.get? name = value at both ⊢
  generalize right.get? name = other at both ⊢
  cases both with
  | some isRelated => exact .some isRelated
  | none => exact .none

theorem Table.Matches.trans {Third : Type} {third : Table Third} {next : Other → Third → Prop}
    (same : left.Matches related right) (after : right.Matches next third) :
    left.Matches (fun value last => ∃ other, related value other ∧ next other last) third := by
  intro name
  have both := same name
  have others := after name
  generalize left.get? name = value at both ⊢
  generalize right.get? name = other at both others
  generalize third.get? name = last at others ⊢
  cases both with
  | some isRelated =>
    cases others with
    | some isNext => exact .some ⟨_, isRelated, isNext⟩
  | none =>
    cases others with
    | none => exact .none

theorem Table.Matches.imp {related' : Value → Other → Prop} (same : left.Matches related right)
    (weaker : ∀ value other, related value other → related' value other) :
    left.Matches related' right := by
  intro name
  have both := same name
  generalize left.get? name = value at both ⊢
  generalize right.get? name = other at both ⊢
  cases both with
  | some isRelated => exact .some (weaker _ _ isRelated)
  | none => exact .none

end

/-! ### What counts -/

/-- Conditions that weigh the same and offer the same values, in one order, for the same weights. -/
structure Condition.CountsAs (left right : Condition) : Prop where
  weight : left.weight = right.weight
  choices : (left.choices.map fun choice => (choice.value, choice.weight)) =
    right.choices.map fun choice => (choice.value, choice.weight)

/-- Scenarios with conditions that count the same under the same keys, and the same outcomes. -/
structure Scenario.CountsAs (left right : Scenario) : Prop where
  conditions : left.conditions.Matches Condition.CountsAs right.conditions
  outcomes : left.outcomes = right.outcomes

/-- Answers of one kind whose values agree. -/
structure Answer.CountsAs (left right : Answer) : Prop where
  kind : left.kind = right.kind
  value : left.value.Agrees right.value

theorem Json.Agrees.swap {left right : Json} (agrees : left.Agrees right) : right.Agrees left :=
  agrees.imp Eq.symm And.symm

theorem Condition.CountsAs.swap {left right : Condition} (counts : left.CountsAs right) :
    right.CountsAs left := ⟨counts.weight.symm, counts.choices.symm⟩

theorem Answer.CountsAs.swap {left right : Answer} (counts : left.CountsAs right) :
    right.CountsAs left := ⟨counts.kind.symm, counts.value.swap⟩

theorem Scenario.CountsAs.swap {left right : Scenario} (counts : left.CountsAs right) :
    right.CountsAs left :=
  ⟨counts.conditions.swap.imp fun _ _ => Condition.CountsAs.swap, counts.outcomes.symm⟩

/-! ### The worth of an answer -/

/-- The weight of the choice that is named depends on the values and the weights alone. -/
theorem Condition.CountsAs.named {left right : Condition} (counts : left.CountsAs right)
    (text : String) :
    (left.choices.find? fun choice => choice.answers text).map Choice.weight =
      (right.choices.find? fun choice => choice.answers text).map Choice.weight := by
  have told (choices : List Choice) :
      (choices.find? fun choice => choice.answers text).map Choice.weight =
        ((choices.map fun choice => (choice.value, choice.weight)).find? fun pair =>
          Choice.answers ⟨pair.1, .null, pair.2⟩ text).map Prod.snd := by
    rw [List.find?_map, Option.map_map]
    rfl
  rw [told, told, counts.choices]

theorem Condition.weightOf_of_not_text (condition : Condition) {value : Json}
    (noText : ¬ value.IsText) : condition.weightOf value = 0 := by
  cases value
  case str text => exact absurd ⟨text, rfl⟩ noText
  all_goals rfl

theorem Condition.CountsAs.weightOf {left right : Condition} (counts : left.CountsAs right)
    {value other : Json} (agrees : value.Agrees other) :
    left.weightOf value = right.weightOf other := by
  by_cases isText : value.IsText
  · obtain ⟨text, isValue⟩ := isText
    rw [isValue, (agrees.eq_str_iff text).mp isValue]
    exact congrArg (·.getD 0) (counts.named text)
  · have noText : ¬ other.IsText := fun ⟨text, isOther⟩ =>
      isText ⟨text, (agrees.eq_str_iff text).mpr isOther⟩
    rw [left.weightOf_of_not_text isText, right.weightOf_of_not_text noText]

theorem Condition.CountsAs.worth {left right : Condition} (counts : left.CountsAs right)
    {answer other : Answer} (alike : answer.CountsAs other) :
    left.worth answer = right.worth other := by
  unfold Condition.worth
  rw [alike.kind, alike.value.isNull, alike.value.truthy, counts.weight,
    counts.weightOf alike.value]

theorem Answer.CountsAs.unspeakable {answer other : Answer} (alike : answer.CountsAs other)
    (unspeakable : answer.Unspeakable) : other.Unspeakable := by
  rwa [Answer.Unspeakable, alike.kind, alike.value.hasLongNumber] at unspeakable

namespace Scenario.CountsAs

variable {left right : Scenario} (counts : left.CountsAs right) {answers others : Table Answer}
  (alike : answers.Matches Answer.CountsAs others)

include counts alike

theorem mem_worths {entry : String × Float} (member : entry ∈ left.worths answers.sorted) :
    entry ∈ right.worths others.sorted := by
  obtain ⟨key, weight⟩ := entry
  rw [Scenario.mem_worths] at member ⊢
  obtain ⟨answer, condition, isAnswer, isCondition, rfl⟩ := member
  obtain ⟨other, isOther, sameAnswer⟩ := alike.exists_right isAnswer
  obtain ⟨twin, isTwin, sameCondition⟩ := counts.conditions.exists_right isCondition
  exact ⟨other, twin, isOther, isTwin, sameCondition.worth sameAnswer⟩

/-- Both lists ascend by their keys, so they are equal if they have the same entries. -/
theorem worths : left.worths answers.sorted = right.worths others.sorted := by
  have ascending (scenario : Scenario) (given : Table Answer) :
      (scenario.worths given.sorted).Pairwise fun first second => first.1 < second.1 :=
    List.pairwise_map.mp (given.sorted_ascending.sublist (scenario.names_worths given.sorted))
  have distinct (scenario : Scenario) (given : Table Answer) :
      (scenario.worths given.sorted).Nodup :=
    (ascending scenario given).imp fun below same => below.ne (congrArg Prod.fst same)
  have perm : (left.worths answers.sorted).Perm (right.worths others.sorted) := by
    refine (List.perm_ext_iff_of_nodup (distinct _ _) (distinct _ _)).mpr fun entry => ?_
    exact ⟨counts.mem_worths alike,
      counts.swap.mem_worths (alike.swap.imp fun _ _ => Answer.CountsAs.swap)⟩
  refine perm.eq_of_pairwise ?_ (ascending left answers) (ascending right others)
  exact fun _ _ _ _ below above => absurd above below.asymm

theorem stumped (isStumped : left.Stumped answers) : right.Stumped others := by
  obtain ⟨⟨key, answer⟩, present, known, unspeakable⟩ := isStumped
  obtain ⟨condition, isCondition⟩ := Option.isSome_iff_exists.mp known
  obtain ⟨other, isOther, sameAnswer⟩ :=
    alike.exists_right ((answers.mem_entries key answer).mp present)
  obtain ⟨twin, isTwin, -⟩ := counts.conditions.exists_right isCondition
  exact ⟨(key, other), (others.mem_entries key other).mpr isOther,
    Option.isSome_iff_exists.mpr ⟨twin, isTwin⟩, sameAnswer.unspeakable unspeakable⟩

/-- Answers that count the same are signalled the same. -/
theorem evaluate (leftTexts : left.OfTexts) (rightTexts : right.OfTexts)
    {replies replies' : Replies} (isRead : replies.read = .ok answers)
    (isRead' : replies'.read = .ok others) :
    ∃ signal, (MarketSignal.evaluate (.scenario left) replies).Yields (.ok signal) ∧
      (MarketSignal.evaluate (.scenario right) replies').Yields (.ok signal) := by
  by_cases isStumped : left.Stumped answers
  · exact ⟨_, evaluate_stumped left leftTexts replies answers isRead isStumped,
      evaluate_stumped right rightTexts replies' others isRead' (counts.stumped alike isStumped)⟩
  · have plain : ¬ right.Stumped others := fun stumped =>
      isStumped (counts.swap.stumped (alike.swap.imp fun _ _ => Answer.CountsAs.swap) stumped)
    refine ⟨_, evaluate_yields left leftTexts replies answers isRead isStumped, ?_⟩
    have yields := evaluate_yields right rightTexts replies' others isRead' plain
    rw [← counts.worths alike] at yields
    unfold Scenario.signalFor at yields ⊢
    rwa [← counts.outcomes] at yields

end Scenario.CountsAs

/-! ### Answers as they are given -/

namespace GivenAnswer

/-- The kind of an answer, as it is read. -/
def kind : GivenAnswer → Except Fault String
  | .known answer => .ok answer.kind
  | .plain value => readText (kindMember value)

/-- The value of an answer. -/
def value : GivenAnswer → Json
  | .known answer => answer.value
  | .plain value => value.member "value"

/-- Answers of one kind whose values agree. -/
structure Agrees (left right : GivenAnswer) : Prop where
  kind : left.kind = right.kind
  value : left.value.Agrees right.value

/-- Something other than its kind and its value keeps an answer from being read. -/
inductive Burdened : GivenAnswer → Prop where
  | shapeless {value : Json} (noObject : ∀ members, value ≠ .obj members) : Burdened (.plain value)
  | label {value : Json} (long : (value.member "label").hasLongNumber = true) :
    Burdened (.plain value)
  | weight {value : Json} (beyond : (value.member "weight").BeyondRange) : Burdened (.plain value)

end GivenAnswer

theorem short_of_readText {value : Json} {text : String} (isText : readText value = .ok text) :
    value.hasLongNumber = false := by
  unfold readText at isText
  split at isText
  · rfl
  · by_contra long
    rw [value.display_failsExactly.fails (Bool.eq_true_of_not_eq_false long)] at isText
    cases isText

/-- A value is read as an answer member by member. -/
theorem Answer.read_eq_ok_iff (value : Json) (answer : Answer) :
    Answer.read value = .ok answer ↔
      (∃ members, value = .obj members) ∧
        ∃ label, readText (value.member "label") = .ok label ∧ answer.label = .str label ∧
          readText (kindMember value) = .ok answer.kind ∧ answer.value = value.member "value" ∧
          readWeight (value.member "weight") = .ok answer.weight := by
  constructor
  · intro isRead
    obtain ⟨members, isObject, isRead⟩ := bind_eq_ok isRead
    obtain ⟨label, isLabel, isRead⟩ := bind_eq_ok isRead
    obtain ⟨kind, isKind, isRead⟩ := bind_eq_ok isRead
    obtain ⟨weight, isWeight, isRead⟩ := bind_eq_ok isRead
    cases isRead
    refine ⟨⟨members, ?_⟩, label, isLabel, rfl, isKind, rfl, isWeight⟩
    cases value <;> cases isObject
    rfl
  · rintro ⟨⟨members, rfl⟩, label, isLabel, sameLabel, isKind, sameValue, isWeight⟩
    unfold Answer.read
    rw [isLabel, isKind, isWeight]
    obtain ⟨_, _, _, _⟩ := answer
    cases sameLabel
    cases sameValue
    rfl

namespace GivenAnswer

variable {given : GivenAnswer}

/-- What is read has the kind and the value that were given, and is not burdened. -/
theorem of_read {answer : Answer} (isRead : given.read = .ok answer) :
    given.kind = .ok answer.kind ∧ answer.value = given.value ∧ ¬ given.Burdened := by
  cases given with
  | known known =>
    cases isRead
    exact ⟨rfl, rfl, nofun⟩
  | plain value =>
    obtain ⟨⟨members, isObject⟩, label, isLabel, -, isKind, isValue, isWeight⟩ :=
      (Answer.read_eq_ok_iff value answer).mp isRead
    refine ⟨isKind, isValue, ?_⟩
    rintro (noObject | long | beyond)
    · exact noObject members isObject
    · exact absurd long (by simp [short_of_readText isLabel])
    · rw [(readWeight_failsExactly _).fails beyond] at isWeight
      cases isWeight

/-- An answer that is not burdened is read if its kind is. -/
theorem exists_read (light : ¬ given.Burdened) {kind : String} (isKind : given.kind = .ok kind) :
    ∃ answer, given.read = .ok answer := by
  cases given with
  | known answer => exact ⟨answer, rfl⟩
  | plain value =>
    obtain ⟨members, isObject⟩ : ∃ members, value = .obj members := by
      by_contra noObject
      exact light (.shapeless fun members isObject => noObject ⟨members, isObject⟩)
    obtain ⟨label, isLabel⟩ := exists_readText
      (Bool.eq_false_of_not_eq_true fun long => light (.label long))
    obtain ⟨weight, isWeight⟩ := (readWeight_failsExactly (value.member "weight")).succeeds
      fun beyond => light (.weight beyond)
    exact ⟨⟨.str label, kind, value.member "value", weight⟩, (Answer.read_eq_ok_iff _ _).mpr
      ⟨⟨members, isObject⟩, label, isLabel, rfl, isKind, rfl, isWeight⟩⟩

end GivenAnswer

/-- How answers come to be given for an evaluation. -/
inductive Replies.Gives : Replies → Table GivenAnswer → Prop where
  | answers (answers : Table Answer) : Gives (.answers answers) (answers.map .known)
  | plain (values : Table Json) : Gives (.plain (.obj values.entries)) (values.map .plain)
  | each (given : Table GivenAnswer) : Gives (.each given) given

/-- Some answer is burdened. -/
def Burdened (given : Table GivenAnswer) : Prop := ∃ entry ∈ given.entries, entry.2.Burdened

namespace Replies.Gives

variable {replies : Replies} {given : Table GivenAnswer} (gives : replies.Gives given)

include gives

theorem read_eq :
    replies.read = readMembers (fun _ answer => GivenAnswer.read answer) given.entries := by
  cases gives with
  | answers answers =>
    have all := readMembers_map GivenAnswer.known (fun _ answer => answer.read) id answers
      fun _ _ => rfl
    rw [all, Table.map_eq_self id answers fun _ _ => rfl]
    rfl
  | plain values =>
    show Answer.readAll _ = _
    simp only [Answer.readAll, objectMembers, ok_bind, readMembers, Table.map, List.mapM_map]
    rfl
  | each given => rfl

/-- What is read stands under its key. -/
theorem matches_read {answers : Table Answer} (isRead : replies.read = .ok answers) :
    given.Matches (fun item answer => item.read = .ok answer) answers := by
  rw [gives.read_eq] at isRead
  obtain ⟨entries, each, rfl⟩ := (readMembers_eq_ok_iff _ _ _).mp isRead
  have settled : (Table.ofEntries entries).entries = entries :=
    Entries.settle_of_distinct entries ((names_of_isReadAs each).symm ▸ given.distinct)
  have pairs : List.Forall₂ (fun item entry : String × _ => item.1 = entry.1 ∧
      GivenAnswer.read item.2 = .ok entry.2) given.entries entries :=
    each.imp fun _ _ isReadAs => ⟨isReadAs.1.symm, isReadAs.2⟩
  intro key
  rw [Table.get?, Table.get?, settled]
  exact Entries.get?_of_forall₂ pairs key

/-- All are read if each is. -/
theorem exists_read (each : ∀ entry ∈ given.entries, ∃ answer, entry.2.read = .ok answer) :
    ∃ answers, replies.read = .ok answers := by
  have never : FailsExactly Fault.wrongShape (∃ entry ∈ given.entries, False)
      (given.entries.mapM fun entry => do return (entry.1, ← entry.2.read)) := by
    refine .mapM fun entry present => ⟨False.elim, fun _ => ?_⟩
    obtain ⟨answer, isRead⟩ := each entry present
    rw [isRead]
    exact ⟨(entry.1, answer), rfl⟩
  obtain ⟨entries, areRead⟩ := never.succeeds fun ⟨_, _, no⟩ => no
  refine ⟨Table.ofEntries entries, ?_⟩
  rw [gives.read_eq, readMembers, areRead]
  rfl

end Replies.Gives

/-! ### Two evaluations -/

/-- Answers of which one cannot be read are signalled as a failure. -/
theorem Replies.Gives.evaluate_fails {replies : Replies} {given : Table GivenAnswer}
    (gives : replies.Gives given) {key : String} {answer : GivenAnswer}
    (present : given.get? key = some answer) (unread : ∀ known, answer.read ≠ .ok known)
    (scenario : Scenario) :
    (evaluate (.scenario scenario) replies).Yields (.ok (Signal.failed .internalError)) := by
  cases isRead : replies.read with
  | error fault => exact evaluate_unreadable scenario replies fault isRead
  | ok answers =>
    obtain ⟨known, -, isKnown⟩ := (gives.matches_read isRead).exists_right present
    exact absurd isKnown (unread known)

section

variable {left right : Scenario} (leftTexts : left.OfTexts) (rightTexts : right.OfTexts)
  (counts : left.CountsAs right) {answers others : Table GivenAnswer}
  (agree : answers.Matches GivenAnswer.Agrees others) {replies replies' : Replies}
  (gives : replies.Gives answers) (gives' : replies'.Gives others)

include leftTexts rightTexts counts agree gives gives'

/-- Answers that agree are read to answers that count the same, or the kind of one cannot be read in
either evaluation. -/
theorem evaluate_alike_of_light (light : ¬ Burdened answers) (light' : ¬ Burdened others) :
    ∃ signal, (evaluate (.scenario left) replies).Yields (.ok signal) ∧
      (evaluate (.scenario right) replies').Yields (.ok signal) := by
  by_cases kinds : ∀ entry ∈ answers.entries, ∃ kind, entry.2.kind = .ok kind
  · obtain ⟨known, isRead⟩ := gives.exists_read fun entry present => by
      obtain ⟨kind, isKind⟩ := kinds entry present
      exact GivenAnswer.exists_read (fun burdened => light ⟨entry, present, burdened⟩) isKind
    obtain ⟨known', isRead'⟩ := gives'.exists_read fun entry present => by
      obtain ⟨answer, isAnswer, agrees⟩ :=
        agree.swap.exists_right ((others.mem_entries entry.1 entry.2).mp present)
      obtain ⟨kind, isKind⟩ := kinds _ ((answers.mem_entries entry.1 answer).mpr isAnswer)
      exact GivenAnswer.exists_read (fun burdened => light' ⟨entry, present, burdened⟩)
        (agrees.kind.symm.trans isKind)
    refine counts.evaluate ?_ leftTexts rightTexts isRead isRead'
    have alike := ((gives.matches_read isRead).swap.trans agree).trans (gives'.matches_read isRead')
    refine alike.imp ?_
    rintro answer other ⟨item, ⟨given, isGiven, agrees⟩, isOther⟩
    obtain ⟨kind, value, -⟩ := GivenAnswer.of_read isGiven
    obtain ⟨kind', value', -⟩ := GivenAnswer.of_read isOther
    constructor
    · exact Except.ok.inj (kind.symm.trans (agrees.kind.trans kind'))
    · rw [value, value']
      exact agrees.value
  · push Not at kinds
    obtain ⟨⟨key, answer⟩, present, noKind⟩ := kinds
    have isAnswer := (answers.mem_entries key answer).mp present
    obtain ⟨other, isOther, agrees⟩ := agree.exists_right isAnswer
    refine ⟨_, gives.evaluate_fails isAnswer ?_ left, gives'.evaluate_fails isOther ?_ right⟩
    · exact fun known isRead => noKind _ (GivenAnswer.of_read isRead).1
    · exact fun known isRead => noKind _ (agrees.kind.trans (GivenAnswer.of_read isRead).1)

end

theorem Replies.Gives.evaluate_burdened {replies : Replies} {given : Table GivenAnswer}
    (gives : replies.Gives given) (burdened : Burdened given) (scenario : Scenario) :
    (evaluate (.scenario scenario) replies).Yields (.ok (Signal.failed .internalError)) := by
  obtain ⟨⟨key, answer⟩, present, isBurdened⟩ := burdened
  refine gives.evaluate_fails ((given.mem_entries key answer).mp present) ?_ scenario
  exact fun known isRead => (GivenAnswer.of_read isRead).2.2 isBurdened

/-! ### What an answer cannot change -/

/-- Evaluations of answers that agree in kind and value, against scenarios that count the same, come
to the same signal, whatever else the answers and the scenarios say. The one exception is an answer
that cannot be read for something else that it says; then the signal stands for a failure. What an
answer that names a choice contributes does not depend on the weight of the condition, and what a
tick or a text contributes does not depend on the choices. -/
theorem evaluate_uninfluenced (left right : Scenario) (leftTexts : left.OfTexts)
    (rightTexts : right.OfTexts) (counts : left.CountsAs right) (answers others : Table GivenAnswer)
    (agree : answers.Matches GivenAnswer.Agrees others) (replies replies' : Replies)
    (gives : replies.Gives answers) (gives' : replies'.Gives others) :
    (¬ Burdened answers → ¬ Burdened others →
        ∃ signal, (evaluate (.scenario left) replies).Yields (.ok signal) ∧
          (evaluate (.scenario right) replies').Yields (.ok signal)) ∧
      (Burdened answers →
        (evaluate (.scenario left) replies).Yields (.ok (Signal.failed .internalError))) ∧
      (Burdened others →
        (evaluate (.scenario right) replies').Yields (.ok (Signal.failed .internalError))) ∧
      ∀ (condition : Condition) (key : String) (answer : Answer),
        (answer.kind = "radio" ∨ answer.kind = "select" → ∀ weight,
          ({ condition with weight := weight } : Condition).contribution key answer =
            condition.contribution key answer) ∧
        (answer.kind = "checkbox" ∨ answer.kind = "text" → ∀ choices,
          ({ condition with choices := choices } : Condition).contribution key answer =
            condition.contribution key answer) := by
  refine ⟨evaluate_alike_of_light leftTexts rightTexts counts agree gives gives',
    fun burdened => gives.evaluate_burdened burdened left,
    fun burdened => gives'.evaluate_burdened burdened right, fun condition key answer => ?_⟩
  obtain ⟨label, kind, value, ownWeight⟩ := answer
  constructor
  · rintro (isRadio | isSelect) weight
    · cases isRadio
      rfl
    · cases isSelect
      rfl
  · rintro (isBox | isText) choices
    · cases isBox
      rfl
    · cases isText
      rfl

/-- The scenario with one choice under another name, with other labels and of another kind. -/
def renamedChoice : Scenario :=
  { oneChoice with
    id := "t"
    name := .str "T"
    conditions := Table.ofEntries [("c", ⟨.str "Trend", .text, 0, [⟨.str "a", .str "A", 2⟩]⟩)] }

theorem ofTexts_renamedChoice : renamedChoice.OfTexts where
  values := by
    intro entry present choice member
    cases List.mem_singleton.mp present
    cases List.mem_singleton.mp member
    exact ⟨"a", rfl⟩
  messages := ofTexts_oneChoice.messages

theorem Table.matches_single {Value Other : Type} {related : Value → Other → Prop} {value : Value}
    {other : Other} (isRelated : related value other) (key : String) :
    (Table.ofEntries [(key, value)]).Matches related (Table.ofEntries [(key, other)]) := by
  intro name
  show Option.Rel related (if key = name then some value else none)
    (if key = name then some other else none)
  split
  · exact .some isRelated
  · exact .none

theorem countsAs_renamedChoice : oneChoice.CountsAs renamedChoice := by
  have same : Condition.CountsAs ⟨.str "", .select, 0, [⟨.str "a", .str "", 2⟩]⟩
      ⟨.str "Trend", .text, 0, [⟨.str "a", .str "A", 2⟩]⟩ := ⟨rfl, rfl⟩
  exact ⟨Table.matches_single same "c", rfl⟩

/-- The choice, made by a caller who gives it a weight. -/
def weighing (weight : Int) : Table Json :=
  Table.ofEntries
    [("c", .obj [("kind", .str "select"), ("value", .str "a"), ("weight", .int weight)])]

/-- The choice, made by a caller who gives it a label. -/
def labelling (label : String) : Table Answer :=
  Table.ofEntries [("c", ⟨.str label, "select", .str "a", 0⟩)]

theorem burdened_weighing (weight : Int) :
    Burdened ((weighing weight).map .plain) ↔ floatOfInt? weight = none := by
  constructor
  · rintro ⟨entry, present, burdened⟩
    cases List.mem_singleton.mp present
    cases burdened with
    | shapeless noObject => exact absurd rfl (noObject _)
    | label long => cases long
    | weight beyond =>
      obtain ⟨whole, isWhole, isBeyond⟩ := beyond
      cases isWhole
      exact isBeyond
  · exact fun beyond => ⟨_, List.mem_singleton.mpr rfl, .weight ⟨weight, rfl, beyond⟩⟩

/-- A choice counts the same whatever label or weight comes with it, and whatever the condition says
of itself, unless the weight is too large to be read. -/
theorem evaluate_uninfluenced_choice :
    (∃ signal, (evaluate (.scenario oneChoice) (.answers (labelling "Mine"))).Yields (.ok signal) ∧
        (evaluate (.scenario renamedChoice) (.plain (.obj (weighing 9).entries))).Yields
          (.ok signal)) ∧
      (evaluate (.scenario renamedChoice) (.plain (.obj (weighing (10 ^ 309)).entries))).Yields
        (.ok (Signal.failed .internalError)) := by
  have uninfluenced (weight : Int) := evaluate_uninfluenced oneChoice renamedChoice
    ofTexts_oneChoice ofTexts_renamedChoice countsAs_renamedChoice
    ((labelling "Mine").map .known) ((weighing weight).map .plain)
    (Table.matches_single ⟨rfl, Or.inl rfl⟩ "c") _ _ (.answers _) (.plain _)
  constructor
  · refine (uninfluenced 9).1 ?_ ?_
    · rintro ⟨entry, present, burdened⟩
      cases List.mem_singleton.mp present
      cases burdened
    · rw [burdened_weighing]
      decide +kernel
  · exact (uninfluenced (10 ^ 309)).2.2.1 ((burdened_weighing _).mpr (by decide +kernel))

/-- Two answers that differ in their weight alone may be signalled differently. -/
theorem evaluate_influenced_overweight :
    ((weighing 1).map .plain).Matches GivenAnswer.Agrees ((weighing (10 ^ 309)).map .plain) ∧
      ¬ ∃ signal, (evaluate (.scenario oneChoice) (.plain (.obj (weighing 1).entries))).Yields
          (.ok signal) ∧
        (evaluate (.scenario oneChoice) (.plain (.obj (weighing (10 ^ 309)).entries))).Yields
          (.ok signal) := by
  refine ⟨Table.matches_single ⟨rfl, Or.inl rfl⟩ "c", ?_⟩
  rintro ⟨signal, isSignal, isOther⟩
  have failed := (Replies.Gives.plain (weighing (10 ^ 309))).evaluate_burdened
    ((burdened_weighing _).mpr (by decide +kernel)) oneChoice
  cases (isOther []).symm.trans (failed [])
  obtain ⟨other, yields, signals⟩ := evaluate_signals oneChoice ofTexts_oneChoice
    (.plain (.obj (weighing 1).entries)) _ rfl (by
      rintro ⟨entry, present, -, -, long⟩
      cases List.mem_singleton.mp present
      cases long)
  cases (isSignal []).symm.trans (yields [])
  cases signals.reason

end MarketSignal
