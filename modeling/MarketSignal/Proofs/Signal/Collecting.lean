/-
This file proves that the answers collected for a scenario are scored as they were meant. Collecting
looks at the kind of a condition, scoring at the kind of the answer; the two agree, so every
condition contributes once, what it contributes can be told from what was given for it alone, and
nothing else that was given counts. What is collected is a text, a truth value or null, so there is
no answer that cannot be warned about, and an evaluation of collected answers never fails. The
warnings are about choices that were named and are not offered.
-/
import MarketSignal.Proofs.Json.Limit
import MarketSignal.Proofs.Notices
import MarketSignal.Proofs.Signal.Evaluation
import MarketSignal.Signal.Prediction

namespace MarketSignal

/-! ### What is given for a condition -/

/-- What a caller may give: nothing, or values by name. -/
inductive Json.IsGiven : Json → Prop where
  | nothing : IsGiven .null
  | members (members : List (String × Json)) : IsGiven (.obj members)

/-- What is given for the conditions of a scenario can be shown. -/
def Scenario.CanShow (scenario : Scenario) (given : Json) : Prop :=
  ∀ entry ∈ scenario.conditions.entries, ∃ text, (given.member entry.1).display = .ok text

/-- The choice that is named by what is given for a condition. -/
def Condition.named? (condition : Condition) (given : Json) : Option Choice :=
  condition.choices.find? fun choice => choice.answers (String.ofList given.shown)

/-- What a condition contributes for what is given for it. -/
def Condition.worthOfGiven (condition : Condition) (given : Json) : Float :=
  match condition.kind with
  | .checkbox => if given.truthy then condition.weight else 0
  | .text => if given.isNull then 0 else condition.weight
  | .radio => if given.isNull then 0 else ((condition.named? given).map Choice.weight).getD 0
  | .select => if given.isNull then 0 else ((condition.named? given).map Choice.weight).getD 0

/-- What is given names a choice that the condition does not offer. -/
def Condition.Misses (condition : Condition) (given : Json) : Bool :=
  condition.kind.offersChoices && !given.isNull && (condition.named? given).isNone

/-- The warning about a choice that is not offered. -/
def missingChoice (key : String) (given : Json) : Notice :=
  ⟨.warning, "No matching option found for condition '" ++ key ++ "' (value: " ++
    Text.quoted (String.ofList given.shown) ++ ").", none⟩

theorem member_of_isGiven {given : Json} (isGiven : given.IsGiven) (key : String) :
    givenFor given key = .ok (given.member key) := by
  cases isGiven with
  | nothing => rfl
  | members members =>
    cases members with
    | nil => rfl
    | cons first rest => rfl

/-! ### The collected answers -/

/-- The value that is collected for a condition. -/
def Condition.collected (condition : Condition) (given : Json) : Json :=
  match condition.kind, given with
  | .checkbox, value => .bool value.truthy
  | _, .null => .null
  | .text, value => .str (Text.trim (String.ofList value.shown))
  | _, value => .str (String.ofList value.shown)

/-- The answer that is collected for a condition. -/
def Condition.answerTo (condition : Condition) (given : Json) : Answer :=
  ⟨if condition.label.truthy then condition.label else .str unknownLabel, condition.kind.name,
    condition.collected given, condition.weight⟩

/-- The answers that are collected for a scenario. -/
def Scenario.answersTo (scenario : Scenario) (given : Json) : List (String × Answer) :=
  scenario.conditions.entries.map fun entry => (entry.1, entry.2.answerTo (given.member entry.1))

theorem Json.display_eq {value : Json} {text : String} (displayed : value.display = .ok text) :
    text = String.ofList value.shown := by
  unfold Json.display Json.shown? at displayed
  split at displayed
  case h_1 isText =>
    split at isText
    · cases isText
    · cases isText
      cases displayed
      rfl
  case h_2 => cases displayed

/-- A value that holds no number that is too long can be shown. -/
theorem Json.exists_display {value : Json} (short : value.hasLongNumber = false) :
    ∃ text, value.display = .ok text := by
  rw [Json.display, Json.shown?, short]
  exact ⟨_, rfl⟩

/-- What is given for the conditions of a scenario can be shown if none of it is too long. -/
theorem Scenario.canShow_of_short (scenario : Scenario) {given : Json}
    (short : given.hasLongNumber = false) : scenario.CanShow given := fun entry _ =>
  Json.exists_display (Json.short_member short entry.1)

theorem Condition.givenValue_eq (condition : Condition) (given : Json) (text : String)
    (displayed : given.display = .ok text) :
    givenValue condition.kind given = .ok (condition.collected given) := by
  have isShown := Json.display_eq displayed
  subst isShown
  unfold Condition.collected
  cases condition.kind with
  | checkbox => rfl
  | text =>
    cases given
    case null => rfl
    all_goals
      dsimp only [givenValue]
      rw [displayed, ok_bind]
      rfl
  | radio | select =>
    cases given
    case null => rfl
    all_goals
      dsimp only [givenValue]
      rw [displayed, ok_bind]
      rfl

/-- Collecting answers every condition in turn and warns of nothing. -/
theorem Scenario.collect_warns (scenario : Scenario) {given : Json} (isGiven : given.IsGiven)
    (canShow : scenario.CanShow given) :
    (scenario.collect given).Warns (Table.ofEntries (scenario.answersTo given)) [] := by
  have each (entry : String × Condition) (member : entry ∈ scenario.conditions.entries) :
      (do
        let value ← Run.ofExcept (givenFor given entry.1 >>= givenValue entry.2.kind)
        if value.isNull then noteMissing entry.1
        let label := if entry.2.label.truthy then entry.2.label else .str unknownLabel
        return (entry.1, (⟨label, entry.2.kind.name, value, entry.2.weight⟩ : Answer)) :
          Run Journal (String × Answer)).Warns
        (entry.1, entry.2.answerTo (given.member entry.1)) [] := by
    obtain ⟨text, displayed⟩ := canShow entry member
    have isValue : (givenFor given entry.1 >>= givenValue entry.2.kind) =
        .ok (entry.2.collected (given.member entry.1)) := by
      rw [member_of_isGiven isGiven, ok_bind, entry.2.givenValue_eq _ text displayed]
    refine (Run.warns_ofExcept isValue).bind ?_
    show Run.Warns (do
      if (entry.2.collected (given.member entry.1)).isNull then noteMissing entry.1
      return (entry.1, entry.2.answerTo (given.member entry.1))) _ []
    cases (entry.2.collected (given.member entry.1)).isNull with
    | true => exact (Run.warns_note .debug _ (by decide)).bind (Run.warns_pure _)
    | false => exact Run.warns_pure _
  have whole := Run.warns_mapM each
  rw [List.flatMap_eq_nil_iff.mpr fun _ _ => rfl] at whole
  exact whole.bind_pure rfl

/-! ### Scoring collected answers -/

theorem Condition.collected_choice (condition : Condition) (given : Json)
    (offers : condition.kind.offersChoices = true) (present : given.isNull = false) :
    condition.collected given = .str (String.ofList given.shown) := by
  unfold Condition.collected
  cases isKind : condition.kind with
  | checkbox | text =>
    rw [isKind] at offers
    cases offers
  | radio | select =>
    cases given
    case null => cases present
    all_goals rfl

/-- A choice that is named weighs what it weighs; of one that is not offered there is a warning. -/
theorem Condition.choiceWeight_warns (condition : Condition)
    (texts : ∀ choice ∈ condition.choices, choice.value.IsText) (key : String) (given : Json) :
    (condition.choiceWeight key (.str (String.ofList given.shown))).Warns
      (((condition.named? given).map Choice.weight).getD 0)
      (if (condition.named? given).isNone then [missingChoice key given] else []) := by
  have found : (condition.choices.find? fun choice =>
      choice.value.same (.str (String.ofList given.shown))) = condition.named? given :=
    condition.find?_same texts _
  unfold Condition.choiceWeight
  rw [found]
  cases condition.named? given with
  | some choice => exact Run.warns_pure choice.weight
  | none =>
    exact (Run.warns_ofExcept (Json.spell_str _)).bind
      ((Run.warns_warning _).bind (Run.warns_pure 0))

/-- The kind of a collected answer is that of its condition, so the condition decides how an answer
that is not missing is scored. -/
theorem Condition.contribution_answerTo (condition : Condition) (key : String) (given : Json)
    (present : (condition.collected given).isNull = false) :
    condition.contribution key (condition.answerTo given) =
      match condition.kind with
      | .radio => condition.choiceWeight key (condition.collected given)
      | .select => condition.choiceWeight key (condition.collected given)
      | .checkbox => return if (condition.collected given).truthy then condition.weight else 0
      | .text => return condition.weight := by
  unfold Condition.contribution Condition.answerTo
  dsimp only
  rw [present, ConditionKind.ofName?_name]
  cases condition.kind <;> rfl

theorem Condition.contribution_missing (condition : Condition) (key : String) (given : Json)
    (missing : (condition.collected given).isNull = true) :
    (condition.contribution key (condition.answerTo given)).Warns 0 [] := by
  unfold Condition.contribution Condition.answerTo
  dsimp only
  rw [missing]
  exact (Run.warns_note .debug _ (by decide)).bind (Run.warns_pure 0)

/-- Only what is not given at all is collected as null, and not even that for a box. -/
theorem Condition.isNull_collected (condition : Condition) (given : Json) :
    (condition.collected given).isNull = (given.isNull && condition.kind != .checkbox) := by
  unfold Condition.collected
  cases condition.kind <;> cases given <;> rfl

/-- A collected answer contributes what was given for it is worth, and there is a warning if a
choice was named that is not offered. -/
theorem Condition.contribution_warns (condition : Condition)
    (texts : ∀ choice ∈ condition.choices, choice.value.IsText) (key : String) (given : Json) :
    (condition.contribution key (condition.answerTo given)).Warns (condition.worthOfGiven given)
      (if condition.Misses given then [missingChoice key given] else []) := by
  have isNull := condition.isNull_collected given
  have chosen (offers : condition.kind.offersChoices = true) (present : given.isNull = false) :
      (condition.choiceWeight key (condition.collected given)).Warns
        (((condition.named? given).map Choice.weight).getD 0)
        (if (condition.named? given).isNone then [missingChoice key given] else []) := by
    rw [condition.collected_choice given offers present]
    exact condition.choiceWeight_warns texts key given
  have scored := condition.contribution_answerTo key given
  have missing := condition.contribution_missing key given
  unfold Condition.worthOfGiven Condition.Misses
  cases isKind : condition.kind with
  | checkbox =>
    have isBox : condition.collected given = .bool given.truthy := by
      unfold Condition.collected
      rw [isKind]
    rw [isKind, isBox] at scored
    rw [scored rfl]
    exact Run.warns_pure _
  | text | radio | select =>
    rw [isKind] at isNull chosen scored
    replace isNull := isNull.trans (Bool.and_true _)
    cases nothing : given.isNull with
    | true => exact missing (isNull.trans nothing)
    | false =>
      rw [scored (isNull.trans nothing)]
      first | exact chosen rfl nothing | exact Run.warns_pure _

/-! ### The score of what was given -/

theorem Scenario.contributions_warns (scenario : Scenario) (texts : scenario.OfTexts) (given : Json)
    (entries : List (String × Condition))
    (known : ∀ entry ∈ entries, scenario.conditions.get? entry.1 = some entry.2) :
    (scenario.contributions
        (entries.map fun entry => (entry.1, entry.2.answerTo (given.member entry.1)))).Warns
      (entries.map fun entry => (entry.1, entry.2.worthOfGiven (given.member entry.1)))
      ((entries.filter fun entry => entry.2.Misses (given.member entry.1)).map fun entry =>
        missingChoice entry.1 (given.member entry.1)) := by
  induction entries with
  | nil => exact Run.warns_pure []
  | cons entry rest inductionHypothesis =>
    obtain ⟨key, condition⟩ := entry
    have here : scenario.conditions.get? key = some condition := known _ List.mem_cons_self
    have first := condition.contribution_warns
      (texts.values _ (Entries.mem_of_get? _ _ _ here)) key (given.member key)
    have others := inductionHypothesis fun other member =>
      known other (List.mem_cons_of_mem _ member)
    rw [List.map_cons, Scenario.contributions, here, List.filter_cons]
    by_cases misses : condition.Misses (given.member key) = true
    · rw [if_pos misses] at first ⊢
      exact first.bind (others.bind_pure rfl)
    · rw [if_neg misses] at first ⊢
      exact first.bind (others.bind_pure rfl)

/-- A table that is changed entry by entry is sorted as it was. -/
theorem Table.sorted_ofEntries {Value Other : Type} (table : Table Value)
    (change : String × Value → Other) :
    (Table.ofEntries (table.entries.map fun entry => (entry.1, change entry))).sorted =
      table.sorted.map fun entry => (entry.1, change entry) := by
  have names : Entries.names (table.entries.map fun entry => (entry.1, change entry)) =
      table.names := by
    simp only [Entries.names, List.map_map]
    rfl
  have settled :
      (Table.ofEntries (table.entries.map fun entry => (entry.1, change entry))).entries =
        table.entries.map fun entry => (entry.1, change entry) :=
    Entries.settle_of_distinct _ (names ▸ table.distinct)
  rw [Table.sorted, Table.sorted, settled]
  refine (List.map_mergeSort ?_).symm
  exact fun _ _ _ _ => rfl

/-- What the conditions of a scenario contribute for what is given, in the order of the keys. -/
def Scenario.worthsOfGiven (scenario : Scenario) (given : Json) : List (String × Float) :=
  scenario.conditions.sorted.map fun entry => (entry.1, entry.2.worthOfGiven (given.member entry.1))

/-- The warnings about choices that are not offered, in the order of the keys. -/
def Scenario.missingChoices (scenario : Scenario) (given : Json) : List Notice :=
  (scenario.conditions.sorted.filter fun entry => entry.2.Misses (given.member entry.1)).map
    fun entry => missingChoice entry.1 (given.member entry.1)

theorem Scenario.score_warns (scenario : Scenario) (texts : scenario.OfTexts) (given : Json) :
    (scenario.score (Table.ofEntries (scenario.answersTo given))).Warns
      (total (scenario.worthsOfGiven given), Table.ofEntries (scenario.worthsOfGiven given))
      (scenario.missingChoices given) := by
  have scored := scenario.contributions_warns texts given scenario.conditions.sorted
    fun entry member => (scenario.conditions.mem_entries _ _).mp
      ((scenario.conditions.mem_sorted _).mp member)
  unfold Scenario.score Scenario.answersTo
  rw [Table.sorted_ofEntries]
  exact scored.bind_pure rfl

theorem Scenario.signal_warns (scenario : Scenario) (texts : scenario.OfTexts) (score : Float)
    (contributions : Table Float) :
    (scenario.signal score contributions).Warns (scenario.signalFor score contributions) [] := by
  unfold Scenario.signal Scenario.signalFor
  cases selected : selectOutcome scenario.outcomes score with
  | none => exact (Run.warns_note .info _ (by decide)).bind (Run.warns_pure _)
  | some entry =>
    obtain ⟨key, outcome⟩ := entry
    obtain ⟨text, isText⟩ := texts.messages _ (mem_of_selectOutcome _ _ _ selected)
    dsimp only at isText ⊢
    rw [isText]
    refine (Run.warns_ofExcept (Json.display_str text)).bind ?_
    exact (Run.warns_note .info _ (by decide)).bind (Run.warns_pure _)

theorem Scenario.evaluate_answersTo (scenario : Scenario) (texts : scenario.OfTexts)
    (given : Json) :
    (scenario.evaluate (.answers (Table.ofEntries (scenario.answersTo given)))).Warns
      (scenario.signalFor (total (scenario.worthsOfGiven given))
        (Table.ofEntries (scenario.worthsOfGiven given)))
      (scenario.missingChoices given) := by
  have scored : (do
      let answers ← Run.ofExcept (Replies.answers (Table.ofEntries (scenario.answersTo given))).read
      return some (← scenario.score answers) :
        Run Journal (Option (Float × Table Float))).Warns
      (some (total (scenario.worthsOfGiven given), Table.ofEntries (scenario.worthsOfGiven given)))
      (scenario.missingChoices given) :=
    (Run.warns_ofExcept rfl).bind ((scenario.score_warns texts given).bind_pure rfl)
  rw [← List.append_nil (scenario.missingChoices given)]
  exact (scored.tryCatch fun _ => return none).bind (scenario.signal_warns texts _ _)

/-- Collects the answers to a scenario and evaluates them. -/
def Scenario.assess (scenario : Scenario) (given : Json) : Run Journal Signal := do
  MarketSignal.evaluate (.scenario scenario) (.answers (← scenario.collect given))

theorem Scenario.assess_warns (scenario : Scenario) (texts : scenario.OfTexts) {given : Json}
    (isGiven : given.IsGiven) (canShow : scenario.CanShow given) :
    (scenario.assess given).Warns
      (scenario.signalFor (total (scenario.worthsOfGiven given))
        (Table.ofEntries (scenario.worthsOfGiven given)))
      (scenario.missingChoices given) :=
  (scenario.collect_warns isGiven canShow).bind (scenario.evaluate_answersTo texts given)

/-- Every condition is scored once by what was given for it. -/
structure Scenario.ScoresGiven (scenario : Scenario) (given : Json) (signal : Signal) : Prop where
  reason : signal.reason = none
  keys : signal.contributions.names.Perm scenario.conditions.names
  ascending : signal.contributions.names.Pairwise (· < ·)
  contributions : ∀ key condition, scenario.conditions.get? key = some condition →
    signal.contributions.get? key = some (condition.worthOfGiven (given.member key))
  score : signal.score = signal.contributions.values.foldl (· + ·) 0

theorem Scenario.names_worthsOfGiven (scenario : Scenario) (given : Json) :
    Entries.names (scenario.worthsOfGiven given) = Entries.names scenario.conditions.sorted := by
  simp only [worthsOfGiven, Entries.names, List.map_map]
  rfl

/-- The contributions as a table, in which none is lost. -/
theorem Scenario.entries_worthsOfGiven (scenario : Scenario) (given : Json) :
    (Table.ofEntries (scenario.worthsOfGiven given)).entries = scenario.worthsOfGiven given := by
  refine Entries.settle_of_distinct _ ?_
  rw [scenario.names_worthsOfGiven]
  exact scenario.conditions.sorted_ascending.imp ne_of_lt

theorem Scenario.scoresGiven_signalFor (scenario : Scenario) (given : Json) :
    scenario.ScoresGiven given
      (scenario.signalFor (total (scenario.worthsOfGiven given))
        (Table.ofEntries (scenario.worthsOfGiven given))) := by
  have entries := scenario.entries_worthsOfGiven given
  have names : (Table.ofEntries (scenario.worthsOfGiven given)).names =
      Entries.names scenario.conditions.sorted := by
    rw [Table.names, entries, scenario.names_worthsOfGiven]
  obtain ⟨score, contributions, reason⟩ := scenario.signalFor_parts
    (total (scenario.worthsOfGiven given)) (Table.ofEntries (scenario.worthsOfGiven given))
  refine ⟨reason, ?_, ?_, fun key condition known => ?_, ?_⟩
  · rw [contributions, names]
    exact (List.mergeSort_perm _ _).map Prod.fst
  · rw [contributions, names]
    exact scenario.conditions.sorted_ascending
  · rw [contributions, ← Table.mem_entries, entries]
    refine List.mem_map.mpr ⟨(key, condition), ?_, rfl⟩
    exact (scenario.conditions.mem_sorted _).mpr ((scenario.conditions.mem_entries _ _).mpr known)
  · rw [score, contributions, Table.values, entries, List.foldl_map]
    rfl

/-- What is given for a condition of the scenario names a choice that is not offered. -/
def Scenario.Misses (scenario : Scenario) (given : Json) (key : String) : Bool :=
  match scenario.conditions.get? key with
  | some condition => condition.Misses (given.member key)
  | none => false

/-- The warnings are about the keys for which a choice is missed. -/
theorem Scenario.missingChoices_eq (scenario : Scenario) (given : Json) :
    scenario.missingChoices given =
      ((Entries.names scenario.conditions.sorted).filter (scenario.Misses given)).map fun key =>
        missingChoice key (given.member key) := by
  have same (entry : String × Condition) (member : entry ∈ scenario.conditions.sorted) :
      entry.2.Misses (given.member entry.1) = scenario.Misses given entry.1 := by
    have known : scenario.conditions.get? entry.1 = some entry.2 :=
      (scenario.conditions.mem_entries _ _).mp ((scenario.conditions.mem_sorted _).mp member)
    rw [Scenario.Misses, known]
  rw [missingChoices, List.filter_congr same, Entries.names, List.filter_map, List.map_map]
  rfl

/-- What is given under other names is passed over. -/
theorem Scenario.collect_congr (scenario : Scenario) {given other : Json}
    (isGiven : given.IsGiven) (isOther : other.IsGiven)
    (agree : ∀ key ∈ scenario.conditions.names, other.member key = given.member key) :
    scenario.collect other = scenario.collect given := by
  refine congrArg (· >>= fun entries => pure (Table.ofEntries entries)) ?_
  refine mapM_congr fun entry member => ?_
  dsimp only
  rw [member_of_isGiven isOther, member_of_isGiven isGiven,
    agree entry.1 (List.mem_map_of_mem member)]

/-! ### Predictions -/

/-- What is collected holds no number at all. -/
theorem hasLongNumber_givenValue (kind : ConditionKind) (given value : Json)
    (isValue : givenValue kind given = .ok value) : value.hasLongNumber = false := by
  have shown (change : String → String)
      (isShown : (do return .str (change (← given.display)) : Except Fault Json) = .ok value) :
      value.hasLongNumber = false := by
    obtain ⟨text, -, isText⟩ := bind_eq_ok isShown
    cases isText
    rfl
  cases kind with
  | checkbox =>
    cases isValue
    rfl
  | text =>
    cases given
    case null =>
      cases isValue
      rfl
    all_goals exact shown Text.trim isValue
  | radio | select =>
    cases given
    case null =>
      cases isValue
      rfl
    all_goals exact shown id isValue

/-- There is nothing among collected answers that cannot be warned about. -/
theorem Scenario.collect_plain (scenario : Scenario) (given : Json) :
    (scenario.collect given).AnswersOnly fun answers => ¬ scenario.Stumped answers := by
  have each (entry : String × Condition) :
      (do
        let value ← Run.ofExcept (givenFor given entry.1 >>= givenValue entry.2.kind)
        if value.isNull then noteMissing entry.1
        let label := if entry.2.label.truthy then entry.2.label else .str unknownLabel
        return (entry.1, (⟨label, entry.2.kind.name, value, entry.2.weight⟩ : Answer)) :
          Run Journal (String × Answer)).AnswersOnly
        fun answered => answered.2.value.hasLongNumber = false := by
    have short : (Run.ofExcept (givenFor given entry.1 >>= givenValue entry.2.kind) :
        Run Journal Json).AnswersOnly fun value => value.hasLongNumber = false := by
      refine Run.answersOnly_ofExcept fun value isValue => ?_
      obtain ⟨here, -, isCollected⟩ := bind_eq_ok isValue
      exact hasLongNumber_givenValue entry.2.kind here value isCollected
    refine Run.answersOnly_bind short fun value isShort => ?_
    dsimp only
    cases value.isNull with
    | true =>
      refine Run.answersOnly_bind (Run.answersOnly_anything _) fun _ _ => ?_
      exact Run.answersOnly_pure isShort
    | false => exact Run.answersOnly_pure isShort
  refine Run.answersOnly_bind (Run.answersOnly_mapM each) fun entries areShort => ?_
  refine Run.answersOnly_pure ?_
  rintro ⟨entry, present, -, -, isLong⟩
  rw [areShort entry (Entries.mem_of_mem_settle entries entry present)] at isLong
  cases isLong

/-- What is found in a table stands in it. -/
theorem Table.mem_of_lookUp {Value : Type} {table : Table Value} {key : Json}
    {entry : String × Value} (found : table.lookUp key = .ok (some entry)) :
    entry ∈ table.entries := by
  cases key with
  | str name =>
    obtain ⟨value, isValue, isEntry⟩ := Option.map_eq_some_iff.mp (Except.ok.inj found)
    exact isEntry ▸ (table.mem_entries name value).mpr isValue
  | null | bool | int | float | arr | obj => cases found

theorem evaluate_absent :
    (evaluate .absent (.answers Table.empty)).Yields (.ok (Signal.failed .scenarioNotFound)) :=
  .bind (Run.yields_note _ _) (Run.yields_pure _)

/-- No prediction is an internal error, whatever is assigned and given. -/
theorem predictMarket_reason (book : Book) (texts : ∀ entry ∈ Table.entries book, entry.2.OfTexts)
    (assignments : Json) (market : String) (given : Json) :
    (predictMarket book assignments market given).AnswersOnly
      fun prediction => prediction.signal.reason ≠ some .internalError := by
  unfold predictMarket
  refine Run.answersOnly_bind (Run.answersOnly_anything _) fun _ _ => ?_
  dsimp only
  by_cases unassigned : (!(assignments.member market).truthy) = true
  · rw [if_pos unassigned]
    exact Run.answersOnly_pure nofun
  rw [if_neg unassigned]
  have found : (Run.ofExcept (Table.lookUp book (assignments.member market)) :
      Run Journal (Option (String × Scenario))).AnswersOnly
        fun found => ∀ entry, found = some entry → entry ∈ Table.entries book := by
    refine Run.answersOnly_ofExcept ?_
    rintro _ isFound entry rfl
    exact Table.mem_of_lookUp isFound
  refine Run.answersOnly_bind found fun entry present => ?_
  cases entry with
  | none =>
    refine Run.answersOnly_bind (Run.answersOnly_anything _) fun _ _ => ?_
    refine Run.answersOnly_bind (Run.answersOnly_anything _) fun _ _ => ?_
    have missing : (evaluate .absent (.answers Table.empty)).AnswersOnly
        fun signal => signal.reason ≠ some .internalError :=
      evaluate_absent.answersOnly (by decide)
    exact Run.answersOnly_bind missing fun _ other => Run.answersOnly_pure other
  | some entry =>
    obtain ⟨key, scenario⟩ := entry
    refine Run.answersOnly_bind (scenario.collect_plain given) fun answers plain => ?_
    have evaluated : (evaluate (.scenario scenario) (.answers answers)).AnswersOnly
        fun signal => signal.reason ≠ some .internalError := by
      refine (evaluate_yields scenario (texts _ (present _ rfl)) (.answers answers) answers rfl
        plain).answersOnly ?_
      rw [(scenario.signalFor_parts _ _).2.2]
      exact nofun
    exact Run.answersOnly_bind evaluated fun _ other => Run.answersOnly_pure other

/-- What is looked up in a table of texts is the text that is there. -/
theorem Json.member_ofTexts (table : Table String) (name : String) :
    (Json.ofTexts table).member name = ((table.get? name).map Json.str).getD .null := by
  rw [Json.ofTexts, Json.member_obj, Entries.get?_map]
  rfl

/-- A market whose assignments go by names is given a prediction. -/
theorem predictMarket_yields (book : Book)
    (texts : ∀ entry ∈ Table.entries book, entry.2.OfTexts) (assignments : Table String)
    (market : String) {given : Json} (isGiven : given.IsGiven)
    (canShow : ∀ entry ∈ Table.entries book, entry.2.CanShow given) :
    ∃ prediction,
      (predictMarket book (.ofTexts assignments) market given).Yields (.ok prediction) := by
  unfold predictMarket
  dsimp only
  by_cases unassigned : (!((Json.ofTexts assignments).member market).truthy) = true
  · rw [if_pos unassigned]
    exact ⟨_, .bind (Run.yields_ofExcept (.ok _)) (Run.yields_pure _)⟩
  rw [if_neg unassigned]
  rw [Json.member_ofTexts] at unassigned ⊢
  rcases Option.eq_none_or_eq_some (assignments.get? market) with nothing | ⟨id, isText⟩
  · rw [nothing] at unassigned
    exact absurd rfl unassigned
  rw [isText, Option.map_some, Option.getD_some]
  obtain ⟨entry, found⟩ : ∃ entry, Table.lookUp book (.str id) = .ok entry := ⟨_, rfl⟩
  rw [found, Json.display_str]
  cases entry with
  | none =>
    refine ⟨⟨market, .str id, Signal.failed .scenarioNotFound⟩, ?_⟩
    refine .bind (Run.yields_ofExcept (.ok _)) (.bind (Run.yields_ofExcept (.ok none)) ?_)
    refine .bind (Run.yields_ofExcept (.ok id)) (.bind (Run.yields_note _ _) ?_)
    exact .bind evaluate_absent (Run.yields_pure _)
  | some entry =>
    obtain ⟨key, scenario⟩ := entry
    have present := Table.mem_of_lookUp found
    refine ⟨⟨market, .str id, scenario.signalFor (total (scenario.worthsOfGiven given))
      (Table.ofEntries (scenario.worthsOfGiven given))⟩, ?_⟩
    refine .bind (Run.yields_ofExcept (.ok _)) (.bind (Run.yields_ofExcept (.ok (some _))) ?_)
    refine .bind (scenario.collect_warns isGiven (canShow _ present)).yields ?_
    exact .bind (scenario.evaluate_answersTo (texts _ present) given).yields (Run.yields_pure _)

/-! ### Collecting and evaluating -/

/-- Collected answers are scored as they were meant: each condition of the scenario contributes
once, in the order of the keys, what was given for it is worth; the warnings are about the choices
that are not offered; and what is given under other names changes nothing. So no prediction is an
internal error, and where everything given can be shown there is one. -/
theorem assess_scores_given (scenario : Scenario) (texts : scenario.OfTexts) (given : Json)
    (isGiven : given.IsGiven) (journal : Journal) :
    (scenario.CanShow given →
      ∃ signal notices,
        (scenario.assess given).outcome journal = (.ok signal, journal ++ notices) ∧
          scenario.ScoresGiven given signal ∧
          Journal.warnings notices =
            (signal.contributions.names.filter (scenario.Misses given)).map fun key =>
              missingChoice key (given.member key)) ∧
      (∀ other : Json, other.IsGiven →
        (∀ key ∈ scenario.conditions.names, other.member key = given.member key) →
        (scenario.assess other).outcome journal = (scenario.assess given).outcome journal) ∧
      ∀ (book : Book) (market : String), (∀ entry ∈ Table.entries book, entry.2.OfTexts) →
        (∀ (assignments : Json) (prediction : Prediction),
          ((predictMarket book assignments market given).outcome journal).1 = .ok prediction →
          prediction.signal.reason ≠ some .internalError) ∧
        ((∀ entry ∈ Table.entries book, entry.2.CanShow given) → ∀ assignments : Table String,
          ∃ prediction, ((predictMarket book (.ofTexts assignments) market given).outcome
            journal).1 = .ok prediction) := by
  refine ⟨fun canShow => ?_, fun other isOther agree => ?_, fun book market areTexts => ⟨?_, ?_⟩⟩
  · obtain ⟨notices, done, warned⟩ := scenario.assess_warns texts isGiven canShow journal
    have scores := scenario.scoresGiven_signalFor given
    refine ⟨_, notices, done, scores, ?_⟩
    have names : (scenario.signalFor (total (scenario.worthsOfGiven given))
        (Table.ofEntries (scenario.worthsOfGiven given))).contributions.names =
          Entries.names scenario.conditions.sorted := by
      rw [(scenario.signalFor_parts _ _).2.1, Table.names, scenario.entries_worthsOfGiven,
        scenario.names_worthsOfGiven]
    rw [warned, names, scenario.missingChoices_eq]
  · rw [Scenario.assess, scenario.collect_congr isGiven isOther agree]
    rfl
  · exact fun assignments prediction =>
      predictMarket_reason book areTexts assignments market given journal prediction
  · intro canShow assignments
    obtain ⟨prediction, yields⟩ :=
      predictMarket_yields book areTexts assignments market isGiven canShow
    exact ⟨prediction, yields journal⟩

/-! ### A scenario with a question of each kind -/

/-- A scenario that asks one question of each kind. -/
def fourQuestions : Scenario :=
  ⟨"s", .str "S",
    Table.ofEntries
      [("d", ⟨.str "", .text, 3, []⟩), ("c", ⟨.str "", .checkbox, 2, []⟩),
        ("b", ⟨.str "", .select, 0, [⟨.str "yes", .str "", 1⟩]⟩),
        ("a", ⟨.str "", .radio, 0, [⟨.str "yes", .str "", 1⟩]⟩)],
    Table.empty⟩

/-- A choice, a number in the place of a choice, a tick, and nothing for the text. -/
def fourReplies : Json :=
  .obj [("a", .str "yes"), ("b", .int 5), ("c", .bool true), ("e", .str "of no concern")]

theorem ofTexts_fourQuestions : fourQuestions.OfTexts where
  values := by
    intro entry present choice member
    fin_cases present
    · exact absurd member List.not_mem_nil
    · exact absurd member List.not_mem_nil
    · exact ⟨"yes", congrArg Choice.value (List.mem_singleton.mp member)⟩
    · exact ⟨"yes", congrArg Choice.value (List.mem_singleton.mp member)⟩
  messages := fun _ present => absurd present List.not_mem_nil

theorem canShow_fourQuestions : fourQuestions.CanShow fourReplies := by
  intro entry present
  refine Json.exists_display ?_
  fin_cases present <;> decide +kernel

/-- The choice and the tick count, the number is warned about, and the text is missing. -/
theorem assess_fourQuestions :
    (∃ signal notices, (fourQuestions.assess fourReplies).outcome [] = (.ok signal, notices) ∧
      signal.reason = none ∧ signal.contributions.names = ["a", "b", "c", "d"] ∧
      signal.contributions.get? "a" = some 1 ∧ signal.contributions.get? "b" = some 0 ∧
      signal.contributions.get? "c" = some 2 ∧ signal.contributions.get? "d" = some 0 ∧
      Journal.warnings notices = [missingChoice "b" (.int 5)]) ∧
      ∃ prediction, ((predictMarket (Table.ofEntries [("s", fourQuestions)])
          (.ofTexts (Table.ofEntries [("m", "s")])) "m" fourReplies).outcome []).1 =
            .ok prediction ∧ prediction.signal.reason ≠ some .internalError := by
  obtain ⟨scored, -, predicted⟩ := assess_scores_given fourQuestions ofTexts_fourQuestions
    fourReplies (.members _) []
  constructor
  · obtain ⟨signal, notices, done, scores, warned⟩ := scored canShow_fourQuestions
    have names : signal.contributions.names = ["a", "b", "c", "d"] := by
      have ordered : ["a", "b", "c", "d"].Pairwise (· < ·) := by decide
      refine (scores.keys.trans (by decide)).eq_of_pairwise ?_ scores.ascending ordered
      exact fun _ _ _ _ below above => absurd above below.asymm
    refine ⟨signal, notices, done, scores.reason, names, scores.contributions "a" _ rfl,
      scores.contributions "b" _ rfl, scores.contributions "c" _ rfl,
      scores.contributions "d" _ rfl, ?_⟩
    rw [warned, names]
    rfl
  · obtain ⟨never, always⟩ := predicted (Table.ofEntries [("s", fourQuestions)]) "m" (by
      intro entry present
      exact List.mem_singleton.mp present ▸ ofTexts_fourQuestions)
    obtain ⟨prediction, answered⟩ := always (by
      intro entry present
      exact List.mem_singleton.mp present ▸ canShow_fourQuestions) (Table.ofEntries [("m", "s")])
    exact ⟨prediction, answered, never _ prediction answered⟩

end MarketSignal
