/-
This file proves what a search for issues finds in a book whose texts are texts: blank names,
choices that have the value of a choice before them, choices of conditions that are not answered by
a choice, and outcomes without a threshold. Each of these is reported once, and nothing else is. So
a book has no issues exactly if its scenarios are named, the choices of their conditions can be told
apart and are offered, and their outcomes can be reached.
-/
import MarketSignal.Proofs.Document.Refusal
import MarketSignal.Proofs.Scenario.Textual
import MarketSignal.Scenario.Lint

namespace MarketSignal

/-! ### What is to be found -/

/-- A finding of the search for issues, at its place in the book. -/
inductive Finding where
  | blankName (id : String)
  | repeatedChoice (id key : String) (position : Nat) (text : String)
  | idleChoices (id key : String) (kind : ConditionKind)
  | noThreshold (id key : String)

namespace Finding

/-- The issue that reports a finding. -/
def issue : Finding → String
  | .blankName id => id ++ ": scenario has no name"
  | .repeatedChoice id key _ text =>
    id ++ "." ++ key ++ ": duplicate option value " ++ Text.quoted text
  | .idleChoices id key kind =>
    id ++ "." ++ key ++ ": options are ignored for " ++ kind.name ++ " conditions"
  | .noThreshold id key => id ++ "." ++ key ++ ": output has no threshold"

/-- A choice with the given text stands at a position. -/
def HasText (choices : List Choice) (position : Nat) (text : String) : Prop :=
  ∃ choice, choices[position]? = some choice ∧ choice.value = .str text

/-- What there is to be found in a book. -/
inductive Of (book : Book) : Finding → Prop where
  | blankName {id : String} {scenario : Scenario} {name : String}
    (present : (id, scenario) ∈ Table.entries book) (isName : scenario.name = .str name)
    (blank : Text.trim name = "") : Of book (.blankName id)
  | repeatedChoice {id : String} {scenario : Scenario} {key : String} {condition : Condition}
    {earlier position : Nat} {text : String} (present : (id, scenario) ∈ Table.entries book)
    (asked : (key, condition) ∈ scenario.conditions.entries)
    (chooses : condition.kind = .radio ∨ condition.kind = .select) (before : earlier < position)
    (first : HasText condition.choices earlier text)
    (again : HasText condition.choices position text) :
    Of book (.repeatedChoice id key position text)
  | idleChoices {id : String} {scenario : Scenario} {key : String} {condition : Condition}
    (present : (id, scenario) ∈ Table.entries book)
    (asked : (key, condition) ∈ scenario.conditions.entries)
    (given : condition.kind = .checkbox ∨ condition.kind = .text) (some_ : condition.choices ≠ []) :
    Of book (.idleChoices id key condition.kind)
  | noThreshold {id : String} {scenario : Scenario} {key : String} {outcome : Outcome}
    (present : (id, scenario) ∈ Table.entries book)
    (signals : (key, outcome) ∈ scenario.outcomes.entries) (missing : outcome.threshold = none) :
    Of book (.noThreshold id key)

end Finding

/-- A scenario that leaves nothing to be mended. -/
structure Scenario.Unambiguous (scenario : Scenario) : Prop where
  named : ∀ name, scenario.name = .str name → Text.trim name ≠ ""
  distinct : ∀ entry ∈ scenario.conditions.entries,
    entry.2.kind = .radio ∨ entry.2.kind = .select → (entry.2.choices.map Choice.value).Nodup
  offered : ∀ entry ∈ scenario.conditions.entries,
    entry.2.kind = .checkbox ∨ entry.2.kind = .text → entry.2.choices = []
  reachable : ∀ entry ∈ scenario.outcomes.entries, entry.2.threshold ≠ none

/-! ### The findings one after another -/

/-- The text of a choice. -/
def Choice.text (choice : Choice) : String :=
  match choice.value with
  | .str text => text
  | _ => ""

/-- The texts that stand behind an equal one, with their positions. -/
def repeatedTexts (texts : List String) : List (String × Nat) :=
  texts.zipIdx.filter fun entry => (texts.take entry.2).contains entry.1

/-- The findings in a condition. -/
def Condition.findings (condition : Condition) (id key : String) : List Finding :=
  if condition.kind.offersChoices then
    (repeatedTexts (condition.choices.map Choice.text)).map fun entry =>
      .repeatedChoice id key entry.2 entry.1
  else if condition.choices.isEmpty then [] else [.idleChoices id key condition.kind]

/-- The findings in an outcome. -/
def Outcome.findings (outcome : Outcome) (id key : String) : List Finding :=
  if outcome.threshold.isNone then [.noThreshold id key] else []

/-- The findings in the name of a scenario. -/
def nameFindings (id : String) (name : Json) : List Finding :=
  match name with
  | .str text => if (Text.trim text).isEmpty then [.blankName id] else []
  | _ => []

/-- The findings in a scenario. -/
def Scenario.findings (scenario : Scenario) (id : String) : List Finding :=
  nameFindings id scenario.name ++
    (scenario.conditions.entries.flatMap fun entry => entry.2.findings id entry.1) ++
    scenario.outcomes.entries.flatMap fun entry => entry.2.findings id entry.1

/-- The findings in a book. -/
def Book.findings (book : Book) : List Finding :=
  (Table.entries book).flatMap fun entry => entry.2.findings entry.1

/-! ### The issues report the findings -/

theorem Choice.value_eq_text {choice : Choice} (isText : choice.value.IsText) :
    choice.value = .str choice.text := by
  obtain ⟨text, isText⟩ := isText
  rw [Choice.text, isText]

theorem any_same_text (seen : List String) (text : String) :
    ((seen.map Json.str).any fun value => value.same (.str text)) = seen.contains text := by
  rw [Bool.eq_iff_iff, List.any_eq_true, List.contains_iff_mem]
  constructor
  · rintro ⟨value, member, same⟩
    obtain ⟨known, isKnown, rfl⟩ := List.mem_map.mp member
    rw [Json.same, beq_iff_eq] at same
    exact same ▸ isKnown
  · exact fun member => ⟨.str text, List.mem_map_of_mem member, by rw [Json.same, beq_self_eq_true]⟩

/-- The search goes through the choices with the texts that it has seen, which are those before the
position it is at. -/
theorem repeatedChoices_eq (place : String) (before : List String) (choices : List Choice)
    (texts : ∀ choice ∈ choices, choice.value.IsText) :
    repeatedChoices place (before.reverse.map .str) choices =
      .ok ((((choices.map Choice.text).zipIdx before.length).filter fun entry =>
        ((before ++ choices.map Choice.text).take entry.2).contains entry.1).map fun entry =>
          place ++ ": duplicate option value " ++ Text.quoted entry.1) := by
  induction choices generalizing before with
  | nil => rfl
  | cons choice rest inductionHypothesis =>
    have isText := Choice.value_eq_text (texts choice List.mem_cons_self)
    have others := inductionHypothesis (before ++ [choice.text]) fun other member =>
      texts other (List.mem_cons_of_mem _ member)
    simp only [List.reverse_append, List.reverse_singleton, List.singleton_append, List.map_cons,
      List.length_append, List.length_singleton, List.append_assoc] at others
    have isKey : (!(Json.str choice.text).isKey) = false := rfl
    rw [repeatedChoices, isText, isKey, any_same_text, List.contains_reverse, Json.spell_str,
      others, List.map_cons, List.zipIdx_cons, List.filter_cons, List.take_left]
    cases before.contains choice.text with
    | true => rfl
    | false => rfl

theorem Condition.issues_eq (condition : Condition)
    (texts : ∀ choice ∈ condition.choices, choice.value.IsText) (id key : String) :
    condition.issues (id ++ "." ++ key) = .ok ((condition.findings id key).map Finding.issue) := by
  unfold Condition.issues Condition.findings
  split
  · have each := repeatedChoices_eq (id ++ "." ++ key) [] condition.choices texts
    rw [List.map_map]
    exact each
  · split
    · rfl
    · rfl

theorem Outcome.issues_eq (outcome : Outcome) (id key : String) :
    outcome.issues (id ++ "." ++ key) = (outcome.findings id key).map Finding.issue := by
  unfold Outcome.issues Outcome.findings
  cases outcome.threshold with
  | none => rfl
  | some threshold => rfl

theorem nameIssues_eq (id : String) (name : Json) (isText : name.IsText) :
    nameIssues id name = .ok ((nameFindings id name).map Finding.issue) := by
  obtain ⟨text, rfl⟩ := isText
  unfold nameIssues nameFindings
  dsimp only
  split
  · rfl
  · rfl

theorem flatten_map_issues {Item : Type} (items : List Item) (findings : Item → List Finding) :
    (items.map fun item => (findings item).map Finding.issue).flatten =
      (items.flatMap findings).map Finding.issue := by
  rw [List.map_flatMap, List.flatMap_def]

theorem Scenario.issues_eq (scenario : Scenario) (textual : scenario.Textual) (id : String) :
    scenario.issues id = .ok ((scenario.findings id).map Finding.issue) := by
  have ofConditions : (scenario.conditions.entries.mapM fun entry =>
      entry.2.issues (id ++ "." ++ entry.1)) =
        .ok (scenario.conditions.entries.map fun entry =>
          (entry.2.findings id entry.1).map Finding.issue) := by
    have each := mapM_map_eq_ok (fun entry : String × Condition => entry)
      (fun entry => entry.2.issues (id ++ "." ++ entry.1))
      (fun entry => (entry.2.findings id entry.1).map Finding.issue) scenario.conditions.entries
      fun entry asked => entry.2.issues_eq
        (fun choice member => ((textual.conditions entry asked).choices choice member).value) id _
    rwa [List.map_id'] at each
  have ofOutcomes : (scenario.outcomes.entries.map fun entry =>
      entry.2.issues (id ++ "." ++ entry.1)) =
        scenario.outcomes.entries.map fun entry =>
          (entry.2.findings id entry.1).map Finding.issue :=
    List.map_congr_left fun entry _ => entry.2.issues_eq id entry.1
  rw [Scenario.issues, nameIssues_eq id _ textual.name, ofConditions, ofOutcomes, ok_bind, ok_bind]
  dsimp only
  rw [flatten_map_issues, flatten_map_issues, Scenario.findings, List.map_append, List.map_append]
  rfl

/-- The issues of a book report its findings, one after another. -/
theorem Book.issues_eq (book : Book) (textual : ∀ entry ∈ Table.entries book, entry.2.Textual) :
    book.issues = .ok ((Book.findings book).map Finding.issue) := by
  have each := mapM_map_eq_ok (fun entry : String × Scenario => entry)
    (fun entry => entry.2.issues entry.1)
    (fun entry => (entry.2.findings entry.1).map Finding.issue) (Table.entries book)
    fun entry present => entry.2.issues_eq (textual entry present) entry.1
  rw [List.map_id'] at each
  rw [Book.issues, each, ok_bind, flatten_map_issues]
  rfl

/-! ### The findings are what there is to be found -/

theorem mem_repeatedTexts (texts : List String) (text : String) (position : Nat) :
    (text, position) ∈ repeatedTexts texts ↔
      texts[position]? = some text ∧ ∃ earlier < position, texts[earlier]? = some text := by
  have before : text ∈ texts.take position ↔ ∃ earlier < position, texts[earlier]? = some text := by
    rw [List.mem_iff_getElem?]
    refine exists_congr fun earlier => ?_
    rw [List.getElem?_take, Option.ite_none_right_eq_some]
  rw [repeatedTexts, List.mem_filter, List.mk_mem_zipIdx_iff_getElem?, List.contains_iff_mem,
    before]

theorem getElem?_map_text {choices : List Choice}
    (texts : ∀ choice ∈ choices, choice.value.IsText) (position : Nat) (text : String) :
    (choices.map Choice.text)[position]? = some text ↔ Finding.HasText choices position text := by
  rw [List.getElem?_map, Option.map_eq_some_iff]
  refine exists_congr fun choice => and_congr_right fun stands => ?_
  rw [Choice.value_eq_text (texts choice (List.mem_of_getElem? stands)), Json.str.injEq]

theorem ConditionKind.offersChoices_iff (kind : ConditionKind) :
    kind.offersChoices = true ↔ kind = .radio ∨ kind = .select := by
  cases kind <;> decide

theorem ConditionKind.not_offersChoices_iff (kind : ConditionKind) :
    ¬ kind.offersChoices = true ↔ kind = .checkbox ∨ kind = .text := by
  cases kind <;> decide

/-- What is found in a condition. -/
theorem Condition.mem_findings (condition : Condition)
    (texts : ∀ choice ∈ condition.choices, choice.value.IsText) (id key : String)
    (finding : Finding) :
    finding ∈ condition.findings id key ↔
      (∃ position text, finding = .repeatedChoice id key position text ∧
        (condition.kind = .radio ∨ condition.kind = .select) ∧
        Finding.HasText condition.choices position text ∧
        ∃ earlier < position, Finding.HasText condition.choices earlier text) ∨
      finding = .idleChoices id key condition.kind ∧
        (condition.kind = .checkbox ∨ condition.kind = .text) ∧ condition.choices ≠ [] := by
  have repeats (position : Nat) (text : String) :
      (text, position) ∈ repeatedTexts (condition.choices.map Choice.text) ↔
        Finding.HasText condition.choices position text ∧
          ∃ earlier < position, Finding.HasText condition.choices earlier text := by
    rw [mem_repeatedTexts, getElem?_map_text texts]
    simp only [getElem?_map_text texts]
  rw [← ConditionKind.offersChoices_iff, ← ConditionKind.not_offersChoices_iff, findings]
  by_cases chooses : condition.kind.offersChoices = true
  · rw [if_pos chooses, List.mem_map]
    constructor
    · rintro ⟨⟨text, position⟩, isRepeated, rfl⟩
      exact Or.inl ⟨position, text, rfl, chooses, (repeats position text).mp isRepeated⟩
    · rintro (⟨position, text, rfl, -, isRepeated⟩ | ⟨-, given, -⟩)
      · exact ⟨(text, position), (repeats position text).mpr isRepeated, rfl⟩
      · exact absurd chooses given
  · rw [if_neg chooses]
    constructor
    · intro member
      split at member
      case isTrue none_ => cases member
      case isFalse some_ =>
        exact Or.inr ⟨List.mem_singleton.mp member, chooses, mt List.isEmpty_iff.mpr some_⟩
    · rintro (⟨-, -, -, offers, -⟩ | ⟨rfl, -, some_⟩)
      · exact absurd offers chooses
      · rw [if_neg (mt List.isEmpty_iff.mp some_)]
        exact List.mem_singleton_self _

theorem Outcome.mem_findings (outcome : Outcome) (id key : String) (finding : Finding) :
    finding ∈ outcome.findings id key ↔
      finding = .noThreshold id key ∧ outcome.threshold = none := by
  unfold findings
  cases outcome.threshold with
  | none => exact List.mem_singleton.trans (and_iff_left rfl).symm
  | some threshold => exact iff_of_false List.not_mem_nil (fun both => nomatch both.2)

theorem mem_nameFindings (id : String) (name : Json) (finding : Finding) :
    finding ∈ nameFindings id name ↔
      finding = .blankName id ∧ ∃ text, name = .str text ∧ Text.trim text = "" := by
  unfold nameFindings
  constructor
  · intro member
    split at member
    case h_1 text =>
      split at member
      case isTrue blank =>
        exact ⟨List.mem_singleton.mp member, text, rfl, String.isEmpty_iff.mp blank⟩
      case isFalse => cases member
    case h_2 => cases member
  · rintro ⟨rfl, text, rfl, blank⟩
    dsimp only
    rw [if_pos (String.isEmpty_iff.mpr blank)]
    exact List.mem_singleton_self _

/-- The search finds what there is to be found, and nothing else. -/
theorem Book.mem_findings (book : Book)
    (textual : ∀ entry ∈ Table.entries book, entry.2.Textual) (finding : Finding) :
    finding ∈ Book.findings book ↔ Finding.Of book finding := by
  have texts {id : String} {scenario : Scenario} (present : (id, scenario) ∈ Table.entries book)
      {key : String} {condition : Condition}
      (asked : (key, condition) ∈ scenario.conditions.entries) :
      ∀ choice ∈ condition.choices, choice.value.IsText := fun choice member =>
    (((textual _ present).conditions _ asked).choices choice member).value
  rw [findings, List.mem_flatMap]
  constructor
  · rintro ⟨⟨id, scenario⟩, present, member⟩
    rw [Scenario.findings, List.mem_append, List.mem_append, List.mem_flatMap,
      List.mem_flatMap] at member
    rcases member with (ofName | ⟨⟨key, condition⟩, asked, ofCondition⟩) |
      ⟨⟨key, outcome⟩, signals, ofOutcome⟩
    · obtain ⟨rfl, name, isName, blank⟩ := (mem_nameFindings _ _ _).mp ofName
      exact .blankName present isName blank
    · rcases (condition.mem_findings (texts present asked) id key finding).mp ofCondition with
        ⟨position, text, rfl, chooses, again, earlier, before, first⟩ | ⟨rfl, given, some_⟩
      · exact .repeatedChoice present asked chooses before first again
      · exact .idleChoices present asked given some_
    · obtain ⟨rfl, missing⟩ := (outcome.mem_findings _ _ _).mp ofOutcome
      exact .noThreshold present signals missing
  · intro isOf
    cases isOf with
    | blankName present isName blank =>
      refine ⟨_, present, List.mem_append_left _ (List.mem_append_left _ ?_)⟩
      exact (mem_nameFindings _ _ _).mpr ⟨rfl, _, isName, blank⟩
    | repeatedChoice present asked chooses before first again =>
      refine ⟨_, present, List.mem_append_left _ (List.mem_append_right _ ?_)⟩
      refine List.mem_flatMap.mpr ⟨_, asked, ?_⟩
      exact (Condition.mem_findings _ (texts present asked) _ _ _).mpr
        (Or.inl ⟨_, _, rfl, chooses, again, _, before, first⟩)
    | idleChoices present asked given some_ =>
      refine ⟨_, present, List.mem_append_left _ (List.mem_append_right _ ?_)⟩
      refine List.mem_flatMap.mpr ⟨_, asked, ?_⟩
      exact (Condition.mem_findings _ (texts present asked) _ _ _).mpr
        (Or.inr ⟨rfl, given, some_⟩)
    | noThreshold present signals missing =>
      refine ⟨_, present, List.mem_append_right _ ?_⟩
      exact List.mem_flatMap.mpr ⟨_, signals, (Outcome.mem_findings _ _ _ _).mpr ⟨rfl, missing⟩⟩

/-! ### Nothing is found twice -/

/-- The identity of the scenario that a finding is about. -/
def Finding.id : Finding → String
  | .blankName id => id
  | .repeatedChoice id _ _ _ => id
  | .idleChoices id _ _ => id
  | .noThreshold id _ => id

/-- The key of the condition or outcome that a finding is about. -/
def Finding.key : Finding → String
  | .blankName _ => ""
  | .repeatedChoice _ key _ _ => key
  | .idleChoices _ key _ => key
  | .noThreshold _ key => key

theorem nodup_repeatedTexts (texts : List String) : (repeatedTexts texts).Nodup := by
  have positions : (texts.zipIdx.map Prod.snd).Nodup := by
    rw [List.zipIdx_map_snd]
    exact List.nodup_range'
  exact (List.Nodup.of_map _ positions).filter _

/-- Findings are told apart by the names that they stand under. -/
theorem nodup_findings_of_entries {Value : Type} (table : Table Value)
    (findings : String × Value → List Finding) (name : Finding → String)
    (each : ∀ entry ∈ table.entries, (findings entry).Nodup)
    (own : ∀ entry ∈ table.entries, ∀ finding ∈ findings entry, name finding = entry.1) :
    (table.entries.flatMap findings).Nodup := by
  refine List.nodup_flatMap.mpr ⟨each, ?_⟩
  refine (List.pairwise_map.mp table.distinct).imp_of_mem fun {first second} isFirst isSecond
    differ finding inFirst inSecond => ?_
  have isFirstName := own first isFirst finding inFirst
  exact differ (isFirstName.symm.trans (own second isSecond finding inSecond))

theorem Condition.nodup_findings (condition : Condition) (id key : String) :
    (condition.findings id key).Nodup := by
  unfold findings
  split
  · refine (nodup_repeatedTexts _).map ?_
    rintro ⟨text, position⟩ ⟨other, place⟩ same
    cases same
    rfl
  · split
    · exact List.nodup_nil
    · exact List.nodup_singleton _

theorem Outcome.nodup_findings (outcome : Outcome) (id key : String) :
    (outcome.findings id key).Nodup := by
  unfold findings
  split
  · exact List.nodup_singleton _
  · exact List.nodup_nil

theorem nodup_nameFindings (id : String) (name : Json) : (nameFindings id name).Nodup := by
  unfold nameFindings
  split
  · split
    · exact List.nodup_singleton _
    · exact List.nodup_nil
  · exact List.nodup_nil

section

variable {scenario : Scenario} (textual : scenario.Textual) (id : String)

include textual

/-- A finding in the conditions of a scenario is about the choices of one. -/
theorem Condition.of_mem_findings (entry : String × Condition)
    (asked : entry ∈ scenario.conditions.entries) (finding : Finding)
    (member : finding ∈ entry.2.findings id entry.1) :
    (∃ position text, finding = .repeatedChoice id entry.1 position text) ∨
      finding = .idleChoices id entry.1 entry.2.kind := by
  have texts := fun choice isChoice =>
    ((textual.conditions entry asked).choices choice isChoice).value
  rcases (entry.2.mem_findings texts id entry.1 finding).mp member with
    ⟨position, text, isFinding, -⟩ | ⟨isFinding, -⟩
  · exact Or.inl ⟨position, text, isFinding⟩
  · exact Or.inr isFinding

theorem Scenario.id_of_mem_findings (finding : Finding) (member : finding ∈ scenario.findings id) :
    finding.id = id := by
  rw [findings, List.mem_append, List.mem_append, List.mem_flatMap, List.mem_flatMap] at member
  rcases member with (ofName | ⟨entry, asked, ofCondition⟩) | ⟨entry, -, ofOutcome⟩
  · rw [((mem_nameFindings _ _ _).mp ofName).1]
    rfl
  · rcases Condition.of_mem_findings textual id entry asked finding ofCondition with
      ⟨position, text, rfl⟩ | rfl
    · rfl
    · rfl
  · rw [((entry.2.mem_findings _ _ _).mp ofOutcome).1]
    rfl

theorem Scenario.nodup_findings : (scenario.findings id).Nodup := by
  have ofConditions := nodup_findings_of_entries scenario.conditions
    (fun entry => entry.2.findings id entry.1) Finding.key
    (fun entry _ => entry.2.nodup_findings id entry.1) fun entry asked finding member => by
      rcases Condition.of_mem_findings textual id entry asked finding member with
        ⟨position, text, rfl⟩ | rfl
      · rfl
      · rfl
  have ofOutcomes := nodup_findings_of_entries scenario.outcomes
    (fun entry => entry.2.findings id entry.1) Finding.key
    (fun entry _ => entry.2.nodup_findings id entry.1) fun entry _ finding member => by
      rw [((entry.2.mem_findings _ _ _).mp member).1]
      rfl
  refine ((nodup_nameFindings id _).append ofConditions ?_).append ofOutcomes ?_
  · intro finding inName inConditions
    obtain ⟨entry, asked, inCondition⟩ := List.mem_flatMap.mp inConditions
    obtain ⟨rfl, -⟩ := (mem_nameFindings _ _ _).mp inName
    rcases Condition.of_mem_findings textual id entry asked _ inCondition with
      ⟨position, text, same⟩ | same
    · cases same
    · cases same
  · intro finding inFirst inOutcomes
    obtain ⟨outcome, -, inOutcome⟩ := List.mem_flatMap.mp inOutcomes
    obtain ⟨rfl, -⟩ := (outcome.2.mem_findings _ _ _).mp inOutcome
    rcases List.mem_append.mp inFirst with inName | inConditions
    · cases ((mem_nameFindings _ _ _).mp inName).1
    · obtain ⟨entry, asked, inCondition⟩ := List.mem_flatMap.mp inConditions
      rcases Condition.of_mem_findings textual id entry asked _ inCondition with
        ⟨position, text, same⟩ | same
      · cases same
      · cases same

end

theorem Book.nodup_findings (book : Book)
    (textual : ∀ entry ∈ Table.entries book, entry.2.Textual) : (Book.findings book).Nodup :=
  nodup_findings_of_entries book (fun entry => entry.2.findings entry.1) Finding.id
    (fun entry present => Scenario.nodup_findings (textual entry present) entry.1)
    fun entry present => Scenario.id_of_mem_findings (textual entry present) entry.1

/-! ### Books without issues -/

theorem nodup_values_iff (choices : List Choice)
    (texts : ∀ choice ∈ choices, choice.value.IsText) :
    (choices.map Choice.value).Nodup ↔
      ∀ text earlier position, earlier < position → Finding.HasText choices earlier text →
        ¬ Finding.HasText choices position text := by
  have values : choices.map Choice.value = (choices.map Choice.text).map .str := by
    rw [List.map_map]
    exact List.map_congr_left fun choice member => Choice.value_eq_text (texts choice member)
  rw [values, List.nodup_map_iff fun _ _ => Json.str.inj, List.nodup_iff_getElem?_ne_getElem?]
  simp only [← getElem?_map_text texts]
  constructor
  · intro differ text earlier position before first again
    obtain ⟨inside, -⟩ := List.getElem?_eq_some_iff.mp again
    exact differ earlier position before inside (first.trans again.symm)
  · intro once earlier position before inside same
    have again := List.getElem?_eq_getElem inside
    exact once _ earlier position before (same.trans again) again

/-- Nothing is to be found in a book exactly if nothing is to be mended. -/
theorem Book.unambiguous_iff (book : Book)
    (textual : ∀ entry ∈ Table.entries book, entry.2.Textual) :
    (∀ entry ∈ Table.entries book, entry.2.Unambiguous) ↔ ∀ finding, ¬ Finding.Of book finding := by
  constructor
  · rintro clear finding (⟨present, isName, blank⟩ |
      ⟨present, asked, chooses, before, first, again⟩ | ⟨present, asked, given, some_⟩ |
      ⟨present, signals, missing⟩)
    · exact (clear _ present).named _ isName blank
    · have texts := fun choice isChoice =>
        (((textual _ present).conditions _ asked).choices choice isChoice).value
      exact (nodup_values_iff _ texts).mp ((clear _ present).distinct _ asked chooses) _ _ _ before
        first again
    · exact some_ ((clear _ present).offered _ asked given)
    · exact (clear _ present).reachable _ signals missing
  · rintro nothing ⟨id, scenario⟩ present
    refine ⟨fun name isName blank => nothing _ (.blankName present isName blank), ?_, ?_, ?_⟩
    · rintro ⟨key, condition⟩ asked chooses
      have texts := fun choice isChoice =>
        (((textual _ present).conditions _ asked).choices choice isChoice).value
      refine (nodup_values_iff _ texts).mpr fun text earlier position before first again => ?_
      exact nothing _ (.repeatedChoice present asked chooses before first again)
    · rintro ⟨key, condition⟩ asked given
      by_contra some_
      exact nothing _ (.idleChoices present asked given some_)
    · rintro ⟨key, outcome⟩ signals missing
      exact nothing _ (.noThreshold present signals missing)

theorem Book.issues_eq_nil_iff (book : Book)
    (textual : ∀ entry ∈ Table.entries book, entry.2.Textual) :
    book.issues = .ok [] ↔ ∀ entry ∈ Table.entries book, entry.2.Unambiguous := by
  rw [Book.issues_eq book textual, Except.ok.injEq, List.map_eq_nil_iff,
    List.eq_nil_iff_forall_not_mem, Book.unambiguous_iff book textual]
  exact forall_congr' fun finding => not_congr (Book.mem_findings book textual finding)

end MarketSignal
