/-
This file proves how the reading of a document fails. A document with flaws is refused for one of
them, unless a flaw is about a value with a whole number that is too long to be put into words. A
document without flaws is read, unless a whole number in the place of a weight or a threshold lies
beyond the floating-point numbers. No document fails in any other way.
-/
import MarketSignal.Proofs.Outcome
import MarketSignal.Document.Book

namespace MarketSignal

/-! ### Flaws in words -/

/-- A flaw whose wording would have to show a whole number that is too long. -/
def Flaw.Unspeakable (flaw : Flaw) : Prop :=
  flaw.found.hasLongNumber = true ∧ ∀ name, flaw.rule ≠ .required name

theorem Json.spell_failsExactly (value : Json) :
    FailsExactly .longNumber (value.hasLongNumber = true) value.spell := by
  unfold Json.spell Json.literal?
  cases value.hasLongNumber
  · exact ⟨fun long => (Bool.false_ne_true long).elim, fun _ => ⟨_, rfl⟩⟩
  · exact ⟨fun _ => rfl, fun short => absurd rfl short⟩

theorem Json.display_failsExactly (value : Json) :
    FailsExactly .longNumber (value.hasLongNumber = true) value.display := by
  unfold Json.display Json.shown?
  cases value.hasLongNumber
  · exact ⟨fun long => (Bool.false_ne_true long).elim, fun _ => ⟨_, rfl⟩⟩
  · exact ⟨fun _ => rfl, fun short => absurd rfl short⟩

theorem Json.spell_str (text : String) : (Json.str text).spell = .ok (Text.quoted text) := by
  rw [Json.spell, Json.literal?, Json.hasLongNumber, if_neg Bool.false_ne_true, Json.literal,
    String.ofList_toList]
  all_goals
    intro _ impossible
    cases impossible

theorem Flaw.detail_failsExactly (flaw : Flaw) :
    FailsExactly .longNumber flaw.Unspeakable flaw.detail := by
  have spelled := flaw.found.spell_failsExactly
  have shows (shown : ∀ name, flaw.rule ≠ .required name) :
      flaw.found.hasLongNumber = true ↔ flaw.Unspeakable := (and_iff_left shown).symm
  unfold Flaw.detail
  cases isRule : flaw.rule with
  | ofKind kinds =>
    exact (spelled.before fun result => ⟨_, rfl⟩).congr (shows (by simp [isRule]))
  | listed texts =>
    exact (spelled.before fun result => ⟨_, rfl⟩).congr (shows (by simp [isRule]))
  | required name =>
    exact ⟨fun unspeakable => absurd isRule (unspeakable.2 name), fun _ => ⟨_, rfl⟩⟩
  | alternative =>
    exact (spelled.before fun result => ⟨_, rfl⟩).congr (shows (by simp [isRule]))

theorem details_failsExactly (flaws : List Flaw) :
    FailsExactly .longNumber (∃ flaw ∈ flaws, flaw.Unspeakable) (flaws.mapM Flaw.detail) :=
  .mapM fun flaw _ => flaw.detail_failsExactly

/-- Some flaw is reported if there is any. -/
theorem exists_firstFlaw (flaws : List Flaw) (some_ : flaws ≠ []) :
    ∃ flaw ∈ flaws, firstFlaw? flaws = some flaw := by
  induction flaws with
  | nil => exact absurd rfl some_
  | cons flaw rest inductionHypothesis =>
    unfold firstFlaw?
    cases isFirst : firstFlaw? rest with
    | none => exact ⟨flaw, List.mem_cons_self, rfl⟩
    | some other =>
      have member : other ∈ rest := by
        cases rest with
        | nil => cases isFirst
        | cons next more =>
          obtain ⟨reported, member, same⟩ := inductionHypothesis (List.cons_ne_nil _ _)
          cases isFirst.symm.trans same
          exact member
      dsimp only
      split
      · exact ⟨other, List.mem_cons_of_mem _ member, rfl⟩
      · exact ⟨flaw, List.mem_cons_self, rfl⟩

section

variable (name : String) (value : Json)

theorem checkDocument_unspeakable (unspeakable : ∃ flaw ∈ documentFlaws value, flaw.Unspeakable) :
    checkDocument name value = .error .longNumber := by
  rw [checkDocument, (details_failsExactly _).fails unspeakable]
  rfl

/-- A document with flaws that can be put into words is refused for the first of them. -/
theorem checkDocument_flawed (flawed : documentFlaws value ≠ [])
    (speakable : ¬ ∃ flaw ∈ documentFlaws value, flaw.Unspeakable) :
    ∃ flaw detail, firstFlaw? (documentFlaws value) = some flaw ∧
      checkDocument name value = .error (.violation name flaw.place.path detail) := by
  obtain ⟨texts, areTexts⟩ := (details_failsExactly _).succeeds speakable
  obtain ⟨flaw, member, isFirst⟩ := exists_firstFlaw _ flawed
  obtain ⟨detail, isDetail⟩ :=
    flaw.detail_failsExactly.succeeds fun long => speakable ⟨flaw, member, long⟩
  refine ⟨flaw, "Schema '" ++ name ++ "' validation error: " ++ detail, isFirst, ?_⟩
  rw [checkDocument, areTexts, ok_bind, isFirst]
  dsimp only
  rw [isDetail]
  rfl

theorem checkDocument_flawless (flawless : documentFlaws value = []) :
    checkDocument name value = .ok () := by
  rw [checkDocument, flawless]
  rfl

end

/-! ### Numbers beyond the range -/

/-- A whole number beyond the floating-point numbers. -/
def Json.BeyondRange (value : Json) : Prop :=
  ∃ whole, value = .int whole ∧ floatOfInt? whole = none

/-- The values that a list or an object is made of. -/
def Json.parts : Json → List Json
  | .arr items => items
  | .obj members => members.map Prod.snd
  | _ => []

/-- What stands for the weights of a condition and of its choices. -/
def conditionNumbers (condition : Json) : List Json :=
  condition.member "weight" :: (condition.member "options").parts.map (Json.member · "weight")

/-- What stands for the weights and thresholds of a scenario. -/
def scenarioNumbers (scenario : Json) : List Json :=
  (scenario.member "conditions").parts.flatMap conditionNumbers ++
    (scenario.member "outputs").parts.map (Json.member · "threshold")

/-- What stands for the weights and thresholds of an object of scenarios. -/
def bookNumbers (scenarios : Json) : List Json := scenarios.parts.flatMap scenarioNumbers

theorem exists_mem_flatMap {Item Part : Type} {items : List Item} {parts : Item → List Part}
    {holds : Part → Prop} :
    (∃ part ∈ items.flatMap parts, holds part) ↔
      ∃ item ∈ items, ∃ part ∈ parts item, holds part := by
  constructor
  · rintro ⟨part, member, isPart⟩
    obtain ⟨item, present, member⟩ := List.mem_flatMap.mp member
    exact ⟨item, present, part, member, isPart⟩
  · rintro ⟨item, present, part, member, isPart⟩
    exact ⟨part, List.mem_flatMap.mpr ⟨item, present, member⟩, isPart⟩

theorem readNumber?_failsExactly (value : Json) :
    FailsExactly .tooLarge value.BeyondRange (readNumber? value) := by
  have inRange (noWhole : ∀ whole, value ≠ .int whole) : ¬ value.BeyondRange := by
    rintro ⟨whole, isWhole, -⟩
    exact noWhole whole isWhole
  unfold readNumber?
  cases value
  case int whole =>
    dsimp only
    cases isNumber : floatOfInt? whole with
    | none => exact ⟨fun _ => rfl, fun inside => absurd ⟨whole, rfl, isNumber⟩ inside⟩
    | some number =>
      refine ⟨?_, fun _ => ⟨_, rfl⟩⟩
      rintro ⟨same, isSame, beyond⟩
      cases isSame
      rw [isNumber] at beyond
      cases beyond
  all_goals exact ⟨fun beyond => absurd beyond (inRange nofun), fun _ => ⟨_, rfl⟩⟩

theorem readWeight_failsExactly (value : Json) :
    FailsExactly .tooLarge value.BeyondRange (readWeight value) :=
  (readNumber?_failsExactly value).before fun _ => ⟨_, rfl⟩

/-! ### What has no flaws -/

theorem isObject_of_flawless {place : Place} {value : Json}
    (flawless : kindFlaws [.object] place value = []) : ∃ members, value = .obj members := by
  cases value
  case obj members => exact ⟨members, rfl⟩
  all_goals cases flawless

theorem Json.member_obj (members : List (String × Json)) (name : String) :
    (Json.obj members).member name = (Entries.get? members name).getD .null := rfl

/-- A member without flaws is missing, or the part that is there has none. -/
theorem flawless_member {members : List (String × Json)} {place : Place} {name : String}
    {flaws : Place → Json → List Flaw}
    (flawless : memberFlaws (.obj members) place name flaws = []) :
    Entries.get? members name = none ∨
      ∃ part, Entries.get? members name = some part ∧
        flaws (place ++ [.member name]) part = [] := by
  unfold memberFlaws at flawless
  cases found : Entries.get? members name with
  | none => exact Or.inl rfl
  | some part =>
    simp only [found] at flawless
    exact Or.inr ⟨part, rfl, flawless⟩

/-- Where a missing member does as well as null, a member without flaws is a value without. -/
theorem flawless_optional {members : List (String × Json)} {place : Place} {name : String}
    {flaws : Place → Json → List Flaw} (null : ∀ place, flaws place .null = [])
    (flawless : memberFlaws (.obj members) place name flaws = []) :
    ∃ place, flaws place ((Json.obj members).member name) = [] := by
  rcases flawless_member flawless with missing | ⟨part, isPart, none⟩
  · refine ⟨place, ?_⟩
    rw [Json.member, missing]
    exact null place
  · refine ⟨place ++ [.member name], ?_⟩
    rw [Json.member, isPart]
    exact none

theorem readText_of_flawless {place : Place} {value : Json}
    (flawless : textFlaws place value = []) : ∃ text, readText value = .ok text := by
  cases value
  case null => exact ⟨"", rfl⟩
  case str text => exact ⟨_, rfl⟩
  all_goals cases flawless

theorem readText_member {members : List (String × Json)} {place : Place} {name : String}
    (flawless : memberFlaws (.obj members) place name textFlaws = []) :
    ∃ text, readText ((Json.obj members).member name) = .ok text := by
  obtain ⟨place, none⟩ := flawless_optional (fun _ => rfl) flawless
  exact readText_of_flawless none

/-- The members of a part that is an object or nothing are read as the values of the part. -/
theorem optionalMembers_of_flawless {flaws : Place → Json → List Flaw} {place : Place}
    {value : Json} (flawless : partsFlaws flaws place value = []) :
    ∃ members, optionalMembers value = .ok members ∧ members.map Prod.snd = value.parts ∧
      ∀ part ∈ value.parts, ∃ place, flaws place part = [] := by
  obtain ⟨ofKind, each⟩ := List.append_eq_nil_iff.mp flawless
  cases value
  case null => exact ⟨[], rfl, rfl, fun part member => absurd member List.not_mem_nil⟩
  case obj members =>
    refine ⟨members, by cases members <;> rfl, rfl, fun part member => ?_⟩
    obtain ⟨entry, present, rfl⟩ := List.mem_map.mp member
    exact ⟨_, List.flatMap_eq_nil_iff.mp each entry present⟩
  all_goals cases ofKind

/-- The items of a part that is a list or nothing are its values. -/
theorem optionalItems_of_flawless {place : Place} {value : Json}
    (flawless : choicesFlaws place value = []) :
    optionalItems value = .ok value.parts ∧
      ∀ part ∈ value.parts, ∃ place, choiceFlaws place part = [] := by
  obtain ⟨ofKind, each⟩ := List.append_eq_nil_iff.mp flawless
  cases value
  case null => exact ⟨rfl, fun part member => absurd member List.not_mem_nil⟩
  case arr items =>
    refine ⟨by cases items <;> rfl, fun part member => ?_⟩
    obtain ⟨index, bound, rfl⟩ := List.mem_iff_getElem.mp member
    refine ⟨_, List.flatMap_eq_nil_iff.mp each (items[index], index) ?_⟩
    exact List.mem_zipIdx_iff_getElem?.mpr (List.getElem?_eq_getElem bound)
  all_goals cases ofKind

/-! ### Reading what has no flaws -/

theorem Choice.read_failsExactly {place : Place} {value : Json}
    (flawless : choiceFlaws place value = []) :
    FailsExactly .tooLarge (value.member "weight").BeyondRange (Choice.read value) := by
  simp only [choiceFlaws, List.append_eq_nil_iff] at flawless
  obtain ⟨⟨⟨isObject, answer⟩, label⟩, -⟩ := flawless
  obtain ⟨members, rfl⟩ := isObject_of_flawless isObject
  obtain ⟨answer, isAnswer⟩ := readText_member answer
  obtain ⟨label, isLabel⟩ := readText_member label
  unfold Choice.read
  refine .after rfl (.after isAnswer (.after isLabel ?_))
  exact (readWeight_failsExactly _).before fun _ => ⟨_, rfl⟩

/-- The kind of a condition without flaws is one of the four. -/
theorem ConditionKind.read_of_flawless {place : Place} {value : Json}
    (flawless : conditionKindFlaws place value = []) :
    value ≠ .null ∧ ∃ kind, ConditionKind.read value = .ok kind := by
  cases value
  case str name =>
    refine ⟨nofun, ?_⟩
    unfold conditionKindFlaws at flawless
    dsimp only at flawless
    split at flawless
    case isTrue listed =>
      obtain ⟨kind, -, rfl⟩ := List.mem_map.mp (List.contains_iff_mem.mp listed)
      refine ⟨kind, ?_⟩
      rw [ConditionKind.read]
      simp only [ConditionKind.ofName?_name]
      rfl
    case isFalse => cases flawless
  all_goals cases flawless

theorem readKind_of_flawless {members : List (String × Json)} {place : Place}
    (named : kindNamedFlaws place (.obj members) = [])
    (type : memberFlaws (.obj members) place "type" conditionKindFlaws = [])
    (kind : memberFlaws (.obj members) place "kind" conditionKindFlaws = []) :
    ∃ kind, ConditionKind.read (kindMember (.obj members)) = .ok kind := by
  unfold kindMember
  rw [Json.member_obj members "type"]
  rcases flawless_member type with missing | ⟨part, isPart, none⟩
  · rw [missing]
    show ∃ kind, ConditionKind.read ((Json.obj members).member "kind") = .ok kind
    rw [Json.member_obj]
    rcases flawless_member kind with alsoMissing | ⟨part, isPart, none⟩
    · simp [kindNamedFlaws, missing, alsoMissing] at named
    · rw [isPart]
      exact (ConditionKind.read_of_flawless none).2
  · obtain ⟨notNull, isKind⟩ := ConditionKind.read_of_flawless none
    rw [isPart]
    cases part
    case null => exact absurd rfl notNull
    all_goals exact isKind

theorem Condition.read_failsExactly {place : Place} {value : Json}
    (flawless : conditionFlaws place value = []) :
    FailsExactly .tooLarge (∃ number ∈ conditionNumbers value, number.BeyondRange)
      (Condition.read value) := by
  simp only [conditionFlaws, List.append_eq_nil_iff] at flawless
  obtain ⟨⟨⟨⟨⟨⟨isObject, named⟩, label⟩, type⟩, kind⟩, -⟩, options⟩ := flawless
  obtain ⟨members, rfl⟩ := isObject_of_flawless isObject
  obtain ⟨kind, isKind⟩ := readKind_of_flawless named type kind
  obtain ⟨label, isLabel⟩ := readText_member label
  obtain ⟨optionsPlace, options⟩ := flawless_optional (fun _ => rfl) options
  obtain ⟨areItems, each⟩ := optionalItems_of_flawless options
  unfold Condition.read
  refine .after rfl (.after isKind (.after isLabel ?_))
  have choices : FailsExactly .tooLarge
      (∃ item ∈ ((Json.obj members).member "options").parts, (item.member "weight").BeyondRange)
      (((Json.obj members).member "options").parts.mapM Choice.read) :=
    .mapM fun item member => Choice.read_failsExactly (each item member).choose_spec
  refine ((readWeight_failsExactly _).bind fun weight =>
    .after areItems (choices.before fun _ => ⟨_, rfl⟩)).congr ?_
  simp only [conditionNumbers, List.mem_cons, exists_eq_or_imp, List.mem_map,
    exists_exists_and_eq_and]

/-- The kind of an outcome without flaws is a text, or nothing. -/
theorem readText_kindMember {members : List (String × Json)} {place : Place}
    (type : memberFlaws (.obj members) place "type" textFlaws = [])
    (kind : memberFlaws (.obj members) place "kind" textFlaws = []) :
    kindMember (.obj members) = .null ∨ ∃ text, kindMember (.obj members) = .str text := by
  have isText {place : Place} {value : Json} (none : textFlaws place value = []) :
      value = .null ∨ ∃ text, value = .str text := by
    cases value
    case null => exact Or.inl rfl
    case str text => exact Or.inr ⟨text, rfl⟩
    all_goals cases none
  obtain ⟨_, type⟩ := flawless_optional (fun _ => rfl) type
  obtain ⟨_, kind⟩ := flawless_optional (fun _ => rfl) kind
  unfold kindMember
  rcases isText type with missing | ⟨text, isText⟩
  · rw [missing]
    exact isText kind
  · rw [isText]
    exact Or.inr ⟨text, rfl⟩

theorem Outcome.read_failsExactly {place : Place} {value : Json}
    (flawless : outcomeFlaws place value = []) :
    FailsExactly .tooLarge (value.member "threshold").BeyondRange (Outcome.read value) := by
  simp only [outcomeFlaws, List.append_eq_nil_iff] at flawless
  obtain ⟨⟨⟨⟨isObject, -⟩, message⟩, type⟩, kind⟩ := flawless
  obtain ⟨members, rfl⟩ := isObject_of_flawless isObject
  obtain ⟨message, isMessage⟩ := readText_member message
  unfold Outcome.read
  refine .after rfl ((readNumber?_failsExactly _).before fun threshold => ?_)
  rw [isMessage, ok_bind]
  rcases readText_kindMember type kind with missing | ⟨text, isText⟩
  · rw [missing]
    exact ⟨_, rfl⟩
  · rw [isText]
    dsimp only
    split
    · exact ⟨_, rfl⟩
    · exact ⟨_, rfl⟩

/-- Reading members into a table fails if reading one of them does. -/
theorem readMembers_failsExactly {Read : Type} {problem : Fault}
    {read : String → Json → Except Fault Read} {members : List (String × Json)} {each : Json → Prop}
    (exactly : ∀ entry ∈ members, FailsExactly problem (each entry.2) (read entry.1 entry.2)) :
    FailsExactly problem (∃ part ∈ members.map Prod.snd, each part) (readMembers read members) := by
  have items : FailsExactly problem (∃ entry ∈ members, each entry.2)
      (members.mapM fun entry => do return (entry.1, ← read entry.1 entry.2)) :=
    .mapM fun entry member => (exactly entry member).before fun _ => ⟨_, rfl⟩
  refine (items.before fun _ => ⟨_, rfl⟩).congr ?_
  simp only [List.mem_map, exists_exists_and_eq_and]

/-- Placing the flaws of conditions does not touch numbers beyond the range. -/
theorem readConditions_failsExactly (id : String) (members : List (String × Json))
    (flawless : ∀ entry ∈ members, ∃ place, conditionFlaws place entry.2 = []) :
    FailsExactly .tooLarge
      (∃ part ∈ members.map Prod.snd, ∃ number ∈ conditionNumbers part, number.BeyondRange)
      (readMembers (fun key item =>
        match Condition.read item with
        | .ok condition => .ok condition
        | .error fault => .error (placedInCondition id key fault)) members) := by
  refine readMembers_failsExactly fun entry member => ?_
  have exactly := Condition.read_failsExactly (flawless entry member).choose_spec
  refine ⟨fun beyond => ?_, fun inside => ?_⟩
  · rw [exactly.fails beyond]
    rfl
  · obtain ⟨condition, isCondition⟩ := exactly.succeeds inside
    rw [isCondition]
    exact ⟨condition, rfl⟩

theorem Scenario.read_failsExactly {place : Place} {id : String} {value : Json}
    (flawless : scenarioFlaws place value = []) :
    FailsExactly .tooLarge (∃ number ∈ scenarioNumbers value, number.BeyondRange)
      (Scenario.read id value) := by
  simp only [scenarioFlaws, List.append_eq_nil_iff] at flawless
  obtain ⟨⟨⟨isObject, name⟩, conditions⟩, outcomes⟩ := flawless
  obtain ⟨members, rfl⟩ := isObject_of_flawless isObject
  obtain ⟨name, isName⟩ := readText_member name
  obtain ⟨_, conditions⟩ := flawless_optional (fun _ => rfl) conditions
  obtain ⟨_, outcomes⟩ := flawless_optional (fun _ => rfl) outcomes
  obtain ⟨conditionMembers, areConditions, sameConditions, eachCondition⟩ :=
    optionalMembers_of_flawless conditions
  obtain ⟨outcomeMembers, areOutcomes, sameOutcomes, eachOutcome⟩ :=
    optionalMembers_of_flawless outcomes
  have readsConditions := readConditions_failsExactly id conditionMembers fun entry member =>
    eachCondition entry.2 (sameConditions ▸ List.mem_map_of_mem member)
  have readsOutcomes : FailsExactly .tooLarge
      (∃ part ∈ outcomeMembers.map Prod.snd, (part.member "threshold").BeyondRange)
      (readMembers (fun _ item => Outcome.read item) outcomeMembers) :=
    readMembers_failsExactly fun entry member => Outcome.read_failsExactly
      (eachOutcome entry.2 (sameOutcomes ▸ List.mem_map_of_mem member)).choose_spec
  unfold Scenario.read
  refine .after rfl (.after areConditions ?_)
  refine (readsConditions.bind fun conditions =>
    .after areOutcomes (readsOutcomes.before fun outcomes => ?_)).congr ?_
  · rw [isName]
    exact ⟨_, rfl⟩
  · rw [sameConditions, sameOutcomes]
    simp only [scenarioNumbers, List.mem_append, or_and_right, exists_or, exists_mem_flatMap,
      List.mem_map, exists_exists_and_eq_and]

/-! ### Documents -/

/-- A document without flaws is read, unless a weight or a threshold lies beyond the range. -/
theorem Book.ofDocument_flawless {document : Json} (flawless : documentFlaws document = []) :
    FailsExactly .tooLarge
      (∃ number ∈ bookNumbers (document.member "scenarios"), number.BeyondRange)
      (Book.ofDocument document) := by
  have parts := flawless
  simp only [documentFlaws, List.append_eq_nil_iff] at parts
  obtain ⟨⟨⟨isObject, present⟩, -⟩, scenarios⟩ := parts
  obtain ⟨members, rfl⟩ := isObject_of_flawless isObject
  rw [Book.ofDocument, checkDocument_flawless grammarName _ flawless, ok_bind, Json.member_obj]
  rcases flawless_member scenarios with missing | ⟨part, isPart, none⟩
  · simp [scenariosPresentFlaws, missing] at present
  · obtain ⟨isObject, each⟩ := List.append_eq_nil_iff.mp none
    obtain ⟨scenarios, rfl⟩ := isObject_of_flawless isObject
    rw [isPart]
    have reads : FailsExactly .tooLarge
        (∃ scenario ∈ scenarios.map Prod.snd,
          ∃ number ∈ scenarioNumbers scenario, number.BeyondRange)
        (readMembers Scenario.read scenarios) :=
      readMembers_failsExactly fun entry member =>
        Scenario.read_failsExactly (List.flatMap_eq_nil_iff.mp each entry member)
    exact .after rfl (reads.congr exists_mem_flatMap.symm)

/-- A document that the reader is not up to: it has a flaw that cannot be put into words, or it has
no flaw but a weight or a threshold beyond the range. -/
def Json.Overwhelming (document : Json) : Prop :=
  (∃ flaw ∈ documentFlaws document, flaw.Unspeakable) ∨
    documentFlaws document = [] ∧
      ∃ number ∈ bookNumbers (document.member "scenarios"), number.BeyondRange

theorem Book.ofDocument_overwhelming {document : Json} (overwhelming : document.Overwhelming) :
    Book.ofDocument document = .error .longNumber ∨
      Book.ofDocument document = .error .tooLarge := by
  rcases overwhelming with unspeakable | ⟨flawless, beyond⟩
  · refine Or.inl ?_
    rw [Book.ofDocument, checkDocument_unspeakable grammarName document unspeakable]
    rfl
  · exact Or.inr ((Book.ofDocument_flawless flawless).fails beyond)

/-- Any other document is read or refused for a flaw. -/
theorem Book.ofDocument_not_overwhelming {document : Json} (bearable : ¬ document.Overwhelming) :
    (∃ book, Book.ofDocument document = .ok book) ∨
      ∃ path detail, Book.ofDocument document = .error (.violation grammarName path detail) := by
  obtain ⟨speakable, inRange⟩ := not_or.mp bearable
  by_cases flawless : documentFlaws document = []
  · exact Or.inl ((Book.ofDocument_flawless flawless).succeeds fun beyond =>
      inRange ⟨flawless, beyond⟩)
  · obtain ⟨flaw, detail, -, isFault⟩ :=
      checkDocument_flawed grammarName document flawless speakable
    refine Or.inr ⟨flaw.place.path, detail, ?_⟩
    rw [Book.ofDocument, isFault]
    rfl

end MarketSignal
