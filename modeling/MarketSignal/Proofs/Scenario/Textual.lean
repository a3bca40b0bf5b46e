/-
This file says of scenarios whose texts are texts what they are read back as. Where a scenario was
not read but put together by an author, a weight or a threshold may be the number that is none, and
the kind of an outcome may be the empty text. None of these is read: the weight is read back as
zero, the threshold as missing, and the kind too. What is read back is typed, and it is what was
there exactly if nothing of this kind was there.
-/
import MarketSignal.Proofs.Scenario.Typed

namespace MarketSignal

/-! ### Scenarios of texts -/

/-- A choice of texts. -/
structure Choice.Textual (choice : Choice) : Prop where
  value : choice.value.IsText
  label : choice.label.IsText

/-- A condition of texts. -/
structure Condition.Textual (condition : Condition) : Prop where
  label : condition.label.IsText
  choices : ∀ choice ∈ condition.choices, choice.Textual

/-- An outcome of texts. -/
structure Outcome.Textual (outcome : Outcome) : Prop where
  message : outcome.message.IsText
  kind : outcome.kind.IsTextOrNull

/-- A scenario of texts. -/
structure Scenario.Textual (scenario : Scenario) : Prop where
  name : scenario.name.IsText
  conditions : ∀ entry ∈ scenario.conditions.entries, entry.2.Textual
  outcomes : ∀ entry ∈ scenario.outcomes.entries, entry.2.Textual

/-- A book of texts: each scenario stands under its identity. -/
def Book.Textual (book : Book) : Prop :=
  ∀ entry ∈ Table.entries book, entry.2.Textual ∧ entry.2.id = entry.1

theorem Choice.Typed.textual {choice : Choice} (typed : choice.Typed) : choice.Textual :=
  ⟨typed.value, typed.label⟩

theorem Condition.Typed.textual {condition : Condition} (typed : condition.Typed) :
    condition.Textual :=
  ⟨typed.label, fun choice member => (typed.choices choice member).textual⟩

theorem Outcome.Typed.textual {outcome : Outcome} (typed : outcome.Typed) : outcome.Textual :=
  ⟨typed.message, typed.kind.imp_right fun ⟨text, isText, _⟩ => ⟨text, isText⟩⟩

theorem Scenario.Typed.textual {scenario : Scenario} (typed : scenario.Typed) :
    scenario.Textual :=
  ⟨typed.name, fun entry present => (typed.conditions entry present).textual,
    fun entry present => (typed.outcomes entry present).textual⟩

theorem Book.Typed.textual {book : Book} (typed : Book.Typed book) : Book.Textual book :=
  fun entry present => ⟨(typed entry present).1.textual, (typed entry present).2⟩

/-! ### What is read back -/

/-- A weight as it is read back. -/
def weightAsRead (weight : Float) : Float := if isNotANumber weight then 0 else weight

/-- A threshold as it is read back. -/
def thresholdAsRead (threshold : Option Float) : Option Float :=
  threshold.bind fun number => if isNotANumber number then none else some number

/-- A choice as it is read back. -/
def Choice.asRead (choice : Choice) : Choice :=
  { choice with weight := weightAsRead choice.weight }

/-- A condition as it is read back. -/
def Condition.asRead (condition : Condition) : Condition :=
  { condition with
    weight := weightAsRead condition.weight
    choices := condition.choices.map Choice.asRead }

/-- An outcome as it is read back. -/
def Outcome.asRead (outcome : Outcome) : Outcome :=
  { outcome with
    threshold := thresholdAsRead outcome.threshold
    kind := if outcome.kind.truthy then outcome.kind else .null }

/-- A scenario as it is read back. -/
def Scenario.asRead (scenario : Scenario) : Scenario :=
  { scenario with
    conditions := scenario.conditions.map Condition.asRead
    outcomes := scenario.outcomes.map Outcome.asRead }

/-- A book as it is read back. -/
def Book.asRead (book : Book) : Book := Table.map Scenario.asRead book

/-! ### What is read back is typed -/

theorem weightAsRead_proper (weight : Float) : isNotANumber (weightAsRead weight) = false := by
  unfold weightAsRead
  split
  case isTrue => rfl
  case isFalse proper => simpa using proper

theorem thresholdAsRead_proper (threshold : Option Float) (number : Float)
    (isNumber : thresholdAsRead threshold = some number) : isNotANumber number = false := by
  obtain ⟨found, -, kept⟩ := Option.bind_eq_some_iff.mp isNumber
  split at kept
  case isTrue => cases kept
  case isFalse proper =>
    cases kept
    simpa using proper

theorem Json.truthy_str (text : String) : (Json.str text).truthy = true ↔ text ≠ "" := by
  simp [Json.truthy]

theorem Choice.typed_asRead (choice : Choice) (textual : choice.Textual) : choice.asRead.Typed :=
  ⟨textual.value, textual.label, weightAsRead_proper _⟩

theorem Condition.typed_asRead (condition : Condition) (textual : condition.Textual) :
    condition.asRead.Typed :=
  ⟨textual.label, weightAsRead_proper _, List.forall_mem_map.mpr fun choice member =>
    choice.typed_asRead (textual.choices choice member)⟩

theorem Outcome.typed_asRead (outcome : Outcome) (textual : outcome.Textual) :
    outcome.asRead.Typed := by
  refine ⟨fun number isNumber => thresholdAsRead_proper _ number isNumber, textual.message, ?_⟩
  show (if outcome.kind.truthy then outcome.kind else .null) = .null ∨
    ∃ text, (if outcome.kind.truthy then outcome.kind else .null) = .str text ∧ text ≠ ""
  rcases textual.kind with missing | ⟨text, isText⟩
  · exact Or.inl (by rw [missing]; rfl)
  · rw [isText]
    by_cases some_ : text ≠ ""
    · exact Or.inr ⟨text, if_pos ((Json.truthy_str text).mpr some_), some_⟩
    · exact Or.inl (if_neg (mt (Json.truthy_str text).mp some_))

theorem Scenario.typed_asRead (scenario : Scenario) (textual : scenario.Textual) :
    scenario.asRead.Typed :=
  ⟨textual.name,
    List.forall_mem_map.mpr fun entry present =>
      entry.2.typed_asRead (textual.conditions entry present),
    List.forall_mem_map.mpr fun entry present =>
      entry.2.typed_asRead (textual.outcomes entry present)⟩

theorem Book.typed_asRead (book : Book) (textual : Book.Textual book) :
    Book.Typed (Book.asRead book) :=
  List.forall_mem_map.mpr fun entry present =>
    ⟨entry.2.typed_asRead (textual entry present).1, (textual entry present).2⟩

/-! ### What is typed is read back as it is -/

theorem weightAsRead_eq (weight : Float) (proper : isNotANumber weight = false) :
    weightAsRead weight = weight := by
  rw [weightAsRead, proper, if_neg Bool.false_ne_true]

theorem thresholdAsRead_eq (threshold : Option Float)
    (proper : ∀ number, threshold = some number → isNotANumber number = false) :
    thresholdAsRead threshold = threshold := by
  cases threshold with
  | none => rfl
  | some number =>
    rw [thresholdAsRead, Option.bind_some, proper number rfl, if_neg Bool.false_ne_true]

theorem Table.map_eq_self {Value : Type} (change : Value → Value) (table : Table Value)
    (same : ∀ entry ∈ table.entries, change entry.2 = entry.2) : table.map change = table := by
  obtain ⟨entries, distinct⟩ := table
  have sameEntries : entries.map (fun entry => (entry.1, change entry.2)) = entries := by
    refine (List.map_congr_left fun entry present => ?_).trans (List.map_id entries)
    rw [same entry present]
    rfl
  simp only [Table.map, sameEntries]

theorem Choice.asRead_eq (choice : Choice) (typed : choice.Typed) : choice.asRead = choice := by
  rw [Choice.asRead, weightAsRead_eq choice.weight typed.weight]

theorem Condition.asRead_eq (condition : Condition) (typed : condition.Typed) :
    condition.asRead = condition := by
  have choices : condition.choices.map Choice.asRead = condition.choices :=
    (List.map_congr_left fun choice member =>
      choice.asRead_eq (typed.choices choice member)).trans (List.map_id _)
  rw [Condition.asRead, weightAsRead_eq condition.weight typed.weight, choices]

theorem Outcome.asRead_eq (outcome : Outcome) (typed : outcome.Typed) :
    outcome.asRead = outcome := by
  have kind : (if outcome.kind.truthy then outcome.kind else .null) = outcome.kind := by
    rcases typed.kind with missing | ⟨text, isText, some_⟩
    · rw [missing]
      rfl
    · rw [isText, if_pos ((Json.truthy_str text).mpr some_)]
  rw [Outcome.asRead, thresholdAsRead_eq outcome.threshold typed.threshold, kind]

theorem Scenario.asRead_eq (scenario : Scenario) (typed : scenario.Typed) :
    scenario.asRead = scenario := by
  rw [Scenario.asRead,
    Table.map_eq_self _ scenario.conditions fun entry present =>
      entry.2.asRead_eq (typed.conditions entry present),
    Table.map_eq_self _ scenario.outcomes fun entry present =>
      entry.2.asRead_eq (typed.outcomes entry present)]

theorem Book.asRead_eq (book : Book) (typed : Book.Typed book) : Book.asRead book = book :=
  Table.map_eq_self _ book fun entry present => entry.2.asRead_eq (typed entry present).1

/-! ### What is lost on the way -/

/-- A condition with a weight that is no number, its own or that of a choice. -/
def Condition.Altered (condition : Condition) : Prop :=
  isNotANumber condition.weight = true ∨
    ∃ choice ∈ condition.choices, isNotANumber choice.weight = true

/-- An outcome with a threshold that is no number, or with an empty kind. -/
def Outcome.Altered (outcome : Outcome) : Prop :=
  (∃ number, outcome.threshold = some number ∧ isNotANumber number = true) ∨
    outcome.kind = .str ""

/-- A scenario with such a condition or outcome. -/
def Scenario.Altered (scenario : Scenario) : Prop :=
  (∃ entry ∈ scenario.conditions.entries, entry.2.Altered) ∨
    ∃ entry ∈ scenario.outcomes.entries, entry.2.Altered

/-- A book with such a scenario. -/
def Book.Altered (book : Book) : Prop := ∃ entry ∈ Table.entries book, entry.2.Altered

theorem Condition.typed_iff (condition : Condition) (textual : condition.Textual) :
    condition.Typed ↔ ¬ condition.Altered := by
  constructor
  · rintro typed (noNumber | ⟨choice, member, noNumber⟩)
    · exact absurd (typed.weight.symm.trans noNumber) Bool.false_ne_true
    · exact absurd ((typed.choices choice member).weight.symm.trans noNumber) Bool.false_ne_true
  · intro kept
    obtain ⟨weight, choices⟩ := not_or.mp kept
    refine ⟨textual.label, by simpa using weight, fun choice member => ?_⟩
    have ofTexts := textual.choices choice member
    exact ⟨ofTexts.value, ofTexts.label,
      Bool.eq_false_iff.mpr fun noNumber => choices ⟨choice, member, noNumber⟩⟩

theorem Outcome.typed_iff (outcome : Outcome) (textual : outcome.Textual) :
    outcome.Typed ↔ ¬ outcome.Altered := by
  constructor
  · rintro typed (⟨number, isNumber, noNumber⟩ | isEmpty)
    · exact absurd ((typed.threshold number isNumber).symm.trans noNumber) Bool.false_ne_true
    · rcases typed.kind with missing | ⟨text, isText, some_⟩
      · cases isEmpty.symm.trans missing
      · exact some_ (Json.str.inj (isText.symm.trans isEmpty))
  · intro kept
    obtain ⟨threshold, kind⟩ := not_or.mp kept
    refine ⟨fun number isNumber => Bool.eq_false_iff.mpr fun noNumber =>
      threshold ⟨number, isNumber, noNumber⟩, textual.message, ?_⟩
    refine textual.kind.imp_right fun ⟨text, isText⟩ => ⟨text, isText, ?_⟩
    rintro rfl
    exact kind isText

theorem Scenario.typed_iff (scenario : Scenario) (textual : scenario.Textual) :
    scenario.Typed ↔ ¬ scenario.Altered := by
  constructor
  · rintro typed (⟨entry, present, altered⟩ | ⟨entry, present, altered⟩)
    · exact (entry.2.typed_iff (textual.conditions entry present)).mp
        (typed.conditions entry present) altered
    · exact (entry.2.typed_iff (textual.outcomes entry present)).mp
        (typed.outcomes entry present) altered
  · intro kept
    obtain ⟨conditions, outcomes⟩ := not_or.mp kept
    refine ⟨textual.name, fun entry present => ?_, fun entry present => ?_⟩
    · exact (entry.2.typed_iff (textual.conditions entry present)).mpr fun altered =>
        conditions ⟨entry, present, altered⟩
    · exact (entry.2.typed_iff (textual.outcomes entry present)).mpr fun altered =>
        outcomes ⟨entry, present, altered⟩

theorem Book.typed_iff (book : Book) (textual : Book.Textual book) :
    Book.Typed book ↔ ¬ Book.Altered book := by
  constructor
  · rintro typed ⟨entry, present, altered⟩
    exact (entry.2.typed_iff (textual entry present).1).mp (typed entry present).1 altered
  · intro kept entry present
    refine ⟨?_, (textual entry present).2⟩
    exact (entry.2.typed_iff (textual entry present).1).mpr fun altered =>
      kept ⟨entry, present, altered⟩

/-- A book of texts is read back as it is, unless something in it is not read. -/
theorem Book.asRead_eq_iff (book : Book) (textual : Book.Textual book) :
    Book.asRead book = book ↔ ¬ Book.Altered book := by
  rw [← Book.typed_iff book textual]
  exact ⟨fun same => same ▸ Book.typed_asRead book textual, Book.asRead_eq book⟩

end MarketSignal
