/-
This file says what scenarios look like that were read from a value, and proves that reading makes
no others. Their texts are texts, none of their numbers is the one that is none, and the kind of an
outcome is missing rather than empty.
-/
import MarketSignal.Proofs.Number.Digits
import MarketSignal.Proofs.Number.Word
import MarketSignal.Proofs.Outcome
import MarketSignal.Proofs.Table
import MarketSignal.Document.Book

namespace MarketSignal

/-! ### Scenarios as they are read -/

/-- A value is a text. -/
def Json.IsText (value : Json) : Prop := ∃ text, value = .str text

/-- A value is a text, or nothing. -/
def Json.IsTextOrNull (value : Json) : Prop := value = .null ∨ value.IsText

/-- A choice as it is read. -/
structure Choice.Typed (choice : Choice) : Prop where
  value : choice.value.IsText
  label : choice.label.IsText
  weight : isNotANumber choice.weight = false

/-- A condition as it is read. -/
structure Condition.Typed (condition : Condition) : Prop where
  label : condition.label.IsText
  weight : isNotANumber condition.weight = false
  choices : ∀ choice ∈ condition.choices, choice.Typed

/-- An outcome as it is read. -/
structure Outcome.Typed (outcome : Outcome) : Prop where
  threshold : ∀ threshold, outcome.threshold = some threshold → isNotANumber threshold = false
  message : outcome.message.IsText
  kind : outcome.kind = .null ∨ ∃ text, outcome.kind = .str text ∧ text ≠ ""

/-- A scenario as it is read. -/
structure Scenario.Typed (scenario : Scenario) : Prop where
  name : scenario.name.IsText
  conditions : ∀ entry ∈ scenario.conditions.entries, entry.2.Typed
  outcomes : ∀ entry ∈ scenario.outcomes.entries, entry.2.Typed

/-- A book as it is read: each scenario stands under its identity. -/
def Book.Typed (book : Book) : Prop :=
  ∀ entry ∈ Table.entries book, entry.2.Typed ∧ entry.2.id = entry.1

/-! ### Numbers -/

theorem readNumber?_proper (value : Json) (number : Float)
    (read : readNumber? value = .ok (some number)) : isNotANumber number = false := by
  have proper (found : Float)
      (kept : (if isNotANumber found then none else some found) = some number) :
      isNotANumber number = false := by
    split at kept
    case isTrue none => cases kept
    case isFalse some =>
      cases kept
      simpa using some
  unfold readNumber? at read
  cases value with
  | int whole =>
    dsimp only at read
    split at read
    case h_1 found isFound =>
      cases read
      unfold floatOfInt? at isFound
      dsimp only at isFound
      split at isFound
      case isTrue finite =>
        cases isFound
        exact isNotANumber_floatOfWord _ _ finite.le
      case isFalse beyond => cases isFound
    case h_2 => cases read
  | float found => exact proper found (Except.ok.inj read)
  | str text =>
    obtain ⟨found, -, kept⟩ := Option.bind_eq_some_iff.mp (Except.ok.inj read)
    exact proper found kept
  | null => cases read
  | bool truth => cases read
  | arr items => cases read
  | obj members => cases read

theorem readWeight_proper (value : Json) (weight : Float) (read : readWeight value = .ok weight) :
    isNotANumber weight = false := by
  obtain ⟨number, isNumber, isWeight⟩ := bind_eq_ok read
  cases isWeight
  cases number with
  | none => rfl
  | some number => exact readNumber?_proper value number isNumber

/-! ### Tables -/

section

variable {Item Read : Type}

/-- An entry is what a member is read as, under the same name. -/
def IsReadAs (read : String → Item → Except Fault Read) (member : String × Item)
    (entry : String × Read) : Prop :=
  entry.1 = member.1 ∧ read member.1 member.2 = .ok entry.2

/-- A table is read from what each member is read as, one after another. -/
theorem readMembers_eq_ok_iff (read : String → Item → Except Fault Read)
    (members : List (String × Item)) (table : Table Read) :
    readMembers read members = .ok table ↔
      ∃ entries, List.Forall₂ (IsReadAs read) members entries ∧
        Table.ofEntries entries = table := by
  have sameStep (member : String × Item) (entry : String × Read) :
      (read member.1 member.2 >>= fun result => Except.ok (member.1, result)) = .ok entry ↔
        IsReadAs read member entry := by
    constructor
    · intro succeeds
      obtain ⟨result, isResult, isEntry⟩ := bind_eq_ok succeeds
      cases isEntry
      exact ⟨rfl, isResult⟩
    · rintro ⟨sameName, isResult⟩
      rw [isResult, ok_bind, ← sameName]
  have sameItems (entries : List (String × Read)) :
      (members.mapM fun member => (do return (member.1, ← read member.1 member.2))) = .ok entries ↔
        List.Forall₂ (IsReadAs read) members entries := by
    rw [mapM_eq_ok_iff]
    exact ⟨fun each => each.imp fun member entry => (sameStep member entry).mp,
      fun each => each.imp fun member entry => (sameStep member entry).mpr⟩
  constructor
  · intro succeeds
    obtain ⟨entries, areEntries, isTable⟩ := bind_eq_ok succeeds
    exact ⟨entries, (sameItems entries).mp areEntries, Except.ok.inj isTable⟩
  · rintro ⟨entries, each, rfl⟩
    rw [readMembers, (sameItems entries).mpr each]
    rfl

/-- Members are read under their own names. -/
theorem names_of_isReadAs {read : String → Item → Except Fault Read}
    {members : List (String × Item)} {entries : List (String × Read)}
    (each : List.Forall₂ (IsReadAs read) members entries) :
    Entries.names entries = Entries.names members := by
  induction each with
  | nil => rfl
  | cons isRead others inductionHypothesis =>
    rw [Entries.names, List.map_cons, isRead.1]
    exact congrArg _ inductionHypothesis

/-- What stands in a table that was read comes from a member of the same name. -/
theorem exists_of_readMembers {read : String → Item → Except Fault Read}
    {members : List (String × Item)} {table : Table Read}
    (succeeds : readMembers read members = .ok table) (entry : String × Read)
    (present : entry ∈ table.entries) :
    ∃ member ∈ members, member.1 = entry.1 ∧ read entry.1 member.2 = .ok entry.2 := by
  obtain ⟨entries, each, rfl⟩ := (readMembers_eq_ok_iff read members table).mp succeeds
  have isEntry := Entries.mem_of_mem_settle entries entry present
  obtain ⟨index, bound, rfl⟩ := List.mem_iff_getElem.mp isEntry
  have inRange : index < members.length := each.length_eq ▸ bound
  obtain ⟨sameName, isRead⟩ := List.Forall₂.get each inRange bound
  simp only [List.get_eq_getElem] at sameName isRead
  exact ⟨members[index], List.getElem_mem inRange, sameName.symm, sameName ▸ isRead⟩

end

/-! ### Choices, conditions, outcomes -/

theorem Choice.typed_of_read (value : Json) (choice : Choice)
    (read : Choice.read value = .ok choice) : choice.Typed := by
  obtain ⟨members, -, read⟩ := bind_eq_ok read
  obtain ⟨answer, -, read⟩ := bind_eq_ok read
  obtain ⟨label, -, read⟩ := bind_eq_ok read
  obtain ⟨weight, isWeight, read⟩ := bind_eq_ok read
  cases read
  exact ⟨⟨answer, rfl⟩, ⟨label, rfl⟩, readWeight_proper _ weight isWeight⟩

theorem ConditionKind.name_of_ofName? (name : String) (kind : ConditionKind)
    (found : ConditionKind.ofName? name = some kind) : name = kind.name := by
  have same := List.find?_some (p := fun kind : ConditionKind => kind.name == name) found
  exact (beq_iff_eq.mp same).symm

/-- The kind that is read is the one that the value names. -/
theorem ConditionKind.name_of_read (value : Json) (kind : ConditionKind)
    (read : ConditionKind.read value = .ok kind) : value = .str kind.name := by
  unfold ConditionKind.read at read
  dsimp only at read
  split at read
  case h_1 found isKnown =>
    cases read
    split at isKnown
    case h_1 name => rw [ConditionKind.name_of_ofName? name kind isKnown]
    case h_2 => cases isKnown
  case h_2 =>
    split at read
    · obtain ⟨text, -, impossible⟩ := bind_eq_ok read
      cases impossible
    · cases read

theorem Condition.kind_of_read (value : Json) (condition : Condition)
    (read : Condition.read value = .ok condition) :
    kindMember value = .str condition.kind.name := by
  obtain ⟨members, -, read⟩ := bind_eq_ok read
  obtain ⟨kind, isKind, read⟩ := bind_eq_ok read
  obtain ⟨label, -, read⟩ := bind_eq_ok read
  obtain ⟨weight, -, read⟩ := bind_eq_ok read
  obtain ⟨items, -, read⟩ := bind_eq_ok read
  obtain ⟨choices, -, read⟩ := bind_eq_ok read
  cases read
  exact ConditionKind.name_of_read _ _ isKind

theorem Condition.typed_of_read (value : Json) (condition : Condition)
    (read : Condition.read value = .ok condition) : condition.Typed := by
  obtain ⟨members, -, read⟩ := bind_eq_ok read
  obtain ⟨kind, -, read⟩ := bind_eq_ok read
  obtain ⟨label, -, read⟩ := bind_eq_ok read
  obtain ⟨weight, isWeight, read⟩ := bind_eq_ok read
  obtain ⟨items, -, read⟩ := bind_eq_ok read
  obtain ⟨choices, areChoices, read⟩ := bind_eq_ok read
  cases read
  refine ⟨⟨label, rfl⟩, readWeight_proper _ weight isWeight, fun choice member => ?_⟩
  obtain ⟨item, -, isRead⟩ := exists_of_mapM_eq_ok areChoices choice member
  exact Choice.typed_of_read item choice isRead

theorem Layout.magnitude_ne_nil (layout : Layout) (decimal : Decimal) :
    layout.magnitude decimal ≠ [] := by
  have some := digitsOfNat_ne_nil decimal.digits
  unfold Layout.magnitude
  dsimp only
  split_ifs
  · rw [List.append_assoc]
    exact List.append_ne_nil_of_left_ne_nil some _
  · exact List.append_ne_nil_of_right_ne_nil _ (List.cons_ne_nil _ _)
  · exact List.cons_ne_nil _ _
  · split <;> exact List.cons_ne_nil _ _

theorem Layout.write_ne_nil (digits : Binary → Decimal) (number : Float) :
    Layout.message.write digits number ≠ [] := by
  unfold Layout.write
  split
  · exact List.cons_ne_nil _ _
  · split <;> exact List.cons_ne_nil _ _
  · dsimp only
    split_ifs
    · exact List.cons_ne_nil _ _
    · exact List.cons_ne_nil _ _
    · exact List.cons_ne_nil _ _
    · exact Layout.magnitude_ne_nil _ _

/-- A value that counts as true is shown as something. -/
theorem Json.shown_ne_nil (value : Json) (truthy : value.truthy = true) : value.shown ≠ [] := by
  cases value with
  | null => cases truthy
  | bool truth => cases truth <;> simp [Json.shown, Json.literal]
  | int whole =>
    simp only [Json.shown, Json.literal, digitsOfInt]
    split
    · exact List.cons_ne_nil _ _
    · exact digitsOfNat_ne_nil _
  | float number => exact Layout.write_ne_nil _ number
  | str text =>
    intro empty
    rw [Json.shown, String.toList_eq_nil_iff] at empty
    rw [empty] at truthy
    cases truthy
  | arr items => cases items <;> simp [Json.shown, Json.literal]
  | obj members => cases members <;> simp [Json.shown, Json.literal]

theorem Json.display_ne_empty (value : Json) (truthy : value.truthy = true) (text : String)
    (displayed : value.display = .ok text) : text ≠ "" := by
  unfold Json.display Json.shown? at displayed
  split at displayed
  case h_1 shown isShown =>
    cases displayed
    split at isShown
    case isTrue => cases isShown
    case isFalse =>
      cases isShown
      intro empty
      exact value.shown_ne_nil truthy
        ((String.toList_ofList ..).symm.trans (String.toList_eq_nil_iff.mpr empty))
  case h_2 => cases displayed

theorem Outcome.typed_of_read (value : Json) (outcome : Outcome)
    (read : Outcome.read value = .ok outcome) : outcome.Typed := by
  obtain ⟨members, -, read⟩ := bind_eq_ok read
  obtain ⟨threshold, isThreshold, read⟩ := bind_eq_ok read
  obtain ⟨message, -, read⟩ := bind_eq_ok read
  have proper (number : Float) (same : threshold = some number) : isNotANumber number = false :=
    readNumber?_proper _ number (same ▸ isThreshold)
  dsimp only at read
  split at read
  case isTrue truthy =>
    obtain ⟨kind, isKind, read⟩ := bind_eq_ok read
    cases read
    exact ⟨proper, ⟨message, rfl⟩,
      Or.inr ⟨kind, rfl, Json.display_ne_empty _ truthy kind isKind⟩⟩
  case isFalse =>
    cases read
    exact ⟨proper, ⟨message, rfl⟩, Or.inl rfl⟩

/-! ### Scenarios and books -/

theorem Scenario.typed_of_read (id : String) (value : Json) (scenario : Scenario)
    (read : Scenario.read id value = .ok scenario) : scenario.Typed ∧ scenario.id = id := by
  obtain ⟨members, -, read⟩ := bind_eq_ok read
  obtain ⟨conditionMembers, -, read⟩ := bind_eq_ok read
  obtain ⟨conditions, areConditions, read⟩ := bind_eq_ok read
  obtain ⟨outcomeMembers, -, read⟩ := bind_eq_ok read
  obtain ⟨outcomes, areOutcomes, read⟩ := bind_eq_ok read
  obtain ⟨name, -, read⟩ := bind_eq_ok read
  cases read
  refine ⟨⟨⟨name, rfl⟩, fun entry present => ?_, fun entry present => ?_⟩, rfl⟩
  · obtain ⟨member, -, -, isRead⟩ := exists_of_readMembers areConditions entry present
    split at isRead
    case h_1 condition succeeds =>
      cases isRead
      exact Condition.typed_of_read _ _ succeeds
    case h_2 => cases isRead
  · obtain ⟨member, -, -, isRead⟩ := exists_of_readMembers areOutcomes entry present
    exact Outcome.typed_of_read _ _ isRead

/-- Every book that a document is read as is typed. -/
theorem Book.typed_of_ofDocument (document : Json) (book : Book)
    (read : Book.ofDocument document = .ok book) : Book.Typed book := by
  obtain ⟨_, -, read⟩ := bind_eq_ok read
  obtain ⟨members, -, read⟩ := bind_eq_ok read
  intro entry present
  obtain ⟨member, -, -, isRead⟩ := exists_of_readMembers read entry present
  exact Scenario.typed_of_read _ _ _ isRead

end MarketSignal
