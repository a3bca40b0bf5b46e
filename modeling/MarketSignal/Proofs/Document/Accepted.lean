/-
This file proves that the check of a document asks for as much as the reading of it needs. What
passes the check is read, with one scenario for each of its entries and in their order, as long as
the whole numbers in it fit. What comes out has the form that evaluations, backups and the search
for issues take for granted.
-/
import MarketSignal.Proofs.Document.Verdict

namespace MarketSignal

/-! ### What is relied on -/

/-- A scenario in the form that is relied on, as an entry of a document describes it. -/
structure Scenario.Reliable (source : Json) (scenario : Scenario) : Prop where
  /-- Each condition is of the kind that the document names for it, one of the four. -/
  kinds : ∀ entry ∈ scenario.conditions.entries,
    entry.2.kind.name ∈ ["radio", "checkbox", "text", "select"] ∧
      ∃ members part, source.member "conditions" = .obj members ∧ (entry.1, part) ∈ members ∧
        kindMember part = .str entry.2.kind.name
  weights : ∀ entry ∈ scenario.conditions.entries, isNotANumber entry.2.weight = false ∧
    ∀ choice ∈ entry.2.choices, isNotANumber choice.weight = false
  thresholds : ∀ entry ∈ scenario.outcomes.entries, ∀ threshold,
    entry.2.threshold = some threshold → isNotANumber threshold = false
  outcomeKinds : ∀ entry ∈ scenario.outcomes.entries, entry.2.kind ≠ .str ""

theorem ConditionKind.name_listed (kind : ConditionKind) :
    kind.name ∈ ["radio", "checkbox", "text", "select"] := by
  cases kind <;> decide

theorem Outcome.kind_ne_empty (outcome : Outcome) (typed : outcome.Typed) :
    outcome.kind ≠ .str "" := by
  rcases typed.kind with missing | ⟨text, isText, some_⟩
  · rw [missing]
    exact nofun
  · rw [isText]
    exact fun empty => some_ (Json.str.inj empty)

theorem eq_obj_of_objectMembers {value : Json} {members : List (String × Json)}
    (areMembers : objectMembers value = .ok members) : value = .obj members := by
  cases value
  case obj =>
    cases areMembers
    rfl
  all_goals cases areMembers

theorem eq_obj_of_optionalMembers {value : Json} {members : List (String × Json)}
    (areMembers : optionalMembers value = .ok members) (some_ : members ≠ []) :
    value = .obj members := by
  unfold optionalMembers at areMembers
  split at areMembers
  case isTrue => exact eq_obj_of_objectMembers areMembers
  case isFalse =>
    cases areMembers
    exact absurd rfl some_

/-- The conditions of a scenario come from the members of its entry. -/
theorem Scenario.exists_condition_of_read {id : String} {source : Json} {scenario : Scenario}
    (read : Scenario.read id source = .ok scenario) (entry : String × Condition)
    (present : entry ∈ scenario.conditions.entries) :
    ∃ members part, source.member "conditions" = .obj members ∧ (entry.1, part) ∈ members ∧
      Condition.read part = .ok entry.2 := by
  obtain ⟨_, -, read⟩ := bind_eq_ok read
  obtain ⟨members, areMembers, read⟩ := bind_eq_ok read
  obtain ⟨conditions, areConditions, read⟩ := bind_eq_ok read
  obtain ⟨outcomeMembers, -, read⟩ := bind_eq_ok read
  obtain ⟨outcomes, -, read⟩ := bind_eq_ok read
  obtain ⟨name, -, read⟩ := bind_eq_ok read
  cases read
  obtain ⟨⟨_, part⟩, member, rfl, isRead⟩ := exists_of_readMembers areConditions entry present
  refine ⟨members, part, ?_, member, ?_⟩
  · exact eq_obj_of_optionalMembers areMembers (List.ne_nil_of_mem member)
  · split at isRead
    case h_1 condition succeeds =>
      cases isRead
      exact succeeds
    case h_2 => cases isRead

theorem Scenario.reliable_of_read {id : String} {source : Json} {scenario : Scenario}
    (read : Scenario.read id source = .ok scenario) : scenario.Reliable source := by
  have typed := (Scenario.typed_of_read id source scenario read).1
  refine ⟨fun entry present => ⟨entry.2.kind.name_listed, ?_⟩, fun entry present => ?_,
    fun entry present => (typed.outcomes entry present).threshold,
    fun entry present => entry.2.kind_ne_empty (typed.outcomes entry present)⟩
  · obtain ⟨members, part, areMembers, member, isRead⟩ :=
      Scenario.exists_condition_of_read read entry present
    exact ⟨members, part, areMembers, member, Condition.kind_of_read part entry.2 isRead⟩
  · have ofCondition := typed.conditions entry present
    exact ⟨ofCondition.weight, fun choice member => (ofCondition.choices choice member).weight⟩

/-! ### Accepted documents -/

/-- A table that is read has the names of the members, in their order. -/
theorem names_of_readMembers {Item Read : Type} {read : String → Item → Except Fault Read}
    {members : List (String × Item)} {table : Table Read}
    (succeeds : readMembers read members = .ok table) :
    table.names = (Table.ofEntries members).names := by
  obtain ⟨entries, each, rfl⟩ := (readMembers_eq_ok_iff read members table).mp succeeds
  show Entries.names (Entries.settle entries) = Entries.names (Entries.settle members)
  rw [Entries.names_settle, Entries.names_settle, names_of_isReadAs each]

/-- A document that the check passes is read, as long as its weights and thresholds fit: one
scenario for each entry, in the order of the entries, under its own name and in the form that is
relied on. -/
theorem Book.ofDocument_accepted (document : Json)
    (accepted : checkAgainst grammarName document = .ok ())
    (inRange : ∀ number ∈ bookNumbers (document.member "scenarios"), ¬ number.BeyondRange) :
    ∃ members book, document.member "scenarios" = .obj members ∧
      Book.ofDocument document = .ok book ∧
      Table.names book = (Table.ofEntries members).names ∧
      ∀ entry ∈ Table.entries book, entry.2.id = entry.1 ∧
        ∃ source, (entry.1, source) ∈ members ∧ entry.2.Reliable source := by
  have flawless : documentFlaws document = [] :=
    (documentFlaws_eq_nil_iff document).mpr ((checkAgainst_eq_ok_iff document).mp accepted)
  obtain ⟨book, isBook⟩ := (Book.ofDocument_flawless flawless).succeeds fun ⟨number, member, big⟩ =>
    inRange number member big
  obtain ⟨_, -, read⟩ := bind_eq_ok isBook
  obtain ⟨members, areMembers, read⟩ := bind_eq_ok read
  refine ⟨members, book, eq_obj_of_objectMembers areMembers, isBook, names_of_readMembers read,
    fun entry present => ?_⟩
  obtain ⟨⟨_, source⟩, member, rfl, isRead⟩ := exists_of_readMembers read entry present
  exact ⟨(Scenario.typed_of_read _ _ _ isRead).2, source, member,
    Scenario.reliable_of_read isRead⟩

/-- The entry of a scenario with a free text of weight five and an outcome from one on. -/
def oneText : Json :=
  .obj
    [("conditions", .obj [("c", .obj [("kind", .str "text"), ("weight", .int 5)])]),
      ("outputs", .obj [("o", .obj [("threshold", .int 1), ("type", .str "")])])]

theorem Book.ofDocument_oneText :
    ∃ members book, (documentOf (.obj [("s", oneText)])).member "scenarios" = .obj members ∧
      Book.ofDocument (documentOf (.obj [("s", oneText)])) = .ok book ∧
      Table.names book = (Table.ofEntries members).names ∧
      ∀ entry ∈ Table.entries book, entry.2.id = entry.1 ∧
        ∃ source, (entry.1, source) ∈ members ∧ entry.2.Reliable source := by
  refine Book.ofDocument_accepted _ ?_ ?_
  · rw [checkAgainst_grammarName]
    exact checkDocument_flawless _ _ rfl
  · have numbers : bookNumbers ((documentOf (.obj [("s", oneText)])).member "scenarios") =
        [.int 5, .int 1] := rfl
    rw [numbers, List.forall_mem_cons, List.forall_mem_singleton]
    constructor
    all_goals
      rintro ⟨whole, same, beyond⟩
      cases same
      exact Option.not_isSome_iff_eq_none.mpr beyond (by decide +kernel)

end MarketSignal
