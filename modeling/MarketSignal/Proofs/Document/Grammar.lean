/-
This file states which values are documents as a property of values, level by level, and proves that
a value has it exactly if it has no flaws. A part of the rules, wherever it is applied, lets exactly
the values of one form pass; from what the rules for a part decide follows what the rules for what
holds the part decide.
-/
import MarketSignal.Proofs.Document.Refusal
import MarketSignal.Proofs.Scenario.Typed

namespace MarketSignal

/-! ### Documents as a property of values -/

/-- What stands under the name, if anything does, is of the form. -/
def MayHave (members : List (String × Json)) (name : String) (form : Json → Prop) : Prop :=
  ∀ part, Entries.get? members name = some part → form part

namespace Json

/-- A number, or nothing. Truth values are no numbers. -/
def IsNumberOrNull (value : Json) : Prop :=
  value = .null ∨ (∃ whole, value = .int whole) ∨ ∃ number, value = .float number

/-- One of the four kinds of conditions. -/
def IsKindName (value : Json) : Prop :=
  ∃ name ∈ ["radio", "checkbox", "text", "select"], value = .str name

/-- An object of parts of the form, or nothing. -/
def IsObjectOf (form : Json → Prop) (value : Json) : Prop :=
  value = .null ∨ ∃ members, value = .obj members ∧ ∀ member ∈ members, form member.2

/-- A list of parts of the form, or nothing. -/
def IsListOf (form : Json → Prop) (value : Json) : Prop :=
  value = .null ∨ ∃ items, value = .arr items ∧ ∀ item ∈ items, form item

/-- A choice of a condition. -/
def IsChoice (value : Json) : Prop :=
  ∃ members, value = .obj members ∧
    MayHave members "value" IsTextOrNull ∧ MayHave members "label" IsTextOrNull ∧
    MayHave members "weight" IsNumberOrNull

/-- A condition, which names its kind in one of two ways. -/
def IsCondition (value : Json) : Prop :=
  ∃ members, value = .obj members ∧
    (Entries.get? members "type" ≠ none ∨ Entries.get? members "kind" ≠ none) ∧
    MayHave members "label" IsTextOrNull ∧ MayHave members "type" IsKindName ∧
    MayHave members "kind" IsKindName ∧ MayHave members "weight" IsNumberOrNull ∧
    MayHave members "options" (IsListOf IsChoice)

/-- An outcome. -/
def IsOutcome (value : Json) : Prop :=
  ∃ members, value = .obj members ∧
    MayHave members "threshold" IsNumberOrNull ∧ MayHave members "message" IsTextOrNull ∧
    MayHave members "type" IsTextOrNull ∧ MayHave members "kind" IsTextOrNull

/-- A scenario. -/
def IsScenario (value : Json) : Prop :=
  ∃ members, value = .obj members ∧
    MayHave members "name" IsTextOrNull ∧ MayHave members "conditions" (IsObjectOf IsCondition) ∧
    MayHave members "outputs" (IsObjectOf IsOutcome)

/-- A document, which has scenarios and may have a version. -/
def IsDocument (value : Json) : Prop :=
  ∃ members scenarios, value = .obj members ∧
    Entries.get? members "scenarios" = some (.obj scenarios) ∧
    (∀ scenario ∈ scenarios, IsScenario scenario.2) ∧ MayHave members "version" IsText

end Json

/-! ### Flawless values -/

/-- The rules let exactly the values of the form pass, wherever they stand. -/
def Decides (flaws : Place → Json → List Flaw) (form : Json → Prop) : Prop :=
  ∀ place value, flaws place value = [] ↔ form value

section

variable {flaws : Place → Json → List Flaw} {form : Json → Prop}

theorem kindFlaws_eq_nil_iff (kinds : List ValueKind) (place : Place) (value : Json) :
    kindFlaws kinds place value = [] ↔ ∃ kind ∈ kinds, kind.holds value = true := by
  rw [kindFlaws, ← List.any_eq_true]
  split
  case isTrue holds => exact ⟨fun _ => holds, fun _ => rfl⟩
  case isFalse other => exact ⟨nofun, fun holds => absurd holds other⟩

theorem decides_text : Decides textFlaws Json.IsTextOrNull := by
  intro place value
  rw [textFlaws, kindFlaws_eq_nil_iff]
  cases value <;> simp [Json.IsTextOrNull, Json.IsText, ValueKind.holds]

theorem decides_version : Decides (kindFlaws [.string]) Json.IsText := by
  intro place value
  rw [kindFlaws_eq_nil_iff]
  cases value <;> simp [Json.IsText, ValueKind.holds]

theorem decides_number : Decides numberFlaws Json.IsNumberOrNull := by
  intro place value
  rw [numberFlaws, kindFlaws_eq_nil_iff]
  cases value <;> simp [Json.IsNumberOrNull, ValueKind.holds]

theorem decides_conditionKind : Decides conditionKindFlaws Json.IsKindName := by
  intro place value
  unfold conditionKindFlaws Json.IsKindName
  cases value
  case str name =>
    dsimp only
    split
    case isTrue listed =>
      exact ⟨fun _ => ⟨name, List.contains_iff_mem.mp listed, rfl⟩, fun _ => rfl⟩
    case isFalse unlisted =>
      refine ⟨nofun, ?_⟩
      rintro ⟨other, listed, same⟩
      cases same
      exact absurd (List.contains_iff_mem.mpr listed) unlisted
  all_goals
    refine ⟨nofun, ?_⟩
    rintro ⟨other, -, same⟩
    cases same

/-- Rules that ask for an object first are told by what they say of objects. -/
theorem Decides.ofObject {form : List (String × Json) → Prop}
    (isObject : ∀ place value, flaws place value = [] → ∃ members, value = .obj members)
    (decides : ∀ place members, flaws place (.obj members) = [] ↔ form members) :
    Decides flaws fun value => ∃ members, value = .obj members ∧ form members := by
  intro place value
  constructor
  · intro none
    obtain ⟨members, rfl⟩ := isObject place value none
    exact ⟨members, rfl, (decides place members).mp none⟩
  · rintro ⟨members, rfl, isForm⟩
    exact (decides place members).mpr isForm

theorem kindFlaws_obj (place : Place) (members : List (String × Json)) :
    kindFlaws [.object] place (.obj members) = [] := rfl

theorem Decides.member (decides : Decides flaws form) {members : List (String × Json)}
    {place : Place} {name : String} :
    memberFlaws (.obj members) place name flaws = [] ↔ MayHave members name form := by
  unfold memberFlaws MayHave
  dsimp only
  cases Entries.get? members name with
  | none => exact iff_of_true rfl fun part missing => nomatch missing
  | some part =>
    refine (decides _ part).trans ⟨fun isForm other same => ?_, fun each => each part rfl⟩
    cases same
    exact isForm

theorem Decides.eachMember (decides : Decides flaws form) {members : List (String × Json)}
    {place : Place} :
    eachMemberFlaws flaws place (.obj members) = [] ↔ ∀ member ∈ members, form member.2 := by
  rw [eachMemberFlaws, List.flatMap_eq_nil_iff]
  exact forall₂_congr fun member _ => decides _ member.2

theorem Decides.eachItem (decides : Decides flaws form) {items : List Json} {place : Place} :
    eachItemFlaws flaws place (.arr items) = [] ↔ ∀ item ∈ items, form item := by
  rw [eachItemFlaws, List.flatMap_eq_nil_iff]
  constructor
  · intro each item member
    obtain ⟨index, bound, rfl⟩ := List.mem_iff_getElem.mp member
    have here : (items[index], index) ∈ items.zipIdx :=
      List.mem_zipIdx_iff_getElem?.mpr (List.getElem?_eq_getElem bound)
    exact (decides _ _).mp (each _ here)
  · intro each entry member
    exact (decides _ _).mpr (each _ (List.fst_mem_of_mem_zipIdx member))

theorem decides_parts (decides : Decides flaws form) :
    Decides (partsFlaws flaws) (Json.IsObjectOf form) := by
  intro place value
  rw [partsFlaws, List.append_eq_nil_iff, kindFlaws_eq_nil_iff]
  cases value
  case obj members => simp [Json.IsObjectOf, ValueKind.holds, decides.eachMember]
  all_goals simp [Json.IsObjectOf, ValueKind.holds, eachMemberFlaws]

end

theorem decides_choice : Decides choiceFlaws Json.IsChoice := by
  refine .ofObject (fun place value none => ?_) fun place members => ?_
  · simp only [choiceFlaws, List.append_assoc, List.append_eq_nil_iff] at none
    exact isObject_of_flawless none.1
  · simp only [choiceFlaws, List.append_assoc, kindFlaws_obj, List.nil_append,
      List.append_eq_nil_iff, decides_text.member, decides_number.member]

theorem decides_choices : Decides choicesFlaws (Json.IsListOf Json.IsChoice) := by
  intro place value
  rw [choicesFlaws, List.append_eq_nil_iff, kindFlaws_eq_nil_iff]
  cases value
  case arr items => simp [Json.IsListOf, ValueKind.holds, decides_choice.eachItem]
  all_goals simp [Json.IsListOf, ValueKind.holds, eachItemFlaws]

theorem kindNamed_flawless_iff {place : Place} {members : List (String × Json)} :
    kindNamedFlaws place (.obj members) = [] ↔
      Entries.get? members "type" ≠ none ∨ Entries.get? members "kind" ≠ none := by
  unfold kindNamedFlaws
  dsimp only
  generalize Entries.get? members "type" = type
  generalize Entries.get? members "kind" = kind
  cases type <;> cases kind <;> simp

theorem decides_condition : Decides conditionFlaws Json.IsCondition := by
  refine .ofObject (fun place value none => ?_) fun place members => ?_
  · simp only [conditionFlaws, List.append_assoc, List.append_eq_nil_iff] at none
    exact isObject_of_flawless none.1
  · simp only [conditionFlaws, List.append_assoc, kindFlaws_obj, List.nil_append,
      List.append_eq_nil_iff, kindNamed_flawless_iff, decides_text.member,
      decides_conditionKind.member, decides_number.member, decides_choices.member]

theorem decides_outcome : Decides outcomeFlaws Json.IsOutcome := by
  refine .ofObject (fun place value none => ?_) fun place members => ?_
  · simp only [outcomeFlaws, List.append_assoc, List.append_eq_nil_iff] at none
    exact isObject_of_flawless none.1
  · simp only [outcomeFlaws, List.append_assoc, kindFlaws_obj, List.nil_append,
      List.append_eq_nil_iff, decides_text.member, decides_number.member]

theorem decides_scenario : Decides scenarioFlaws Json.IsScenario := by
  refine .ofObject (fun place value none => ?_) fun place members => ?_
  · simp only [scenarioFlaws, List.append_assoc, List.append_eq_nil_iff] at none
    exact isObject_of_flawless none.1
  · simp only [scenarioFlaws, List.append_assoc, kindFlaws_obj, List.nil_append,
      List.append_eq_nil_iff, decides_text.member, (decides_parts decides_condition).member,
      (decides_parts decides_outcome).member]

theorem decides_scenarios : Decides scenariosFlaws fun value =>
    ∃ scenarios, value = .obj scenarios ∧ ∀ scenario ∈ scenarios, scenario.2.IsScenario := by
  refine .ofObject (fun place value none => ?_) fun place members => ?_
  · exact isObject_of_flawless (List.append_eq_nil_iff.mp none).1
  · rw [scenariosFlaws, kindFlaws_obj, List.nil_append, decides_scenario.eachMember]

theorem scenariosPresent_flawless_iff {members : List (String × Json)} :
    scenariosPresentFlaws (.obj members) = [] ↔ Entries.get? members "scenarios" ≠ none := by
  unfold scenariosPresentFlaws
  dsimp only
  generalize Entries.get? members "scenarios" = scenarios
  cases scenarios <;> simp

/-- A value has no flaws exactly if it is a document. -/
theorem documentFlaws_eq_nil_iff (value : Json) : documentFlaws value = [] ↔ value.IsDocument := by
  have ofObject : Decides (fun _ => documentFlaws) fun value => ∃ members, value = .obj members ∧
      Entries.get? members "scenarios" ≠ none ∧ MayHave members "version" Json.IsText ∧
      MayHave members "scenarios" fun part => ∃ scenarios, part = .obj scenarios ∧
        ∀ scenario ∈ scenarios, scenario.2.IsScenario := by
    refine .ofObject (fun place value none => ?_) fun place members => ?_
    · simp only [documentFlaws, List.append_assoc, List.append_eq_nil_iff] at none
      exact isObject_of_flawless none.1
    · simp only [documentFlaws, List.append_assoc, kindFlaws_obj, List.nil_append,
        List.append_eq_nil_iff, scenariosPresent_flawless_iff, decides_version.member,
        decides_scenarios.member]
  rw [ofObject [] value]
  constructor
  · rintro ⟨members, rfl, present, version, scenarios⟩
    obtain ⟨part, found⟩ := Option.ne_none_iff_exists'.mp present
    obtain ⟨scenarios, rfl, each⟩ := scenarios part found
    exact ⟨members, scenarios, rfl, found, each, version⟩
  · rintro ⟨members, scenarios, rfl, found, each, version⟩
    refine ⟨members, rfl, Option.ne_none_iff_exists'.mpr ⟨_, found⟩, version, fun part isPart => ?_⟩
    exact ⟨scenarios, Option.some.inj (isPart.symm.trans found), each⟩

end MarketSignal
