/-
This file proves which values the check of a document passes and which place it names for the
others. What a part of a document must satisfy depends on what it is meant to be, and that is told
by the way from the root to the part. The flaws of a value are exactly the rules that are broken on
these ways, so that the flaw that is reported, whose place comes first as text among all flaws, has
the first place among all broken rules. The one obstacle is a part with a whole number that is too
long to be put into words.
-/
import MarketSignal.Proofs.Document.Grammar
import MarketSignal.Proofs.Json.Parts

namespace MarketSignal

/-! ### What a part is meant to be -/

/-- What a part of a document is meant to be. -/
inductive Role where
  | document
  | version
  | scenarios
  | scenario
  | conditions
  | condition
  | conditionKind
  | choices
  | choice
  | outcomes
  | outcome
  | text
  | number

namespace Role

/-- The kinds of values to choose from, where the rule is about kinds. -/
def kinds : Role → Option (List ValueKind)
  | document => some [.object]
  | version => some [.string]
  | scenarios => some [.object]
  | scenario => some [.object]
  | conditions => some [.object, .null]
  | condition => some [.object]
  | conditionKind => none
  | choices => some [.array, .null]
  | choice => some [.object]
  | outcomes => some [.object, .null]
  | outcome => some [.object]
  | text => some [.string, .null]
  | number => some [.number, .null]

/-- The members that have a meaning of their own, in the order of their rules. -/
def named : Role → List (String × Role)
  | document => [("version", version), ("scenarios", scenarios)]
  | scenario => [("name", text), ("conditions", conditions), ("outputs", outcomes)]
  | condition =>
    [("label", text), ("type", conditionKind), ("kind", conditionKind), ("weight", number),
      ("options", choices)]
  | choice => [("value", text), ("label", text), ("weight", number)]
  | outcome => [("threshold", number), ("message", text), ("type", text), ("kind", text)]
  | _ => []

/-- What every member is meant to be, whatever its name. -/
def members : Role → Option Role
  | scenarios => some scenario
  | conditions => some condition
  | outcomes => some outcome
  | _ => none

/-- What every item is meant to be. -/
def items : Role → Option Role
  | choices => some choice
  | _ => none

/-- A part with a role breaks a rule. -/
inductive Breaks : Role → Json → Rule → Prop where
  | ofKind {role : Role} {kinds : List ValueKind} {value : Json} (asked : role.kinds = some kinds)
    (other : ∀ kind ∈ kinds, kind.holds value = false) : Breaks role value (.ofKind kinds)
  | withoutScenarios {members : List (String × Json)}
    (missing : Entries.get? members "scenarios" = none) :
    Breaks document (.obj members) (.required "scenarios")
  | withoutKind {members : List (String × Json)} (noType : Entries.get? members "type" = none)
    (noKind : Entries.get? members "kind" = none) : Breaks condition (.obj members) .alternative
  | unknownKind {value : Json} (unknown : ¬ value.IsKindName) :
    Breaks conditionKind value (.listed ["radio", "checkbox", "text", "select"])

/-- A part with a role holds a part with another one, one step away. -/
inductive Holds : Role → Json → Step → Role → Json → Prop where
  | named {role part : Role} {members : List (String × Json)} {name : String} {value : Json}
    (listed : (name, part) ∈ role.named) (found : Entries.get? members name = some value) :
    Holds role (.obj members) (.member name) part value
  | member {role part : Role} {members : List (String × Json)} {name : String} {value : Json}
    (every : role.members = some part) (present : (name, value) ∈ members) :
    Holds role (.obj members) (.member name) part value
  | item {role part : Role} {items : List Json} {index : Nat} {value : Json}
    (every : role.items = some part) (found : items[index]? = some value) :
    Holds role (.arr items) (.item index) part value

end Role

/-- The part at a place of a document, and what it is meant to be. -/
inductive Json.Reaches (document : Json) : Place → Role → Json → Prop where
  | root : Reaches document [] .document document
  | step {place : Place} {role part : Role} {holder value : Json} {step : Step}
    (before : Reaches document place role holder) (holds : role.Holds holder step part value) :
    Reaches document (place ++ [step]) part value

/-- A part at the place breaks a rule. -/
def Json.Violates (document : Json) (place : Place) : Prop :=
  ∃ role part rule, document.Reaches place role part ∧ role.Breaks part rule

/-- A part with a whole number that is too long breaks a rule, and the message about the rule would
have to show the part. Only the message about a member that is missing need not. -/
def Json.Unspeakable (document : Json) : Prop :=
  ∃ place role part rule, document.Reaches place role part ∧ role.Breaks part rule ∧
    part.hasLongNumber = true ∧ ∀ name, rule ≠ .required name

/-! ### Flaws of one rule -/

section

variable {flaws : Place → Json → List Flaw} {place : Place} {value : Json} {flaw : Flaw}

theorem mem_kindFlaws {kinds : List ValueKind} :
    flaw ∈ kindFlaws kinds place value ↔
      (∀ kind ∈ kinds, kind.holds value = false) ∧ flaw = ⟨place, value, .ofKind kinds⟩ := by
  unfold kindFlaws
  split
  case isTrue holds =>
    obtain ⟨kind, member, isKind⟩ := List.any_eq_true.mp holds
    refine iff_of_false List.not_mem_nil fun broken => ?_
    exact absurd isKind (by rw [broken.1 kind member]; exact Bool.false_ne_true)
  case isFalse other =>
    rw [List.mem_singleton, iff_and_self]
    intro _ kind member
    rw [← Bool.not_eq_true]
    exact fun isKind => other (List.any_eq_true.mpr ⟨kind, member, isKind⟩)

theorem mem_conditionKindFlaws :
    flaw ∈ conditionKindFlaws place value ↔
      ¬ value.IsKindName ∧
        flaw = ⟨place, value, .listed ["radio", "checkbox", "text", "select"]⟩ := by
  rw [← decides_conditionKind place value]
  have some_ : conditionKindFlaws place value = [] ∨ conditionKindFlaws place value =
      [⟨place, value, .listed ["radio", "checkbox", "text", "select"]⟩] := by
    unfold conditionKindFlaws
    cases value
    case str name =>
      dsimp only
      split
      · exact Or.inl rfl
      · exact Or.inr rfl
    all_goals exact Or.inr rfl
  rcases some_ with none | one
  · rw [none]
    exact iff_of_false List.not_mem_nil fun broken => broken.1 rfl
  · rw [one, List.mem_singleton, iff_and_self]
    exact fun _ => List.cons_ne_nil _ _

theorem mem_kindNamedFlaws :
    flaw ∈ kindNamedFlaws place value ↔
      ∃ members, value = .obj members ∧ Entries.get? members "type" = none ∧
        Entries.get? members "kind" = none ∧ flaw = ⟨place, value, .alternative⟩ := by
  cases value
  case obj members =>
    simp only [kindNamedFlaws, Json.obj.injEq, exists_eq_left']
    generalize Entries.get? members "type" = type
    generalize Entries.get? members "kind" = kind
    cases type <;> cases kind <;> simp
  all_goals simp [kindNamedFlaws]

theorem mem_memberFlaws {name : String} :
    flaw ∈ memberFlaws value place name flaws ↔
      ∃ members part, value = .obj members ∧ Entries.get? members name = some part ∧
        flaw ∈ flaws (place ++ [.member name]) part := by
  cases value
  case obj members =>
    simp only [memberFlaws, Json.obj.injEq, exists_and_left, exists_eq_left']
    cases Entries.get? members name <;> simp
  all_goals simp [memberFlaws]

theorem mem_eachMemberFlaws :
    flaw ∈ eachMemberFlaws flaws place value ↔
      ∃ members name part, value = .obj members ∧ (name, part) ∈ members ∧
        flaw ∈ flaws (place ++ [.member name]) part := by
  cases value <;> simp [eachMemberFlaws]

theorem mem_eachItemFlaws :
    flaw ∈ eachItemFlaws flaws place value ↔
      ∃ items index part, value = .arr items ∧ items[index]? = some part ∧
        flaw ∈ flaws (place ++ [.item index]) part := by
  cases value
  case arr items =>
    simp only [eachItemFlaws, List.mem_flatMap, Prod.exists, List.mem_zipIdx_iff_getElem?,
      Json.arr.injEq, exists_and_left, exists_eq_left']
    exact exists_comm.trans (by simp only)
  all_goals simp [eachItemFlaws]

end

/-! ### Flaws by role -/

namespace Role

/-- The flaws of the part itself that are not about kinds of values. -/
def furtherFlaws : Role → Place → Json → List Flaw
  | document => fun place value =>
    match value with
    | .obj members =>
      if (Entries.get? members "scenarios").isSome then []
      else [⟨place, value, .required "scenarios"⟩]
    | _ => []
  | condition => kindNamedFlaws
  | conditionKind => conditionKindFlaws
  | _ => fun _ _ => []

/-- The flaws of the part itself. -/
def ownFlaws (role : Role) (place : Place) (value : Json) : List Flaw :=
  (match role.kinds with
    | some kinds => kindFlaws kinds place value
    | none => []) ++ role.furtherFlaws place value

/-- All flaws of a part with the role. -/
def flaws : Role → Place → Json → List Flaw
  | document => fun place value =>
    document.ownFlaws place value ++ memberFlaws value place "version" (kindFlaws [.string]) ++
      memberFlaws value place "scenarios" scenariosFlaws
  | version => kindFlaws [.string]
  | scenarios => scenariosFlaws
  | scenario => scenarioFlaws
  | conditions => partsFlaws conditionFlaws
  | condition => conditionFlaws
  | conditionKind => conditionKindFlaws
  | choices => choicesFlaws
  | choice => choiceFlaws
  | outcomes => partsFlaws outcomeFlaws
  | outcome => outcomeFlaws
  | text => textFlaws
  | number => numberFlaws

/-- The flaws of the parts that a part holds. -/
def partFlaws (role : Role) (place : Place) (value : Json) : List Flaw :=
  (role.named.flatMap fun entry => memberFlaws value place entry.1 entry.2.flaws) ++
    (match role.members with
      | some part => eachMemberFlaws part.flaws place value
      | none => []) ++
    match role.items with
    | some part => eachItemFlaws part.flaws place value
    | none => []

/-- The flaws of a part are its own and those of the parts it holds. -/
theorem flaws_eq (role : Role) (place : Place) (value : Json) :
    role.flaws place value = role.ownFlaws place value ++ role.partFlaws place value := by
  cases role <;>
    simp [flaws, ownFlaws, furtherFlaws, partFlaws, kinds, named, members, items, textFlaws,
      numberFlaws, choiceFlaws, choicesFlaws, conditionFlaws, outcomeFlaws, partsFlaws,
      scenarioFlaws, scenariosFlaws]

theorem flaws_document (value : Json) : document.flaws [] value = documentFlaws value := by
  cases value <;> rfl

/-- A part has flaws of its own exactly if it breaks rules. -/
theorem mem_ownFlaws (role : Role) (place : Place) (value : Json) (flaw : Flaw) :
    flaw ∈ role.ownFlaws place value ↔
      ∃ rule, role.Breaks value rule ∧ flaw = ⟨place, value, rule⟩ := by
  rw [ownFlaws, List.mem_append]
  constructor
  · rintro (ofKind | ofRole)
    · cases asked : role.kinds with
      | none => simp [asked] at ofKind
      | some kinds =>
        rw [asked] at ofKind
        obtain ⟨other, isFlaw⟩ := mem_kindFlaws.mp ofKind
        exact ⟨_, .ofKind asked other, isFlaw⟩
    · cases role
      case document =>
        cases value
        case obj members =>
          simp only [furtherFlaws] at ofRole
          cases found : Entries.get? members "scenarios" with
          | none =>
            rw [found] at ofRole
            exact ⟨_, .withoutScenarios found, List.mem_singleton.mp ofRole⟩
          | some part =>
            rw [found] at ofRole
            exact absurd ofRole List.not_mem_nil
        all_goals exact absurd ofRole List.not_mem_nil
      case condition =>
        obtain ⟨members, rfl, noType, noKind, isFlaw⟩ := mem_kindNamedFlaws.mp ofRole
        exact ⟨_, .withoutKind noType noKind, isFlaw⟩
      case conditionKind =>
        obtain ⟨unknown, isFlaw⟩ := mem_conditionKindFlaws.mp ofRole
        exact ⟨_, .unknownKind unknown, isFlaw⟩
      all_goals exact absurd ofRole List.not_mem_nil
  · rintro ⟨rule, breaks, rfl⟩
    cases breaks with
    | ofKind asked other =>
      refine Or.inl ?_
      rw [asked]
      exact mem_kindFlaws.mpr ⟨other, rfl⟩
    | withoutScenarios missing =>
      refine Or.inr ?_
      simp [furtherFlaws, missing]
    | withoutKind noType noKind =>
      exact Or.inr (mem_kindNamedFlaws.mpr ⟨_, rfl, noType, noKind, rfl⟩)
    | unknownKind unknown => exact Or.inr (mem_conditionKindFlaws.mpr ⟨unknown, rfl⟩)

/-- The other flaws are those of the parts that it holds. -/
theorem mem_partFlaws (role : Role) (place : Place) (value : Json) (flaw : Flaw) :
    flaw ∈ role.partFlaws place value ↔
      ∃ step part child, role.Holds value step part child ∧
        flaw ∈ part.flaws (place ++ [step]) child := by
  rw [partFlaws, List.mem_append, List.mem_append, List.mem_flatMap]
  constructor
  · rintro ((⟨⟨name, part⟩, listed, inMember⟩ | inEach) | inEach)
    · obtain ⟨members, child, rfl, found, inChild⟩ := mem_memberFlaws.mp inMember
      exact ⟨_, _, _, .named listed found, inChild⟩
    · cases every : role.members with
      | none => simp [every] at inEach
      | some part =>
        rw [every] at inEach
        obtain ⟨members, name, child, rfl, present, inChild⟩ := mem_eachMemberFlaws.mp inEach
        exact ⟨_, _, _, .member every present, inChild⟩
    · cases every : role.items with
      | none => simp [every] at inEach
      | some part =>
        rw [every] at inEach
        obtain ⟨items, index, child, rfl, found, inChild⟩ := mem_eachItemFlaws.mp inEach
        exact ⟨_, _, _, .item every found, inChild⟩
  · rintro ⟨step, part, child, holds, inChild⟩
    cases holds with
    | named listed found =>
      exact Or.inl (Or.inl ⟨_, listed, mem_memberFlaws.mpr ⟨_, _, rfl, found, inChild⟩⟩)
    | member every present =>
      refine Or.inl (Or.inr ?_)
      rw [every]
      exact mem_eachMemberFlaws.mpr ⟨_, _, _, rfl, present, inChild⟩
    | item every found =>
      refine Or.inr ?_
      rw [every]
      exact mem_eachItemFlaws.mpr ⟨_, _, _, rfl, found, inChild⟩

end Role

/-! ### Flaws by place -/

section

variable {document : Json}

/-- What a part that is reached has for flaws, the document has. -/
theorem Json.Reaches.mem_documentFlaws {place : Place} {role : Role} {part : Json}
    (reaches : document.Reaches place role part) (flaw : Flaw)
    (inPart : flaw ∈ role.flaws place part) : flaw ∈ documentFlaws document := by
  induction reaches with
  | root => exact Role.flaws_document document ▸ inPart
  | step before holds inductionHypothesis =>
    refine inductionHypothesis ?_
    rw [Role.flaws_eq]
    exact List.mem_append_right _ ((Role.mem_partFlaws ..).mpr ⟨_, _, _, holds, inPart⟩)

/-- What a part that is reached has for flaws comes from rules that are broken there or beyond. -/
theorem Json.Reaches.exists_breaks {place : Place} {role : Role} {part : Json}
    (reaches : document.Reaches place role part) (flaw : Flaw)
    (inPart : flaw ∈ role.flaws place part) :
    ∃ role, document.Reaches flaw.place role flaw.found ∧ role.Breaks flaw.found flaw.rule := by
  have own (role : Role) (place : Place) (part : Json) (reaches : document.Reaches place role part)
      (isOwn : flaw ∈ role.ownFlaws place part) :
      ∃ role, document.Reaches flaw.place role flaw.found ∧
        role.Breaks flaw.found flaw.rule := by
    obtain ⟨rule, breaks, rfl⟩ := (Role.mem_ownFlaws role place part flaw).mp isOwn
    exact ⟨role, reaches, breaks⟩
  -- The parts that a part holds are its items or members, whatever the roles.
  induction part using Json.inductionOnParts generalizing place role with
  | arr items inductionHypothesis =>
    rw [Role.flaws_eq, List.mem_append] at inPart
    rcases inPart with isOwn | beyond
    · exact own _ _ _ reaches isOwn
    · obtain ⟨step, part, child, holds, inChild⟩ := (Role.mem_partFlaws ..).mp beyond
      have further := reaches.step holds
      cases holds with
      | item every found =>
        exact inductionHypothesis _ (List.mem_of_getElem? found) further inChild
  | obj members inductionHypothesis =>
    rw [Role.flaws_eq, List.mem_append] at inPart
    rcases inPart with isOwn | beyond
    · exact own _ _ _ reaches isOwn
    · obtain ⟨step, part, child, holds, inChild⟩ := (Role.mem_partFlaws ..).mp beyond
      have further := reaches.step holds
      cases holds with
      | named listed found =>
        exact inductionHypothesis _ (Entries.mem_of_get? _ _ _ found) further inChild
      | member every present => exact inductionHypothesis _ present further inChild
  | _ =>
    rw [Role.flaws_eq, List.mem_append] at inPart
    rcases inPart with isOwn | beyond
    · exact own _ _ _ reaches isOwn
    · obtain ⟨step, part, child, holds, inChild⟩ := (Role.mem_partFlaws ..).mp beyond
      cases holds

/-- The flaws of a document are the rules that its parts break. -/
theorem mem_documentFlaws_iff (flaw : Flaw) :
    flaw ∈ documentFlaws document ↔
      ∃ role, document.Reaches flaw.place role flaw.found ∧
        role.Breaks flaw.found flaw.rule := by
  constructor
  · intro member
    exact Json.Reaches.root.exists_breaks flaw ((Role.flaws_document document).symm ▸ member)
  · rintro ⟨role, reaches, breaks⟩
    refine reaches.mem_documentFlaws flaw ?_
    rw [Role.flaws_eq]
    exact List.mem_append_left _ ((Role.mem_ownFlaws ..).mpr ⟨_, breaks, rfl⟩)

theorem violates_iff (place : Place) :
    document.Violates place ↔ ∃ flaw ∈ documentFlaws document, flaw.place = place := by
  simp only [mem_documentFlaws_iff]
  constructor
  · rintro ⟨role, part, rule, reaches, breaks⟩
    exact ⟨⟨place, part, rule⟩, ⟨role, reaches, breaks⟩, rfl⟩
  · rintro ⟨⟨_, part, rule⟩, ⟨role, reaches, breaks⟩, rfl⟩
    exact ⟨role, part, rule, reaches, breaks⟩

theorem unspeakable_iff :
    document.Unspeakable ↔ ∃ flaw ∈ documentFlaws document, flaw.Unspeakable := by
  simp only [mem_documentFlaws_iff]
  constructor
  · rintro ⟨place, role, part, rule, reaches, breaks, long, shown⟩
    exact ⟨⟨place, part, rule⟩, ⟨role, reaches, breaks⟩, long, shown⟩
  · rintro ⟨⟨place, part, rule⟩, ⟨role, reaches, breaks⟩, long, shown⟩
    exact ⟨place, role, part, rule, reaches, breaks, long, shown⟩

end

/-! ### The first flaw -/

theorem path_le_of_precedes {flaw other : Flaw} (precedes : flaw.precedes other = true) :
    flaw.place.path ≤ other.place.path := by
  simp only [Flaw.precedes, Bool.or_eq_true, decide_eq_true_eq, Bool.and_eq_true,
    beq_iff_eq] at precedes
  rcases precedes with before | ⟨same, -⟩
  · exact before.le
  · exact same.le

theorem path_le_of_not_precedes {flaw other : Flaw} (behind : ¬ flaw.precedes other = true) :
    other.place.path ≤ flaw.place.path := by
  simp only [Flaw.precedes, Bool.or_eq_true, decide_eq_true_eq, not_or] at behind
  exact not_lt.mp behind.1

/-- No flaw has a place that comes before that of the reported one as text. -/
theorem path_le_of_firstFlaw? {flaws : List Flaw} {flaw : Flaw}
    (isFirst : firstFlaw? flaws = some flaw) (other : Flaw) (member : other ∈ flaws) :
    flaw.place.path ≤ other.place.path := by
  induction flaws generalizing flaw with
  | nil => exact absurd member List.not_mem_nil
  | cons head rest inductionHypothesis =>
    rw [firstFlaw?] at isFirst
    cases isNext : firstFlaw? rest with
    | none =>
      rw [isNext] at isFirst
      cases isFirst
      have empty : rest = [] := by
        by_contra some_
        obtain ⟨next, -, present⟩ := exists_firstFlaw rest some_
        cases isNext.symm.trans present
      cases List.mem_singleton.mp (empty ▸ member)
      exact le_rfl
    | some next =>
      rw [isNext] at isFirst
      dsimp only at isFirst
      split at isFirst
      case isTrue precedes =>
        cases isFirst
        rcases List.mem_cons.mp member with rfl | behind
        · exact path_le_of_precedes precedes
        · exact inductionHypothesis isNext behind
      case isFalse follows =>
        cases isFirst
        rcases List.mem_cons.mp member with rfl | behind
        · exact le_rfl
        · exact (path_le_of_not_precedes follows).trans (inductionHypothesis isNext behind)

/-! ### The verdict -/

theorem checkAgainst_grammarName (value : Json) :
    checkAgainst grammarName value = checkDocument grammarName value :=
  if_pos (by decide +kernel)

theorem checkAgainst_unspeakable {value : Json} (unspeakable : value.Unspeakable) :
    checkAgainst grammarName value = .error .longNumber := by
  rw [checkAgainst_grammarName]
  exact checkDocument_unspeakable _ _ (unspeakable_iff.mp unspeakable)

/-- Any other value is refused for a rule that is broken at the place that comes first as text. -/
theorem checkAgainst_violating {value : Json} (noDocument : ¬ value.IsDocument)
    (speakable : ¬ value.Unspeakable) :
    ∃ path detail,
      checkAgainst grammarName value = .error (.violation grammarName path detail) ∧
        IsLeast {path | ∃ place, value.Violates place ∧ place.path = path} path := by
  have flawed : documentFlaws value ≠ [] := mt (documentFlaws_eq_nil_iff value).mp noDocument
  obtain ⟨flaw, detail, isFirst, isFault⟩ :=
    checkDocument_flawed grammarName value flawed (mt unspeakable_iff.mpr speakable)
  refine ⟨flaw.place.path, detail, (checkAgainst_grammarName value).trans isFault, ?_, ?_⟩
  · obtain ⟨first, member, isSame⟩ := exists_firstFlaw _ flawed
    cases isFirst.symm.trans isSame
    exact ⟨flaw.place, (violates_iff _).mpr ⟨flaw, member, rfl⟩, rfl⟩
  · rintro path ⟨place, violates, rfl⟩
    obtain ⟨other, member, rfl⟩ := (violates_iff _).mp violates
    exact path_le_of_firstFlaw? isFirst other member

/-- What is not passed is refused or too much to be put into words. -/
theorem checkAgainst_eq_ok_iff (value : Json) :
    checkAgainst grammarName value = .ok () ↔ value.IsDocument := by
  refine ⟨fun passes => ?_, fun isDocument => ?_⟩
  · by_contra noDocument
    by_cases unspeakable : value.Unspeakable
    · cases passes.symm.trans (checkAgainst_unspeakable unspeakable)
    · obtain ⟨path, detail, isFault, -⟩ := checkAgainst_violating noDocument unspeakable
      cases passes.symm.trans isFault
  · rw [checkAgainst_grammarName]
    exact checkDocument_flawless _ _ ((documentFlaws_eq_nil_iff value).mpr isDocument)

/-- The check passes exactly the documents. Any other value is refused for a rule that is broken at
the place that comes first as text, unless a part with a whole number that is too long would have to
be shown; then the check fails for that. -/
theorem checkAgainst_exactly (value : Json) :
    (checkAgainst grammarName value = .ok () ↔ value.IsDocument) ∧
      ((∃ path detail,
        checkAgainst grammarName value = .error (.violation grammarName path detail) ∧
          IsLeast {path | ∃ place, value.Violates place ∧ place.path = path} path) ↔
        ¬ value.IsDocument ∧ ¬ value.Unspeakable) ∧
      (checkAgainst grammarName value = .error .longNumber ↔ value.Unspeakable) := by
  refine ⟨checkAgainst_eq_ok_iff value, ⟨?_, fun ⟨noDocument, speakable⟩ =>
    checkAgainst_violating noDocument speakable⟩, ⟨fun fails => ?_, checkAgainst_unspeakable⟩⟩
  · rintro ⟨path, detail, isFault, -⟩
    refine ⟨fun isDocument => ?_, fun unspeakable => ?_⟩
    · cases isFault.symm.trans ((checkAgainst_eq_ok_iff value).mpr isDocument)
    · cases isFault.symm.trans (checkAgainst_unspeakable unspeakable)
  · by_contra speakable
    by_cases isDocument : value.IsDocument
    · cases fails.symm.trans ((checkAgainst_eq_ok_iff value).mpr isDocument)
    · obtain ⟨path, detail, isFault, -⟩ := checkAgainst_violating isDocument speakable
      cases fails.symm.trans isFault

/-- Not every value that is no document is refused for a broken rule: where the scenarios are a
whole number of 4301 digits, the message cannot be written. -/
theorem checkAgainst_fails_longNumber :
    ¬ (Json.obj [("scenarios", .int (10 ^ 4300))]).IsDocument ∧
      ¬ ∃ path detail, checkAgainst grammarName (.obj [("scenarios", .int (10 ^ 4300))]) =
        .error (.violation grammarName path detail) := by
  have unspeakable : (Json.obj [("scenarios", .int (10 ^ 4300))]).Unspeakable :=
    ⟨_, _, _, _, Json.Reaches.root.step (.named (.tail _ (.head _)) rfl),
      .ofKind rfl (by decide), by decide +kernel, nofun⟩
  have fails := checkAgainst_unspeakable unspeakable
  rw [← checkAgainst_eq_ok_iff]
  refine ⟨fun passes => ?_, ?_⟩
  · cases fails.symm.trans passes
  · rintro ⟨path, detail, isFault⟩
    cases fails.symm.trans isFault

end MarketSignal
