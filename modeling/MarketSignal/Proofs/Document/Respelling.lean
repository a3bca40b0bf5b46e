/-
This file proves that a document may be spelled in several ways. The kind of a condition or an
outcome may stand under either of its names, what is null may be left out, and members of which the
grammar does not speak may be added: wherever in an accepted document this is done, and however
often, the document is still accepted and gives the same book, with its scenarios in the same order.

A part of a document is kept by a change if it is still accepted and is read as before. What a part
is read as depends on its members one by one, so a part is kept if its members are; a change of the
part itself keeps them, and so does a change of a part that it holds.
-/
import MarketSignal.Proofs.Service.Entrances

namespace MarketSignal

/-! ### Changing a list of entries -/

namespace Entries

variable {Value : Type}

theorem get?_append (front back : List (String × Value)) (name : String) :
    get? (front ++ back) name = (get? front name).or (get? back name) := by
  induction front with
  | nil => rfl
  | cons entry rest inductionHypothesis =>
    obtain ⟨other, current⟩ := entry
    rw [List.cons_append, get?, get?, inductionHypothesis]
    split <;> rfl

theorem get?_of_not_mem {entries : List (String × Value)} {name : String}
    (absent : name ∉ names entries) : get? entries name = none := by
  cases found : get? entries name with
  | none => rfl
  | some value =>
    exact absurd (List.mem_map_of_mem (mem_of_get? entries name value found)) absent

/-- An entry disturbs none of another name. -/
theorem get?_between_other (front back : List (String × Value)) {name other : String}
    (value : Value) (different : name ≠ other) :
    get? (front ++ (name, value) :: back) other = get? (front ++ back) other := by
  rw [get?_append, get?_append, get?, if_neg different]

theorem get?_between_self {front back : List (String × Value)} {name : String} (value : Value)
    (absent : name ∉ names (front ++ back)) :
    get? (front ++ (name, value) :: back) name = some value := by
  have notBefore : get? front name = none := get?_of_not_mem fun member =>
    absent (by
      rw [names, List.map_append]
      exact List.mem_append_left _ member)
  rw [get?_append, notBefore, get?, if_pos rfl, Option.none_or]

/-- What stands under a name is the first entry of that name. -/
theorem get?_between (front back : List (String × Value)) (name : String) (first second : Value) :
    get? (front ++ (name, second) :: back) name = get? (front ++ (name, first) :: back) name ∨
      get? (front ++ (name, first) :: back) name = some first ∧
        get? (front ++ (name, second) :: back) name = some second := by
  rw [get?_append, get?_append, get?, get?, if_pos rfl, if_pos rfl]
  cases get? front name with
  | none => exact Or.inr ⟨rfl, rfl⟩
  | some value => exact Or.inl rfl

theorem get?_between_ne_none (front back : List (String × Value)) (name : String) (value : Value) :
    get? (front ++ (name, value) :: back) name ≠ none := by
  rw [get?_append, get?, if_pos rfl]
  cases get? front name <;> exact Option.some_ne_none _

end Entries

/-! ### Other spellings -/

/-- The parts of a document of which the grammar speaks. -/
inductive Part where
  | document
  | scenario
  | condition
  | choice
  | outcome
deriving DecidableEq

namespace Part

/-- The names of the members of a part of which the grammar speaks. -/
def names : Part → List String
  | document => ["version", "scenarios"]
  | scenario => ["name", "conditions", "outputs"]
  | condition => ["label", "type", "kind", "weight", "options"]
  | choice => ["value", "label", "weight"]
  | outcome => ["threshold", "message", "type", "kind"]

/-- The members of a part are spelled in another way. -/
inductive Edits : Part → List (String × Json) → List (String × Json) → Prop where
  /-- The kind moves to its other name, which was free. -/
  | renamed {part : Part} (annotated : part = .condition ∨ part = .outcome)
      (front back front' back' : List (String × Json)) (kind : Json)
      (same : front' ++ back' = front ++ back) (noType : "type" ∉ Entries.names (front ++ back))
      (noKind : "kind" ∉ Entries.names (front ++ back)) :
      Edits part (front ++ ("type", kind) :: back) (front' ++ ("kind", kind) :: back')
  /-- A member that is null is left out. -/
  | dropped {part : Part} (inner : part ≠ .document) (front back : List (String × Json))
      {name : String} (absent : name ∉ Entries.names (front ++ back)) :
      Edits part (front ++ (name, .null) :: back) (front ++ back)
  /-- A member is added of which the grammar does not speak. -/
  | added {part : Part} (front back : List (String × Json)) {name : String}
      (unmentioned : name ∉ part.names) (value : Json) :
      Edits part (front ++ back) (front ++ (name, value) :: back)

/-- The members that hold parts by name. -/
inductive Holds : Part → String → Part → Prop where
  | scenarios : Holds document "scenarios" scenario
  | conditions : Holds scenario "conditions" condition
  | outcomes : Holds scenario "outputs" outcome

end Part

/-- A part is spelled in another way at one place, in itself or in a part that it holds. -/
inductive Respelled : Part → Json → Json → Prop where
  | here {part : Part} {before after : List (String × Json)} (edits : part.Edits before after) :
      Respelled part (.obj before) (.obj after)
  | member {whole part : Part} {name : String} (holds : whole.Holds name part)
      (front back first rest : List (String × Json)) (key : String) {before after : Json}
      (changed : Respelled part before after) :
      Respelled whole
        (.obj (front ++ (name, .obj (first ++ (key, before) :: rest)) :: back))
        (.obj (front ++ (name, .obj (first ++ (key, after) :: rest)) :: back))
  | item (front back : List (String × Json)) (first rest : List Json) {before after : Json}
      (changed : Respelled .choice before after) :
      Respelled .condition
        (.obj (front ++ ("options", .arr (first ++ before :: rest)) :: back))
        (.obj (front ++ ("options", .arr (first ++ after :: rest)) :: back))

/-! ### Members that are kept -/

/-- What stands under a name stays, or is null and is left out. -/
def Loses (before after : List (String × Json)) (name : String) : Prop :=
  Entries.get? after name = Entries.get? before name ∨
    Entries.get? before name = some .null ∧ Entries.get? after name = none

/-- A member is still of the form and is read as before. -/
structure Keeps {Read : Type} (form : Json → Prop) (read : Json → Read)
    (before after : List (String × Json)) (name : String) : Prop where
  fits : MayHave before name form → MayHave after name form
  same : read ((Json.obj after).member name) = read ((Json.obj before).member name)

section

variable {before after : List (String × Json)} {name : String}

theorem Loses.member (loses : Loses before after name) :
    (Json.obj after).member name = (Json.obj before).member name := by
  rw [Json.member_obj, Json.member_obj]
  rcases loses with same | ⟨wasNull, isGone⟩
  · rw [same]
  · rw [wasNull, isGone]
    rfl

theorem Loses.fits (loses : Loses before after name) {form : Json → Prop}
    (fits : MayHave before name form) : MayHave after name form := by
  rcases loses with same | ⟨-, isGone⟩
  · exact fun part found => fits part (same ▸ found)
  · exact fun part found => nomatch isGone.symm.trans found

theorem Loses.keeps (loses : Loses before after name) {Read : Type} (form : Json → Prop)
    (read : Json → Read) : Keeps form read before after name :=
  ⟨loses.fits, congrArg read loses.member⟩

end

/-- A member is kept if what takes its place is of the form and is read as before. -/
theorem keeps_between {Read : Type} {form : Json → Prop} {read : Json → Read}
    (front back : List (String × Json)) (name : String) {first second : Json}
    (fits : form first → form second) (same : read second = read first) :
    Keeps form read (front ++ (name, first) :: back) (front ++ (name, second) :: back) name := by
  rcases Entries.get?_between front back name first second with unchanged | ⟨isFirst, isSecond⟩
  · exact (show Loses _ _ name from Or.inl unchanged).keeps form read
  · constructor
    · intro wasForm part found
      cases isSecond.symm.trans found
      exact fits (wasForm first isFirst)
    · rw [Json.member_obj, Json.member_obj, isFirst, isSecond]
      exact same

/-- Members of other names are not touched. -/
theorem loses_between (front back : List (String × Json)) {name other : String}
    (first second : Json) (different : name ≠ other) :
    Loses (front ++ (name, first) :: back) (front ++ (name, second) :: back) other := by
  refine Or.inl ?_
  rw [Entries.get?_between_other _ _ _ different, Entries.get?_between_other _ _ _ different]

/-! ### Kinds that are kept -/

/-- The names of a kind stay, or the kind moves from the one to the other. -/
inductive KeepsKind (before after : List (String × Json)) : Prop where
  | loses (type : Loses before after "type") (kind : Loses before after "kind")
  | moved (kind : Json) (wasType : Entries.get? before "type" = some kind)
      (noKind : Entries.get? before "kind" = none) (noType : Entries.get? after "type" = none)
      (isKind : Entries.get? after "kind" = some kind)

namespace KeepsKind

variable {before after : List (String × Json)} (keeps : KeepsKind before after)

include keeps

theorem same : kindMember (.obj after) = kindMember (.obj before) := by
  unfold kindMember
  cases keeps with
  | loses type kind => rw [type.member, kind.member]
  | moved kind wasType noKind noType isKind =>
    rw [Json.member_obj, Json.member_obj, Json.member_obj, Json.member_obj, wasType, noKind, noType,
      isKind]
    cases kind <;> rfl

theorem fits {form : Json → Prop} (type : MayHave before "type" form)
    (kind : MayHave before "kind" form) :
    MayHave after "type" form ∧ MayHave after "kind" form := by
  cases keeps with
  | loses ofType ofKind => exact ⟨ofType.fits type, ofKind.fits kind⟩
  | moved value wasType noKind noType isKind =>
    refine ⟨fun part found => (nomatch noType.symm.trans found), fun part found => ?_⟩
    cases isKind.symm.trans found
    exact type value wasType

/-- A kind that is not null is not lost. -/
theorem named {form : Json → Prop} (notNull : ¬ form .null) (type : MayHave before "type" form)
    (kind : MayHave before "kind" form)
    (present : Entries.get? before "type" ≠ none ∨ Entries.get? before "kind" ≠ none) :
    Entries.get? after "type" ≠ none ∨ Entries.get? after "kind" ≠ none := by
  have stays {name : String} (loses : Loses before after name) (fits : MayHave before name form)
      (there : Entries.get? before name ≠ none) : Entries.get? after name ≠ none := by
    rcases loses with same | ⟨wasNull, -⟩
    · rwa [same]
    · exact absurd (fits _ wasNull) notNull
  cases keeps with
  | loses ofType ofKind => exact present.imp (stays ofType type) (stays ofKind kind)
  | moved value wasType noKind noType isKind => exact Or.inr (by simp [isKind])

end KeepsKind

namespace Part.Edits

variable {part : Part} {before after : List (String × Json)} (edits : part.Edits before after)

include edits

/-- An edit keeps every member of which the grammar speaks, unless it moves the kind, which touches
no other member. -/
theorem effect :
    (∀ name ∈ part.names, Loses before after name) ∨
      KeepsKind before after ∧
        ∀ name, "type" ≠ name → "kind" ≠ name → Loses before after name := by
  cases edits with
  | renamed annotated front back front' back' kind same noType noKind =>
    refine Or.inr ⟨.moved kind ?_ ?_ ?_ ?_, fun name notType notKind => Or.inl ?_⟩
    · exact Entries.get?_between_self kind noType
    · rw [Entries.get?_between_other _ _ _ (by decide)]
      exact Entries.get?_of_not_mem noKind
    · rw [Entries.get?_between_other _ _ _ (by decide), same]
      exact Entries.get?_of_not_mem noType
    · exact Entries.get?_between_self kind (same ▸ noKind)
    · rw [Entries.get?_between_other _ _ _ notKind, Entries.get?_between_other _ _ _ notType, same]
  | @dropped inner front back other absent =>
    refine Or.inl fun name mentioned => ?_
    by_cases isName : other = name
    · subst isName
      exact Or.inr ⟨Entries.get?_between_self _ absent, Entries.get?_of_not_mem absent⟩
    · exact Or.inl (Entries.get?_between_other _ _ _ isName).symm
  | added front back unmentioned value =>
    refine Or.inl fun name mentioned => Or.inl (Entries.get?_between_other _ _ _ ?_)
    rintro rfl
    exact unmentioned mentioned

theorem loses {name : String} (plain : name ∈ part.names ∧ "type" ≠ name ∧ "kind" ≠ name) :
    Loses before after name :=
  edits.effect.elim (fun all => all name plain.1) fun moved => moved.2 name plain.2.1 plain.2.2

theorem keepsKind (hasType : "type" ∈ part.names) (hasKind : "kind" ∈ part.names) :
    KeepsKind before after :=
  edits.effect.elim (fun all => .loses (all _ hasType) (all _ hasKind)) And.left

/-- Nothing of a document is left out. -/
theorem same_of_document (isDocument : part = .document) {name : String}
    (mentioned : name ∈ part.names) : Entries.get? after name = Entries.get? before name := by
  cases edits with
  | renamed annotated => exact absurd isDocument (by rcases annotated with rfl | rfl <;> decide)
  | dropped inner => exact absurd isDocument inner
  | added front back unmentioned value =>
    refine Entries.get?_between_other _ _ _ ?_
    rintro rfl
    exact unmentioned mentioned

end Part.Edits

/-! ### Parts that are kept -/

namespace Part

/-- The grammar lets the part pass. -/
def Accepts : Part → Json → Prop
  | document => Json.IsDocument
  | scenario => Json.IsScenario
  | condition => Json.IsCondition
  | choice => Json.IsChoice
  | outcome => Json.IsOutcome

/-- Two values are read as the same part. -/
def Alike : Part → Json → Json → Prop
  | document, left, right => Book.ofUnchecked left = Book.ofUnchecked right
  | scenario, left, right => ∀ id, Scenario.read id left = Scenario.read id right
  | condition, left, right => Condition.read left = Condition.read right
  | choice, left, right => Choice.read left = Choice.read right
  | outcome, left, right => Outcome.read left = Outcome.read right

/-- A part is still accepted, and is read as before. -/
structure Kept (part : Part) (before after : Json) : Prop where
  accepts : part.Accepts before → part.Accepts after
  alike : part.Alike after before

end Part

/-- The choices of a condition. -/
def readChoices (value : Json) : Except Fault (List Choice) :=
  optionalItems value >>= fun items => items.mapM Choice.read

/-- The conditions of a scenario with the given identity. -/
def readConditions (id : String) (value : Json) : Except Fault (Table Condition) :=
  optionalMembers value >>= readMembers fun key item =>
    match Condition.read item with
    | .ok condition => .ok condition
    | .error fault => .error (placedInCondition id key fault)

/-- The outcomes of a scenario. -/
def readOutcomes (value : Json) : Except Fault (Table Outcome) :=
  optionalMembers value >>= readMembers fun _ item => Outcome.read item

section

variable {before after : List (String × Json)}

theorem kept_choice (value : Loses before after "value") (label : Loses before after "label")
    (weight : Loses before after "weight") : Part.choice.Kept (.obj before) (.obj after) := by
  constructor
  · rintro ⟨_, same, isValue, isLabel, isWeight⟩
    cases same
    exact ⟨after, rfl, value.fits isValue, label.fits isLabel, weight.fits isWeight⟩
  · show Choice.read _ = Choice.read _
    unfold Choice.read
    rw [value.member, label.member, weight.member]
    rfl

theorem kept_condition (label : Loses before after "label") (weight : Loses before after "weight")
    (kind : KeepsKind before after)
    (choices : Keeps (Json.IsListOf Json.IsChoice) readChoices before after "options") :
    Part.condition.Kept (.obj before) (.obj after) := by
  constructor
  · rintro ⟨_, same, present, isLabel, isType, isKind, isWeight, areChoices⟩
    cases same
    have notNull : ¬ Json.IsKindName .null := by
      rintro ⟨name, -, same⟩
      cases same
    obtain ⟨isType', isKind'⟩ := kind.fits isType isKind
    exact ⟨after, rfl, kind.named notNull isType isKind present, label.fits isLabel, isType',
      isKind', weight.fits isWeight, choices.fits areChoices⟩
  · have steps (members : List (String × Json)) : Condition.read (.obj members) = (do
        let kind ← ConditionKind.read (kindMember (.obj members))
        let label ← readText ((Json.obj members).member "label")
        let weight ← readWeight ((Json.obj members).member "weight")
        let choices ← readChoices ((Json.obj members).member "options")
        return ⟨.str label, kind, weight, choices⟩) := by
      simp only [readChoices, bind_assoc]
      rfl
    show Condition.read _ = Condition.read _
    rw [steps, steps, kind.same, label.member, weight.member, choices.same]

theorem kept_outcome (threshold : Loses before after "threshold")
    (message : Loses before after "message") (kind : KeepsKind before after) :
    Part.outcome.Kept (.obj before) (.obj after) := by
  constructor
  · rintro ⟨_, same, isThreshold, isMessage, isType, isKind⟩
    cases same
    obtain ⟨isType', isKind'⟩ := kind.fits isType isKind
    exact ⟨after, rfl, threshold.fits isThreshold, message.fits isMessage, isType', isKind'⟩
  · show Outcome.read _ = Outcome.read _
    unfold Outcome.read
    rw [threshold.member, message.member, kind.same]
    rfl

theorem kept_scenario (name : Loses before after "name")
    (conditions : ∀ id, Keeps (Json.IsObjectOf Json.IsCondition) (readConditions id) before after
      "conditions")
    (outcomes : Keeps (Json.IsObjectOf Json.IsOutcome) readOutcomes before after "outputs") :
    Part.scenario.Kept (.obj before) (.obj after) := by
  constructor
  · rintro ⟨_, same, isName, areConditions, areOutcomes⟩
    cases same
    exact ⟨after, rfl, name.fits isName, (conditions "").fits areConditions,
      outcomes.fits areOutcomes⟩
  · have steps (id : String) (members : List (String × Json)) :
        Scenario.read id (.obj members) = (do
          let conditions ← readConditions id ((Json.obj members).member "conditions")
          let outcomes ← readOutcomes ((Json.obj members).member "outputs")
          let name ← readText ((Json.obj members).member "name")
          return ⟨id, .str name, conditions, outcomes⟩) := by
      simp only [readConditions, readOutcomes, bind_assoc]
      rfl
    show ∀ id, Scenario.read id _ = Scenario.read id _
    intro id
    rw [steps, steps, (conditions id).same, outcomes.same, name.member]

/-- An object of scenarios. -/
def AreScenarios (value : Json) : Prop :=
  ∃ scenarios, value = .obj scenarios ∧ ∀ scenario ∈ scenarios, scenario.2.IsScenario

/-- The scenarios of a document. -/
def readScenarios (value : Json) : Except Fault Book :=
  objectMembers value >>= readMembers Scenario.read

theorem kept_document (version : Loses before after "version")
    (scenarios : Keeps AreScenarios readScenarios before after "scenarios")
    (stays : Entries.get? before "scenarios" ≠ none → Entries.get? after "scenarios" ≠ none) :
    Part.document.Kept (.obj before) (.obj after) := by
  constructor
  · rintro ⟨_, held, same, found, areScenarios, isVersion⟩
    cases same
    have wereScenarios : MayHave before "scenarios" AreScenarios := fun part isPart => by
      cases found.symm.trans isPart
      exact ⟨held, rfl, areScenarios⟩
    obtain ⟨part, isPart⟩ := Option.ne_none_iff_exists'.mp (stays (by simp [found]))
    obtain ⟨left, rfl, areLeft⟩ := scenarios.fits wereScenarios part isPart
    exact ⟨after, left, rfl, isPart, areLeft, version.fits isVersion⟩
  · exact scenarios.same

end

/-! ### Parts that hold a part -/

section

variable {form : Json → Prop} {before after : Json}
  (fits : form before → form after)

include fits

theorem forall_members_replaced (first rest : List (String × Json)) (key : String)
    (each : ∀ member ∈ first ++ (key, before) :: rest, form member.2) :
    ∀ member ∈ first ++ (key, after) :: rest, form member.2 := by
  simp only [List.forall_mem_append, List.forall_mem_cons] at each ⊢
  exact ⟨each.1, fits each.2.1, each.2.2⟩

theorem isObjectOf_replaced (first rest : List (String × Json)) (key : String)
    (isObject : Json.IsObjectOf form (.obj (first ++ (key, before) :: rest))) :
    Json.IsObjectOf form (.obj (first ++ (key, after) :: rest)) := by
  rcases isObject with isNull | ⟨members, same, each⟩
  · cases isNull
  · cases same
    exact Or.inr ⟨_, rfl, forall_members_replaced fits first rest key each⟩

theorem isListOf_replaced (first rest : List Json)
    (isList : Json.IsListOf form (.arr (first ++ before :: rest))) :
    Json.IsListOf form (.arr (first ++ after :: rest)) := by
  rcases isList with isNull | ⟨items, same, each⟩
  · cases isNull
  · cases same
    refine Or.inr ⟨_, rfl, ?_⟩
    simp only [List.forall_mem_append, List.forall_mem_cons] at each ⊢
    exact ⟨each.1, fits each.2.1, each.2.2⟩

end

theorem readMembers_replaced {Read : Type} {read : String → Json → Except Fault Read}
    (first rest : List (String × Json)) (key : String) {before after : Json}
    (same : read key after = read key before) :
    readMembers read (first ++ (key, after) :: rest) =
      readMembers read (first ++ (key, before) :: rest) := by
  simp only [readMembers, List.mapM_append, List.mapM_cons, same]

theorem optionalMembers_between (first rest : List (String × Json)) (entry : String × Json) :
    optionalMembers (.obj (first ++ entry :: rest)) = .ok (first ++ entry :: rest) := by
  cases first <;> rfl

theorem readChoices_replaced (first rest : List Json) {before after : Json}
    (same : Choice.read after = Choice.read before) :
    readChoices (.arr (first ++ after :: rest)) = readChoices (.arr (first ++ before :: rest)) := by
  have items (choice : Json) : optionalItems (.arr (first ++ choice :: rest)) =
      .ok (first ++ choice :: rest) := by
    cases first <;> rfl
  simp only [readChoices, items, ok_bind, List.mapM_append, List.mapM_cons, same]

/-! ### One change -/

/-- A change at one place keeps the part: by cases on the part if it is changed itself, and
otherwise because it holds a part that is kept. -/
theorem Respelled.kept {part : Part} {before after : Json}
    (respelled : Respelled part before after) : part.Kept before after := by
  induction respelled with
  | @here part before after edits =>
    cases part with
    | choice =>
      exact kept_choice (edits.loses (by decide)) (edits.loses (by decide))
        (edits.loses (by decide))
    | condition =>
      exact kept_condition (edits.loses (by decide)) (edits.loses (by decide))
        (edits.keepsKind (by decide) (by decide))
        ((edits.loses (by decide)).keeps _ _)
    | outcome =>
      exact kept_outcome (edits.loses (by decide)) (edits.loses (by decide))
        (edits.keepsKind (by decide) (by decide))
    | scenario =>
      exact kept_scenario (edits.loses (by decide))
        (fun id => (edits.loses (by decide)).keeps _ _)
        ((edits.loses (by decide)).keeps _ _)
    | document =>
      have same := edits.same_of_document rfl (show "scenarios" ∈ Part.document.names by decide)
      exact kept_document (edits.loses (by decide))
        ((edits.loses (by decide)).keeps _ _) (fun there => same ▸ there)
  | member holds front back first rest key changed inductionHypothesis =>
    cases holds with
    | scenarios =>
      refine kept_document (loses_between _ _ _ _ (by decide)) (keeps_between _ _ _ ?_ ?_) ?_
      · rintro ⟨members, same, each⟩
        cases same
        exact ⟨_, rfl, forall_members_replaced inductionHypothesis.accepts first rest key each⟩
      · exact readMembers_replaced first rest key (inductionHypothesis.alike key)
      · exact fun _ => Entries.get?_between_ne_none _ _ _ _
    | conditions =>
      refine kept_scenario (loses_between _ _ _ _ (by decide))
        (fun id => keeps_between _ _ _
          (isObjectOf_replaced inductionHypothesis.accepts first rest key) ?_)
        ((loses_between _ _ _ _ (by decide)).keeps _ _)
      have same : Condition.read _ = Condition.read _ := inductionHypothesis.alike
      rw [readConditions, readConditions, optionalMembers_between, optionalMembers_between, ok_bind,
        ok_bind]
      exact readMembers_replaced first rest key (by rw [same])
    | outcomes =>
      refine kept_scenario (loses_between _ _ _ _ (by decide))
        (fun id => (loses_between _ _ _ _ (by decide)).keeps _ _)
        (keeps_between _ _ _ (isObjectOf_replaced inductionHypothesis.accepts first rest key) ?_)
      rw [readOutcomes, readOutcomes, optionalMembers_between, optionalMembers_between, ok_bind,
        ok_bind]
      exact readMembers_replaced first rest key inductionHypothesis.alike
  | item front back first rest changed inductionHypothesis =>
    exact kept_condition (loses_between _ _ _ _ (by decide)) (loses_between _ _ _ _ (by decide))
      (.loses (loses_between _ _ _ _ (by decide)) (loses_between _ _ _ _ (by decide)))
      (keeps_between _ _ _ (isListOf_replaced inductionHypothesis.accepts first rest)
        (readChoices_replaced first rest inductionHypothesis.alike))

/-! ### Whole documents -/

/-- A document that is accepted is accepted in every other spelling and gives the same book, with
its scenarios in the same order: wherever kinds are moved to their other name, members that are null
are left out, and members are added of which the grammar does not speak. -/
theorem Book.ofDocument_respelled (document other : Json) (book : Book)
    (isBook : Book.ofDocument document = .ok book)
    (respelled : Relation.ReflTransGen (Respelled .document) document other) :
    Book.ofDocument other = .ok book := by
  induction respelled with
  | refl => exact isBook
  | tail _ changed inductionHypothesis =>
    obtain ⟨isDocument, isRead⟩ := (Book.ofDocument_eq_ok_iff _ _).mp inductionHypothesis
    have kept := changed.kept
    exact (Book.ofDocument_eq_ok_iff _ _).mpr
      ⟨kept.accepts isDocument, (show Book.ofUnchecked _ = _ from kept.alike).trans isRead⟩

/-- A document with one question, in the given spelling. -/
def questionDocument (extra ofScenario ofCondition ofChoice : List (String × Json)) : Json :=
  .obj (extra ++ [("scenarios", .obj [("s", .obj (ofScenario ++ [("conditions", .obj [("c",
    .obj (ofCondition ++ [("options", .arr [.obj (("value", .str "yes") :: ofChoice)])]))])]))])])

/-- The same document with the kind under its other name, without what is null, and with a note. -/
theorem ofDocument_respelled_question :
    let kind : Json := .str "radio"
    let document := questionDocument [] [("name", .null)] [("type", kind)] [("label", .null)]
    let other := questionDocument [("note", .int 7)] [] [("kind", kind)] []
    ∃ book, Book.ofDocument document = .ok book ∧ Table.names book = ["s"] ∧
      Relation.ReflTransGen (Respelled .document) document other ∧
      Book.ofDocument other = .ok book := by
  intro kind document other
  have noted : Respelled .document document
      (questionDocument [("note", .int 7)] [("name", .null)] [("type", kind)] [("label", .null)]) :=
    .here (.added [] _ (by decide) _)
  have unnamed : Respelled .document
      (questionDocument [("note", .int 7)] [("name", .null)] [("type", kind)] [("label", .null)])
      (questionDocument [("note", .int 7)] [] [("type", kind)] [("label", .null)]) :=
    .member .scenarios [_] [] [] [] "s" (.here (.dropped (by decide) [] _ (by decide)))
  have moved : Respelled .document
      (questionDocument [("note", .int 7)] [] [("type", kind)] [("label", .null)])
      (questionDocument [("note", .int 7)] [] [("kind", kind)] [("label", .null)]) :=
    .member .scenarios [_] [] [] [] "s" (.member .conditions [] [] [] [] "c"
      (.here (.renamed (Or.inl rfl) [] _ [] _ kind rfl (by decide) (by decide))))
  have unlabelled : Respelled .document
      (questionDocument [("note", .int 7)] [] [("kind", kind)] [("label", .null)]) other :=
    .member .scenarios [_] [] [] [] "s" (.member .conditions [] [] [] [] "c"
      (.item [_] [] [] [] (.here (.dropped (by decide) [_] [] (by decide)))))
  have respelled : Relation.ReflTransGen (Respelled .document) document other :=
    ((Relation.ReflTransGen.single noted).tail unnamed).tail moved |>.tail unlabelled
  have isBook : Book.ofDocument document = .ok (Table.ofEntries [("s", ⟨"s", .str "",
    Table.ofEntries [("c", ⟨.str "", .radio, 0, [⟨.str "yes", .str "", 0⟩]⟩)], Table.empty⟩)]) :=
    rfl
  exact ⟨_, isBook, rfl, respelled, Book.ofDocument_respelled document other _ isBook respelled⟩

end MarketSignal
