/-
This file says when answers cannot be collected at all. What is given for a scenario or for the
markets should be values by name. Anything that counts as empty is taken for nothing; anything else
fails as soon as it is asked for a name, that is, if there is a condition or a market to ask for.
Nothing else fails: there is a signal then, or a prediction for every market, and each can be
written.
-/
import MarketSignal.Proofs.Derailing
import MarketSignal.Proofs.Signal.Collecting

namespace MarketSignal

/-! ### What is given -/

/-- Something that is neither empty nor values by name. -/
def Json.Misshapen (given : Json) : Prop :=
  given.truthy = true ∧ ∀ members, given ≠ .obj members

/-- What is given, as far as it is values by name. -/
def Json.counted (given : Json) : Json :=
  match given with
  | .obj members => .obj members
  | _ => .null

namespace Json

variable (given : Json)

theorem isGiven_counted : given.counted.IsGiven := by
  cases given
  case obj members => exact .members members
  all_goals exact .nothing

theorem member_counted (name : String) : given.counted.member name = given.member name := by
  cases given <;> rfl

variable {given}

theorem short_counted (short : given.hasLongNumber = false) :
    given.counted.hasLongNumber = false := by
  cases given
  case obj => exact short
  all_goals rfl

end Json

/-- What is misshapen is asked for a name in vain; anything else has something under it, or
nothing. -/
theorem givenFor_failsExactly (given : Json) (name : String) :
    (given.Misshapen → givenFor given name = .error .wrongShape) ∧
      (¬ given.Misshapen → givenFor given name = .ok (given.member name)) := by
  unfold givenFor Json.Misshapen
  cases counts : given.truthy with
  | false =>
    refine ⟨fun misshapen => absurd misshapen.1 Bool.false_ne_true, fun _ => ?_⟩
    rw [if_neg Bool.false_ne_true]
    cases given
    case obj parts _ =>
      cases parts with
      | nil => rfl
      | cons first rest => cases counts
    all_goals rfl
  | true =>
    rw [if_pos rfl]
    cases given
    case obj members =>
      exact ⟨fun misshapen => absurd rfl (misshapen.2 members), fun _ => rfl⟩
    all_goals exact ⟨fun _ => rfl, fun wellShaped => absurd ⟨rfl, nofun⟩ wellShaped⟩

/-- What counts as empty is asked as if nothing were given. -/
theorem givenFor_empty {given : Json} (isEmpty : given.truthy = false) (name : String) :
    givenFor given name = givenFor (.obj []) name := by
  have missing : (Json.obj []).truthy = false := rfl
  unfold givenFor
  rw [isEmpty, missing]
  rfl

/-! ### Collecting -/

namespace Scenario

/-- The scenario has a condition to ask something misshapen for. -/
def Chokes (scenario : Scenario) (given : Json) : Prop :=
  scenario.conditions.entries ≠ [] ∧ given.Misshapen

variable (scenario : Scenario) {given : Json}

theorem collect_chokes (chokes : scenario.Chokes given) :
    (scenario.collect given).Yields (.error .wrongShape) := by
  obtain ⟨asks, misshapen⟩ := chokes
  unfold collect
  obtain ⟨first, rest, isFirst⟩ := List.exists_cons_of_ne_nil asks
  rw [isFirst, List.mapM_cons]
  refine Run.Yields.bind_error (Run.Yields.bind_error (Run.Yields.bind_error ?_ _) _) _
  rw [(givenFor_failsExactly given first.1).1 misshapen]
  exact Run.yields_ofExcept _

/-- Otherwise only values by name count. -/
theorem collect_counted (bears : ¬ scenario.Chokes given) :
    scenario.collect given = scenario.collect given.counted := by
  refine congrArg (· >>= fun entries => pure (Table.ofEntries entries)) ?_
  refine mapM_congr fun entry member => ?_
  have wellShaped : ¬ given.Misshapen :=
    fun misshapen => bears ⟨List.ne_nil_of_mem member, misshapen⟩
  dsimp only
  rw [(givenFor_failsExactly given entry.1).2 wellShaped,
    member_of_isGiven given.isGiven_counted, given.member_counted]

/-- So what is collected from it is what is collected from nothing. -/
theorem collect_empty (isEmpty : given.truthy = false) :
    scenario.collect given = scenario.collect (.obj []) := by
  unfold collect
  simp only [givenFor_empty isEmpty]

end Scenario

/-! ### Signals that can be written -/

/-- A signal in which no number is too long to be written. -/
structure Signal.Short (signal : Signal) : Prop where
  kind : signal.kind.hasLongNumber = false
  message : signal.message.hasLongNumber = false

namespace Signal

theorem Short.toJson {signal : Signal} (short : signal.Short) :
    signal.toJson.hasLongNumber = false := by
  have contributions : signal.contributionsJson.hasLongNumber = false := by
    refine (Json.anyLongMember_eq_false_iff _).mpr fun member present => ?_
    obtain ⟨entry, -, rfl⟩ := List.mem_map.mp present
    rfl
  refine (Json.anyLongMember_eq_false_iff _).mpr ?_
  simp only [List.forall_mem_append, List.forall_mem_cons]
  refine ⟨⟨short.kind, short.message, rfl, contributions, nofun⟩, fun member present => ?_⟩
  obtain ⟨reason, -, rfl⟩ := Option.map_eq_some_iff.mp (Option.mem_toList.mp present)
  rfl

end Signal

theorem Scenario.Typed.short_signalFor {scenario : Scenario} (typed : scenario.Typed)
    (score : Float) (contributions : Table Float) :
    (scenario.signalFor score contributions).Short := by
  have shortIf (value : Json) (otherwise : String) (short : value.hasLongNumber = false) :
      (if value.truthy then value else .str otherwise).hasLongNumber = false := by
    split
    · exact short
    · rfl
  unfold Scenario.signalFor
  cases selected : selectOutcome scenario.outcomes score with
  | none => exact ⟨rfl, rfl⟩
  | some entry =>
    have isTyped := typed.outcomes _ (mem_of_selectOutcome _ _ _ selected)
    refine ⟨shortIf _ _ ?_, shortIf _ _ ?_⟩
    · rcases isTyped.kind with isNull | ⟨text, isText, -⟩
      · rw [isNull]
        rfl
      · rw [isText]
        rfl
    · obtain ⟨text, isText⟩ := isTyped.message
      rw [isText]
      rfl

/-- The answers are evaluated to a signal that can be written. -/
def Scenario.Assesses (scenario : Scenario) (answers : Table Answer) : Prop :=
  ∃ signal, (MarketSignal.evaluate (.scenario scenario) (.answers answers)).Yields (.ok signal) ∧
    signal.Short

/-- Answers can be collected unless the scenario is asked for something misshapen, and then they are
evaluated. -/
theorem Scenario.Typed.collect_endsExactly {scenario : Scenario} (typed : scenario.Typed)
    {given : Json} (short : given.hasLongNumber = false) :
    (scenario.collect given).EndsExactly .wrongShape (scenario.Chokes given)
      scenario.Assesses := by
  refine ⟨scenario.collect_chokes, fun bears => ?_⟩
  have canShow := scenario.canShow_of_short (Json.short_counted short)
  have collects := (scenario.collect_warns given.isGiven_counted canShow).yields
  rw [← scenario.collect_counted bears] at collects
  exact ⟨_, collects, _, (scenario.evaluate_answersTo typed.ofTexts given.counted).yields,
    typed.short_signalFor _ _⟩

/-! ### Predictions -/

/-- A prediction in which no number is too long to be written. -/
structure Prediction.Short (prediction : Prediction) : Prop where
  scenarioId : prediction.scenarioId.hasLongNumber = false
  signal : prediction.signal.Short

theorem Prediction.Short.toJsonWithText {prediction : Prediction} (short : prediction.Short) :
    prediction.toJsonWithText.hasLongNumber = false := by
  have members := (Json.anyLongMember_eq_false_iff _).mp short.signal.toJson
  refine (Json.anyLongMember_eq_false_iff _).mpr ?_
  rw [List.forall_mem_append, List.forall_mem_append]
  refine ⟨⟨?_, members⟩, List.forall_mem_singleton.mpr rfl⟩
  rw [List.forall_mem_cons, List.forall_mem_singleton]
  exact ⟨rfl, short.scenarioId⟩

namespace Book

variable (book : Book) (assignments : Table String)

/-- The market is assigned a scenario that has a condition to ask something misshapen for. -/
def Chokes (market : String) (given : Json) : Prop :=
  ∃ id scenario, assignments.get? market = some id ∧ id ≠ "" ∧
    Table.get? book id = some scenario ∧ scenario.Chokes given

/-- What is given for the markets is misshapen, or what is given for one of them is. -/
def ChokesOn (markets : List String) (given : Json) : Prop :=
  ∃ market ∈ markets,
    given.Misshapen ∨ book.Chokes assignments market (given.member market)

end Book

/-- A market has a prediction, unless its scenario is asked for something misshapen. -/
theorem predictMarket_endsExactly {book : Book} (typed : Book.Typed book)
    (assignments : Table String) (market : String) {given : Json}
    (short : given.hasLongNumber = false) :
    (predictMarket book (.ofTexts assignments) market given).EndsExactly .wrongShape
      (book.Chokes assignments market given) Prediction.Short := by
  have steps {Result : Type} (next : List (String × Json) → Run Journal Result) :
      (Run.ofExcept (objectMembers (.ofTexts assignments)) >>= next) =
        next (assignments.entries.map fun entry => (entry.1, .str entry.2)) := rfl
  unfold predictMarket Book.Chokes
  rw [steps, Json.member_ofTexts]
  cases assigned : assignments.get? market with
  | none =>
    refine ⟨?_, fun _ => ⟨_, Run.yields_pure _, rfl, rfl, rfl⟩⟩
    rintro ⟨id, scenario, isId, -⟩
    cases isId
  | some id =>
    simp only [Option.map_some, Option.getD_some, Option.some.injEq, exists_and_left,
      exists_eq_left']
    by_cases named : id = ""
    · subst named
      exact ⟨fun chokes => absurd rfl chokes.1, fun _ => ⟨_, Run.yields_pure _, rfl, rfl, rfl⟩⟩
    have counts : (!(Json.str id).truthy) = false := by
      rw [(Json.truthy_str id).mpr named]
      rfl
    have looksUp : Table.lookUp book (.str id) =
      .ok ((Table.get? book id).map fun scenario => (id, scenario)) := rfl
    rw [counts, if_neg Bool.false_ne_true, looksUp]
    cases found : Table.get? book id with
    | none =>
      refine ⟨?_, fun _ => ⟨⟨market, .str id, Signal.failed .scenarioNotFound⟩, ?_, rfl, rfl, rfl⟩⟩
      · rintro ⟨-, scenario, isScenario, -⟩
        cases isScenario
      · refine .bind (Run.yields_ofExcept (.ok none)) ?_
        rw [Json.display_str]
        refine .bind (Run.yields_ofExcept (.ok id)) (.bind (Run.yields_note _ _) ?_)
        exact .bind evaluate_absent (Run.yields_pure _)
    | some scenario =>
      have isTyped := (typed _ (Entries.mem_of_get? _ _ _ found)).1
      refine ⟨?_, fun bears => ?_⟩
      · rintro ⟨-, other, isOther, chokes⟩
        cases isOther
        refine .bind (Run.yields_ofExcept (.ok (some (id, scenario)))) ?_
        exact (scenario.collect_chokes chokes).bind_error _
      · obtain ⟨answers, collects, signal, evaluates, shortSignal⟩ :=
          (isTyped.collect_endsExactly short).answers
            fun chokes => bears ⟨named, scenario, rfl, chokes⟩
        refine ⟨⟨market, .str id, signal⟩, ?_, rfl, shortSignal⟩
        refine .bind (Run.yields_ofExcept (.ok (some (id, scenario)))) ?_
        exact collects.bind (evaluates.bind (Run.yields_pure _))

/-- So have all markets, unless what is given for them is misshapen itself. -/
theorem predictMarkets_endsExactly {book : Book} (typed : Book.Typed book)
    (assignments : Table String) (markets : List String) {given : Json}
    (short : given.hasLongNumber = false) :
    (predictMarkets book (.ofTexts assignments) markets given).EndsExactly .wrongShape
      (book.ChokesOn assignments markets given)
      fun predictions => ∀ prediction ∈ predictions, prediction.Short := by
  refine Run.EndsExactly.mapM fun market _ => ?_
  have predicts := predictMarket_endsExactly typed assignments market
    (Json.short_member short market)
  by_cases misshapen : given.Misshapen
  · refine ⟨fun _ => ?_, fun neither => absurd (Or.inl misshapen) neither⟩
    rw [(givenFor_failsExactly given market).1 misshapen]
    exact (Run.yields_ofExcept _).bind_error _
  · rw [(givenFor_failsExactly given market).2 misshapen]
    exact predicts.congr (or_iff_right misshapen).symm

end MarketSignal
