/-
This file says how a request to evaluate a scenario is answered, for every library whose book loads
and every body that fits the form. A scenario that is not in the book is answered with status 404.
Otherwise the answer is the signal of the engine, with one exception. The answers of a body are read
before they are handed to the engine, and what goes wrong on the way is not the engine's to report:
an answer whose weight is a whole number beyond the floating-point numbers fails the request, where
the engine would have answered with a signal of the kind `error`.

Nothing else goes wrong. Whatever can be sent can be shown, since the text of a body may not have
whole numbers that are too long.
-/
import MarketSignal.Proofs.Json.Limit
import MarketSignal.Proofs.Service.Answering
import MarketSignal.Proofs.Service.Form
import MarketSignal.Proofs.Signal.Collecting
import MarketSignal.Proofs.Storage.Loading

namespace MarketSignal

/-! ### Reading answers -/

theorem exists_readText {value : Json} (short : value.hasLongNumber = false) :
    ∃ text, readText value = .ok text := by
  unfold readText
  split
  · exact ⟨"", rfl⟩
  · exact Json.exists_display short

/-- An answer that is an object is read, unless its weight lies beyond the range. -/
theorem Answer.read_failsExactly (members : List (String × Json))
    (short : (Json.obj members).hasLongNumber = false) :
    FailsExactly .tooLarge ((Json.obj members).member "weight").BeyondRange
      (Answer.read (.obj members)) := by
  obtain ⟨label, isLabel⟩ := exists_readText (Json.short_member short "label")
  obtain ⟨kind, isKind⟩ : ∃ kind, readText (kindMember (.obj members)) = .ok kind := by
    refine exists_readText ?_
    unfold kindMember
    split
    · exact Json.short_member short "kind"
    · exact Json.short_member short "type"
  unfold Answer.read
  refine .after rfl (.after isLabel (.after isKind ?_))
  exact (readWeight_failsExactly _).before fun _ => ⟨_, rfl⟩

/-- Answers of which one has a weight beyond the range. -/
def Json.Overweight (answers : Json) : Prop :=
  ∃ answer ∈ answers.parts, (answer.member "weight").BeyondRange

theorem Answer.readAll_failsExactly (members : List (String × Json))
    (objects : ∀ member ∈ members, ∃ parts, member.2 = .obj parts)
    (short : (Json.obj members).hasLongNumber = false) :
    FailsExactly .tooLarge (Json.obj members).Overweight (Answer.readAll (.obj members)) := by
  refine .after rfl (readMembers_failsExactly fun entry member => ?_)
  obtain ⟨parts, isObject⟩ := objects entry member
  have shortPart := (Json.anyLongMember_eq_false_iff members).mp short entry member
  rw [isObject] at shortPart ⊢
  exact Answer.read_failsExactly parts shortPart

/-! ### The engine -/

/-- What the engine makes of a body: of its answers if it has some, and otherwise of what it gives
for the conditions. -/
def Scenario.assessBody (scenario : Scenario) (body : Json) : Run Journal Signal :=
  if (body.member "collected").isNull then scenario.assess (body.member "values")
  else MarketSignal.evaluate (.scenario scenario) (.plain (body.member "collected"))

/-- The engine makes something of any answers, and does not miss the scenario. -/
theorem exists_evaluated (scenario : Scenario) (texts : scenario.OfTexts)
    (replies : Replies) (answers : Table Answer) (isRead : replies.read = .ok answers) :
    ∃ signal, (evaluate (.scenario scenario) replies).Yields (.ok signal) ∧
      signal.reason ≠ some .scenarioNotFound := by
  by_cases stumped : scenario.Stumped answers
  · exact ⟨_, evaluate_stumped scenario texts replies answers isRead stumped, nofun⟩
  · refine ⟨_, evaluate_yields scenario texts replies answers isRead stumped, ?_⟩
    rw [(scenario.signalFor_parts _ _).2.2]
    exact nofun

/-- Answers that cannot be read make an evaluation fail. -/
theorem evaluate_unreadable (scenario : Scenario) (replies : Replies) (fault : Fault)
    (unread : replies.read = .error fault) :
    (evaluate (.scenario scenario) replies).Yields (.ok (Signal.failed .internalError)) := by
  have scored : (do
      let answers ← Run.ofExcept replies.read
      return some (← scenario.score answers) : Run Journal (Option (Float × Table Float))).Yields
        (.error fault) := by
    rw [unread]
    exact (Run.yields_ofExcept _).bind_error _
  exact .bind (scored.tryCatch_error (Run.yields_pure none))
    (.bind (Run.yields_note _ _) (Run.yields_pure _))

/-- Answers that are read already count as those that are read in the evaluation. -/
theorem evaluate_answers (scenario : Scenario) (replies : Replies)
    (answers : Table Answer) (isRead : replies.read = .ok answers) :
    evaluate (.scenario scenario) replies = evaluate (.scenario scenario) (.answers answers) := by
  have same : replies.read = (Replies.answers answers).read := isRead
  unfold evaluate Scenario.evaluate
  rw [same]

namespace Service

/-! ### A request to evaluate -/

/-- What a body that fits the form of an evaluation looks like. -/
structure Assessable (body : Json) : Prop where
  values : (body.member "values").IsGiven
  collected : body.member "collected" = .null ∨
    ∃ members, body.member "collected" = .obj members ∧
      ∀ member ∈ members, ∃ parts, member.2 = .obj parts

theorem assessable_of_fits {id : String} {body : Json}
    (fits : blemishesOf (.evaluate id) (some body) = []) : Assessable body := by
  obtain ⟨members, rfl, each⟩ := (Form.blemishes_eq_nil_iff _ body).mp fits
  constructor
  · have values := each _ List.mem_cons_self
    rw [Json.member_obj]
    unfold Member.Fits at values
    cases found : Entries.get? members "values" with
    | none => exact .nothing
    | some part =>
      rw [found] at values
      rcases values with rfl | ⟨parts, rfl, -⟩
      · exact .nothing
      · exact .members parts
  · have collected := each _ (List.mem_cons_of_mem _ List.mem_cons_self)
    rw [Json.member_obj]
    unfold Member.Fits at collected
    cases found : Entries.get? members "collected" with
    | none => exact Or.inl rfl
    | some part =>
      rw [found] at collected
      rcases collected with rfl | ⟨answers, rfl, objects⟩
      · exact Or.inl rfl
      · refine Or.inr ⟨answers, rfl, fun member present => ?_⟩
        obtain ⟨parts, isObject, -⟩ := objects member present
        exact ⟨parts, isObject⟩

/-- Answers of which one has a weight beyond the range cannot be read. -/
theorem Assessable.unread {body : Json} (assessable : Assessable body)
    (short : body.hasLongNumber = false) (overweight : (body.member "collected").Overweight) :
    ∃ members, body.member "collected" = .obj members ∧
      Answer.readAll (.obj members) = .error .tooLarge := by
  rcases assessable.collected with isNull | ⟨members, isObject, objects⟩
  · rw [isNull] at overweight
    obtain ⟨answer, member, -⟩ := overweight
    exact absurd member List.not_mem_nil
  · have shortPart := Json.short_member short "collected"
    rw [isObject] at overweight shortPart
    exact ⟨members, isObject,
      (Answer.readAll_failsExactly members objects shortPart).fails overweight⟩

/-- Then the engine signals an error. -/
theorem assessBody_overweight (scenario : Scenario) {body : Json}
    (short : body.hasLongNumber = false) (assessable : Assessable body)
    (overweight : (body.member "collected").Overweight) :
    (scenario.assessBody body).Yields (.ok (Signal.failed .internalError)) := by
  obtain ⟨members, isObject, unread⟩ := assessable.unread short overweight
  unfold Scenario.assessBody
  rw [isObject]
  exact evaluate_unreadable scenario _ .tooLarge unread

/-- The answers of a body, as they are handed to the engine. -/
def answersOf (body : Json) (scenario : Scenario) : Run World (Table Answer) :=
  if (body.member "collected").isNull then
    World.inJournal (scenario.collect (body.member "values"))
  else Run.ofExcept (Answer.readAll (body.member "collected"))

theorem answersOf_overweight (scenario : Scenario) {body : Json}
    (short : body.hasLongNumber = false) (assessable : Assessable body)
    (overweight : (body.member "collected").Overweight) :
    (answersOf body scenario).Yields (.error .tooLarge) := by
  obtain ⟨members, isObject, unread⟩ := assessable.unread short overweight
  have notNull : (Json.obj members).isNull = false := rfl
  rw [answersOf, isObject, notNull, if_neg Bool.false_ne_true, unread]
  exact Run.yields_ofExcept _

/-- The engine's signal for answers, as an answer. -/
def signalled (subject : Subject) (answers : Table Answer) : Run World Answered := do
  let signal ← World.inJournal (MarketSignal.evaluate subject (.answers answers))
  if signal.reason = some .scenarioNotFound then return Answered.detail 404 signal.toJson
  return .success signal.toJson

/-- A step that does not depend on the world follows one that succeeded. -/
theorem outcome_after {Result : Type} {work : Run World Result} {next : Result → Run World Answered}
    {world : World} {result : Result} {outcome : Except Fault Answered}
    (succeeds : (work.outcome world).1 = .ok result) (yields : (next result).Yields outcome) :
    ((work >>= next).outcome world).1 = outcome := by
  rw [Run.outcome_bind]
  revert succeeds
  obtain ⟨fault | given, after⟩ := work.outcome world
  · exact fun fails => nomatch fails
  · intro same
    cases same
    exact yields after

theorem evaluateScenario_eq (library : Library) (id : String) (body : Json) :
    evaluateScenario library id body = library.load >>= fun book =>
      match Table.get? book id with
      | none => signalled .absent Table.empty
      | some scenario => answersOf body scenario >>= signalled (.scenario scenario) := by
  unfold evaluateScenario
  refine congrArg _ (funext fun book => ?_)
  cases Table.get? book id with
  | none => rfl
  | some scenario =>
    unfold answersOf
    dsimp only
    cases (body.member "collected").isNull <;> rfl

theorem signalled_yields {subject : Subject} {answers : Table Answer} {signal : Signal}
    (isSignal : (MarketSignal.evaluate subject (.answers answers)).Yields (.ok signal))
    (found : signal.reason ≠ some .scenarioNotFound) :
    (signalled subject answers).Yields (.ok (.success signal.toJson)) := by
  refine .bind (Run.yields_inJournal isSignal) ?_
  rw [if_neg found]
  exact Run.yields_pure _

/-- Where no weight is beyond the range, the answers of a body are signalled as the engine does. -/
theorem assessed (scenario : Scenario) (texts : scenario.OfTexts) {body : Json}
    (short : body.hasLongNumber = false) (assessable : Assessable body)
    (bearable : ¬ (body.member "collected").Overweight) :
    ∃ signal, (scenario.assessBody body).Yields (.ok signal) ∧
      (answersOf body scenario >>= signalled (.scenario scenario)).Yields
        (.ok (.success signal.toJson)) := by
  unfold Scenario.assessBody answersOf
  rcases assessable.collected with isNull | ⟨members, isObject, objects⟩
  · have canShow := scenario.canShow_of_short (Json.short_member short "values")
    have collects := (scenario.collect_warns assessable.values canShow).yields
    obtain ⟨signal, isSignal, found⟩ := exists_evaluated scenario texts (.answers _) _ rfl
    rw [isNull]
    exact ⟨signal, .bind collects isSignal,
      .bind (Run.yields_inJournal collects) (signalled_yields isSignal found)⟩
  · have shortPart := Json.short_member short "collected"
    rw [isObject] at shortPart bearable ⊢
    obtain ⟨answers, areRead⟩ :=
      (Answer.readAll_failsExactly members objects shortPart).succeeds bearable
    obtain ⟨signal, isSignal, found⟩ := exists_evaluated scenario texts (.answers answers) _ rfl
    have same := evaluate_answers scenario (.plain (.obj members)) answers areRead
    have notNull : (Json.obj members).isNull = false := rfl
    rw [notNull, if_neg Bool.false_ne_true, if_neg Bool.false_ne_true, areRead, same]
    exact ⟨signal, isSignal, .bind (Run.yields_ofExcept _) (signalled_yields isSignal found)⟩

/-! ### A request with one answer -/

/-- Settings without a record store. -/
def unstored : Settings := { Settings.default with store := .none }

/-- The library of the settings, which has a seed only. -/
def unstoredLibrary : Library := ⟨none, some unstored.seed, none⟩

theorem seed_unstored : unstored.seed = .packaged "scenarios.json" := by
  have trimmed : Text.trim "package:scenarios.json" = "package:scenarios.json" := by
    decide +kernel
  have marked : ("package:scenarios.json" : String).startsWith packageMark = true := by
    decide +kernel
  show Seed.ofSource "package:scenarios.json" (.float 10) = _
  unfold Seed.ofSource
  rw [trimmed]
  dsimp only
  rw [if_pos marked]
  rfl

/-- Where the seed is missing on the disk the library has the default book. -/
theorem load_unstored :
    (unstoredLibrary.load.outcome World.fresh.reopened).1 = .ok defaultBook := by
  obtain ⟨journal, last, done⟩ :=
    outcome_operation "load_scenarios" unstoredLibrary.loadBook World.fresh.reopened
  rw [Library.load, done, unstoredLibrary, seed_unstored]
  rfl

/-- A body with one answer of the given weight. -/
def bodyOfWeight (weight : Int) : Json :=
  .obj [("collected", .obj [("c", .obj
    [("type", .str "text"), ("value", .str "x"), ("weight", .int weight)])])]

theorem faithful_bodyOfWeight {weight : Int} (short : exceedsDigitLimit weight = false) :
    (bodyOfWeight weight).Faithful := by
  have answer : (Json.obj
      [("type", .str "text"), ("value", .str "x"), ("weight", .int weight)]).Faithful :=
    Json.faithful_obj _ (show ["type", "value", "weight"].Nodup by decide) (by
      simp only [List.forall_mem_cons]
      exact ⟨Json.faithful_str _, Json.faithful_str _, ⟨trivial, short⟩, nofun⟩)
  have answers : (Json.obj [("c", .obj
      [("type", .str "text"), ("value", .str "x"), ("weight", .int weight)])]).Faithful :=
    Json.faithful_obj _ (List.nodup_singleton _) (List.forall_mem_singleton.mpr answer)
  exact Json.faithful_obj _ (List.nodup_singleton _) (List.forall_mem_singleton.mpr answers)

/-- A request to evaluate the scenario of the default book for a body. -/
def evaluationOf (body : Json) : Request :=
  ⟨"POST", "/scenarios/bullishBreakout/evaluate", some body.line⟩

theorem operation?_evaluationOf (body : Json) :
    (evaluationOf body).operation? = some (.evaluate "bullishBreakout") :=
  Request.operation?_eq
    (show Resource.find? (Target.ofText "/scenarios/bullishBreakout/evaluate").path =
      some (.evaluation "bullishBreakout") by decide +kernel)
    (show Resource.operation? _ ("POST" : String).toUpper = _ by decide +kernel)

/-! ### The answer to a request -/

section

variable {settings : Settings} {request : Request} {id : String} {library : Library} {body : Json}
  {world : World} {book : Book} (asks : request.operation? = some (.evaluate id))
  (opens : settings.library = .ok library) (isBody : readBody request.body = .value body)
  (fits : blemishesOf (.evaluate id) (some body) = [])
  (loads : (library.load.outcome world.reopened).1 = .ok book)

include asks opens isBody fits loads

theorem answer_of_yields {outcome : Except Fault Answered}
    (yields : (match Table.get? book id with
      | none => signalled .absent Table.empty
      | some scenario => answersOf body scenario >>= signalled (.scenario scenario)).Yields
        outcome) :
    ∃ after, answer settings request world = settled (outcome, after) := by
  have ready : Ready settings request (.evaluate id) library (some body) false := by
    refine ⟨asks, opens, ?_, fits, rfl⟩
    show (readBody request.body).Gives _
    rw [isBody]
    exact .value body
  have performs : perform settings library (.evaluate id) ((some body).getD .null) false =
      evaluateScenario library id body := rfl
  rw [answer_ready settings request (.evaluate id) ready, performs, evaluateScenario_eq]
  exact ⟨_, congrArg settled (Prod.ext (outcome_after loads yields) rfl)⟩

/-- An answer with a weight beyond the range fails the request. -/
theorem answer_overweight {scenario : Scenario} (found : Table.get? book id = some scenario)
    (overweight : (body.member "collected").Overweight) :
    (answer settings request world).1 = .failure := by
  have fails := answersOf_overweight scenario (faithful_of_readBody isBody).short
    (assessable_of_fits fits) overweight
  obtain ⟨after, isAnswer⟩ := answer_of_yields asks opens isBody fits loads
    (show Run.Yields _ (.error .tooLarge) by
      rw [found]
      exact fails.bind_error _)
  rw [isAnswer]
  rfl

end

end Service

end MarketSignal
