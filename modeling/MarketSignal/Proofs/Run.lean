/-
This file takes work on a state apart: what a sequence, a handler or an observation comes to is
told from what the parts come to. Work that keeps a property of the state does so however it ends,
which is what the tiers of a library need, since a fault leaves behind whatever was done before it.
-/
import MarketSignal.Proofs.Outcome
import MarketSignal.Storage.World

namespace MarketSignal

namespace Run

variable {State Result Other : Type}

/-! ### What the parts come to -/

@[simp] theorem outcome_pure (result : Result) (state : State) :
    (pure result : Run State Result).outcome state = (.ok result, state) := rfl

@[simp] theorem outcome_throw (fault : Fault) (state : State) :
    (throw fault : Run State Result).outcome state = (.error fault, state) := rfl

@[simp] theorem outcome_get (state : State) :
    (get : Run State State).outcome state = (.ok state, state) := rfl

@[simp] theorem outcome_set (next state : State) :
    (set next : Run State Unit).outcome state = (.ok (), next) := rfl

@[simp] theorem outcome_modify (change : State → State) (state : State) :
    (modify change : Run State Unit).outcome state = (.ok (), change state) := rfl

@[simp] theorem outcome_ofExcept (outcome : Except Fault Result) (state : State) :
    (ofExcept outcome : Run State Result).outcome state = (outcome, state) := by
  cases outcome <;> rfl

/-- What follows a step, once the outcome of the step is known. -/
def continued (next : Result → Run State Other) :
    Except Fault Result × State → Except Fault Other × State
  | (.ok result, state) => (next result).outcome state
  | (.error fault, state) => (.error fault, state)

theorem outcome_bind (work : Run State Result) (next : Result → Run State Other) (state : State) :
    (work >>= next).outcome state = continued next (work.outcome state) := by
  have steps : (work >>= next).outcome state =
      (ExceptT.bindCont next (work.outcome state).1).run (work.outcome state).2 := rfl
  rw [steps]
  obtain ⟨fault | result, after⟩ := work.outcome state <;> rfl

theorem outcome_map (change : Result → Other) (work : Run State Result) (state : State) :
    (change <$> work).outcome state =
      continued (fun result => pure (change result)) (work.outcome state) := by
  rw [← bind_pure_comp, outcome_bind]

/-- What comes of a handler, once the outcome of the handled work is known. -/
def handled (handler : Fault → Run State Result) :
    Except Fault Result × State → Except Fault Result × State
  | (.ok result, state) => (.ok result, state)
  | (.error fault, state) => (handler fault).outcome state

theorem outcome_tryCatch (work : Run State Result) (handler : Fault → Run State Result)
    (state : State) :
    (tryCatch work handler).outcome state = handled handler (work.outcome state) := by
  have steps : (tryCatch work handler).outcome state =
      StateT.run (ExceptT.tryCatch work handler).run state := rfl
  rw [steps, ExceptT.tryCatch, ExceptT.run_mk, StateT.run_bind]
  show @bind Id _ _ _ (work.outcome state) _ = _
  obtain ⟨fault | result, after⟩ := work.outcome state <;> rfl

/-- A handler that forgets the fault makes all faults alike. -/
theorem tryCatch_ofExcept_error (fault : Fault) (next : Result → Run State Other)
    (instead : Run State Other) :
    tryCatch (ofExcept (.error fault) >>= next) (fun _ => instead) = instead := rfl

theorem outcome_within {Whole Part : Type} (part : Whole → Part) (putBack : Whole → Part → Whole)
    (work : Run Part Result) (whole : Whole) :
    (Run.within part putBack work).outcome whole =
      ((work.outcome (part whole)).1, putBack whole (work.outcome (part whole)).2) := rfl

/-- What a sequence answers is answered by its last step, once the first has succeeded. -/
theorem exists_of_bind_eq_ok {work : Run State Result} {next : Result → Run State Other}
    {state after : State} {other : Other}
    (succeeds : (work >>= next).outcome state = (.ok other, after)) :
    ∃ result between, work.outcome state = (.ok result, between) ∧
      (next result).outcome between = (.ok other, after) := by
  rw [outcome_bind] at succeeds
  revert succeeds
  obtain ⟨fault | result, between⟩ := work.outcome state
  · exact fun fails => nomatch fails
  · exact fun succeeds => ⟨result, between, rfl, succeeds⟩

/-- A value that does not depend on the state comes before what follows from it. -/
theorem exists_of_ofExcept_bind_eq_ok {given : Except Fault Result}
    {next : Result → Run State Other} {state after : State} {other : Other}
    (succeeds : (ofExcept given >>= next).outcome state = (.ok other, after)) :
    ∃ result, given = .ok result ∧ (next result).outcome state = (.ok other, after) := by
  rw [outcome_bind, outcome_ofExcept] at succeeds
  cases given with
  | error fault => cases succeeds
  | ok result => exact ⟨result, rfl, succeeds⟩

/-- A sequence succeeds if another with the same first step does, and if success carries over to
what follows the step. -/
theorem succeeds_bind {work : Run State Result} {first second : Result → Run State Unit}
    {state : State} (succeeds : ((work >>= first).outcome state).1 = .ok ())
    (carries : ∀ result after, ((first result).outcome after).1 = .ok () →
      ((second result).outcome after).1 = .ok ()) :
    ((work >>= second).outcome state).1 = .ok () := by
  rw [outcome_bind] at succeeds ⊢
  revert succeeds
  obtain ⟨fault | result, after⟩ := work.outcome state
  · exact fun fails => nomatch fails
  · exact carries result after

/-! ### Work whose outcome the state does not decide -/

/-- Whatever the state, the work has this outcome. -/
def Yields (work : Run State Result) (outcome : Except Fault Result) : Prop :=
  ∀ state, (work.outcome state).1 = outcome

theorem yields_pure (result : Result) : (pure result : Run State Result).Yields (.ok result) :=
  fun _ => rfl

theorem yields_ofExcept (outcome : Except Fault Result) :
    (ofExcept outcome : Run State Result).Yields outcome := by
  intro state
  rw [outcome_ofExcept]

theorem Yields.bind {work : Run State Result} {next : Result → Run State Other} {result : Result}
    {outcome : Except Fault Other} (first : work.Yields (.ok result))
    (rest : (next result).Yields outcome) : (work >>= next).Yields outcome := by
  intro state
  have isFirst := first state
  rw [outcome_bind]
  revert isFirst
  obtain ⟨_, after⟩ := work.outcome state
  rintro rfl
  exact rest after

theorem Yields.bind_error {work : Run State Result} {fault : Fault}
    (first : work.Yields (.error fault)) (next : Result → Run State Other) :
    (work >>= next).Yields (.error fault) := by
  intro state
  have isFirst := first state
  rw [outcome_bind]
  revert isFirst
  obtain ⟨_, after⟩ := work.outcome state
  rintro rfl
  rfl

theorem Yields.tryCatch_ok {work : Run State Result} {result : Result}
    (first : work.Yields (.ok result)) (handler : Fault → Run State Result) :
    (tryCatch work handler).Yields (.ok result) := by
  intro state
  have isFirst := first state
  rw [outcome_tryCatch]
  revert isFirst
  obtain ⟨_, after⟩ := work.outcome state
  rintro rfl
  rfl

theorem Yields.tryCatch_error {work : Run State Result} {handler : Fault → Run State Result}
    {fault : Fault} {outcome : Except Fault Result} (first : work.Yields (.error fault))
    (rest : (handler fault).Yields outcome) : (tryCatch work handler).Yields outcome := by
  intro state
  have isFirst := first state
  rw [outcome_tryCatch]
  revert isFirst
  obtain ⟨_, after⟩ := work.outcome state
  rintro rfl
  exact rest after

theorem yields_note (level : Level) (message : String) :
    (Journal.note level message).Yields (.ok ()) := fun _ => rfl

/-- What work on the journal comes to does not depend on the rest of the world. -/
theorem yields_inJournal {work : Run Journal Result} {outcome : Except Fault Result}
    (yields : work.Yields outcome) : (World.inJournal work).Yields outcome :=
  fun world => yields world.journal

/-! ### Properties that work keeps -/

/-- However the work ends, a state with the property is followed by a state with it. -/
def Keeps (work : Run State Result) (kept : State → Prop) : Prop :=
  ∀ state, kept state → kept (work.outcome state).2

variable {kept : State → Prop}

theorem keeps_pure (result : Result) : (pure result : Run State Result).Keeps kept :=
  fun _ holds => holds

theorem keeps_throw (fault : Fault) : (throw fault : Run State Result).Keeps kept :=
  fun _ holds => holds

theorem keeps_get : (get : Run State State).Keeps kept := fun _ holds => holds

theorem keeps_ofExcept (outcome : Except Fault Result) :
    (ofExcept outcome : Run State Result).Keeps kept := by
  intro state holds
  rw [outcome_ofExcept]
  exact holds

theorem keeps_bind {work : Run State Result} {next : Result → Run State Other}
    (first : work.Keeps kept) (then_ : ∀ result, (next result).Keeps kept) :
    (work >>= next).Keeps kept := by
  intro state holds
  rw [outcome_bind]
  have after := first state holds
  revert after
  obtain ⟨fault | result, after⟩ := work.outcome state
  · exact id
  · exact then_ result after

theorem keeps_map {work : Run State Result} (change : Result → Other) (keeps : work.Keeps kept) :
    (change <$> work).Keeps kept := by
  rw [← bind_pure_comp]
  exact keeps_bind keeps fun _ => keeps_pure _

theorem keeps_tryCatch {work : Run State Result} {handler : Fault → Run State Result}
    (first : work.Keeps kept) (handles : ∀ fault, (handler fault).Keeps kept) :
    (tryCatch work handler).Keeps kept := by
  intro state holds
  rw [outcome_tryCatch]
  have after := first state holds
  revert after
  obtain ⟨fault | result, after⟩ := work.outcome state
  · exact handles fault after
  · exact id

/-! ### Faults that work can fail with -/

/-- Whatever the state, the work fails with one of the allowed faults if at all. -/
def FailsOnly (work : Run State Result) (allowed : Fault → Prop) : Prop :=
  ∀ state fault, (work.outcome state).1 = .error fault → allowed fault

variable {allowed others : Fault → Prop}

theorem failsOnly_pure (result : Result) : (pure result : Run State Result).FailsOnly allowed :=
  fun _ _ fails => nomatch fails

theorem failsOnly_throw (fault : Fault) (isAllowed : allowed fault) :
    (throw fault : Run State Result).FailsOnly allowed := by
  rintro state other fails
  cases fails
  exact isAllowed

theorem failsOnly_get : (get : Run State State).FailsOnly allowed := fun _ _ fails => nomatch fails

theorem failsOnly_set (next : State) : (set next : Run State Unit).FailsOnly allowed :=
  fun _ _ fails => nomatch fails

theorem failsOnly_modify (change : State → State) :
    (modify change : Run State Unit).FailsOnly allowed := fun _ _ fails => nomatch fails

theorem failsOnly_ofExcept (outcome : Except Fault Result)
    (allows : ∀ fault, outcome = .error fault → allowed fault) :
    (ofExcept outcome : Run State Result).FailsOnly allowed := by
  intro state fault fails
  rw [outcome_ofExcept] at fails
  exact allows fault fails

/-- What follows a step matters for the results that the step can have. -/
theorem failsOnly_bind {work : Run State Result} {next : Result → Run State Other}
    (first : work.FailsOnly allowed) (then_ : ∀ state result,
      (work.outcome state).1 = .ok result → (next result).FailsOnly allowed) :
    (work >>= next).FailsOnly allowed := by
  intro state fault fails
  rw [outcome_bind] at fails
  have firstFails := first state
  have goesOn := then_ state
  revert fails firstFails goesOn
  obtain ⟨problem | result, after⟩ := work.outcome state
  · intro fails firstFails _
    cases fails
    exact firstFails fault rfl
  · exact fun fails _ goesOn => goesOn result rfl after fault fails

/-- A handler matters for the faults that the handled work can fail with. -/
theorem failsOnly_tryCatch {work : Run State Result} {handler : Fault → Run State Result}
    (first : work.FailsOnly others)
    (handles : ∀ fault, others fault → (handler fault).FailsOnly allowed) :
    (tryCatch work handler).FailsOnly allowed := by
  intro state fault fails
  rw [outcome_tryCatch] at fails
  have firstFails := first state
  revert fails firstFails
  obtain ⟨problem | result, after⟩ := work.outcome state
  · exact fun fails firstFails => handles problem (firstFails problem rfl) after fault fails
  · exact fun fails _ => nomatch fails

/-! ### Results that work can answer -/

/-- Whatever the state, the work answers one of the expected results if any. -/
def AnswersOnly (work : Run State Result) (expected : Result → Prop) : Prop :=
  ∀ state result, (work.outcome state).1 = .ok result → expected result

variable {expected : Result → Prop}

theorem answersOnly_pure {result : Result} (isExpected : expected result) :
    (pure result : Run State Result).AnswersOnly expected := by
  rintro state other answers
  cases answers
  exact isExpected

theorem answersOnly_anything (work : Run State Result) : work.AnswersOnly fun _ => True :=
  fun _ _ _ => trivial

theorem answersOnly_ofExcept {outcome : Except Fault Result}
    (areExpected : ∀ result, outcome = .ok result → expected result) :
    (ofExcept outcome : Run State Result).AnswersOnly expected := by
  intro state result answers
  rw [outcome_ofExcept] at answers
  exact areExpected result answers

theorem Yields.answersOnly {work : Run State Result} {result : Result}
    (yields : work.Yields (.ok result)) (isExpected : expected result) :
    work.AnswersOnly expected := by
  intro state other answers
  rw [yields state] at answers
  exact Except.ok.inj answers ▸ isExpected

/-- What comes before the last step matters for the results that the last step starts from. -/
theorem answersOnly_bind {work : Run State Result} {next : Result → Run State Other}
    {last : Other → Prop} (first : work.AnswersOnly expected)
    (rest : ∀ result, expected result → (next result).AnswersOnly last) :
    (work >>= next).AnswersOnly last := by
  intro state other answers
  obtain ⟨result, between, succeeds, answered⟩ :=
    exists_of_bind_eq_ok (Prod.ext answers rfl : (work >>= next).outcome state = (.ok other, _))
  exact rest result (first state result (congrArg Prod.fst succeeds)) between other
    (congrArg Prod.fst answered)

theorem answersOnly_mapM {Item : Type} {work : Item → Run State Result} {items : List Item}
    (each : ∀ item, (work item).AnswersOnly expected) :
    (items.mapM work).AnswersOnly fun results => ∀ result ∈ results, expected result := by
  induction items with
  | nil => exact answersOnly_pure fun _ member => absurd member List.not_mem_nil
  | cons item rest inductionHypothesis =>
    rw [List.mapM_cons]
    refine answersOnly_bind (each item) fun first isFirst => ?_
    refine answersOnly_bind inductionHypothesis fun others areOthers => ?_
    exact answersOnly_pure (List.forall_mem_cons.mpr ⟨isFirst, areOthers⟩)

end Run

/-! ### Observed operations -/

section

variable {State Result : Type} (inJournal : Run Journal Unit → Run State Unit) (name : String)
  (operation : Run State Result)

/-- What notices leave alone is kept by an observed operation if the operation keeps it. -/
theorem keeps_observed {kept : State → Prop} (notices : ∀ work, (inJournal work).Keeps kept)
    (keeps : operation.Keeps kept) : (observed inJournal name operation).Keeps kept := by
  unfold observed
  refine Run.keeps_bind (notices _) fun _ => Run.keeps_bind ?_ fun _ =>
    Run.keeps_bind (notices _) fun _ => Run.keeps_pure _
  exact Run.keeps_tryCatch keeps fun _ => Run.keeps_bind (notices _) fun _ => Run.keeps_throw _

/-- The state in which an observed operation is done: after the first notice. -/
def afterStart (state : State) : State :=
  ((inJournal (Journal.noteStage .debug ("Starting " ++ name) .start)).outcome state).2

/-- What comes of an observed operation is decided by what comes of the operation after the first
notice. -/
theorem observed_congr (other : Run State Result) (state : State)
    (same : operation.outcome (afterStart inJournal name state) =
      other.outcome (afterStart inJournal name state)) :
    (observed inJournal name operation).outcome state =
      (observed inJournal name other).outcome state := by
  unfold observed
  rw [Run.outcome_bind, Run.outcome_bind]
  unfold afterStart at same
  revert same
  obtain ⟨fault | _, after⟩ :=
    (inJournal (Journal.noteStage .debug ("Starting " ++ name) .start)).outcome state
  · exact fun _ => rfl
  · intro same
    dsimp only [Run.continued]
    rw [Run.outcome_bind, Run.outcome_bind, Run.outcome_tryCatch, Run.outcome_tryCatch, same]

/-- Where notices never fail, the result of an observed operation stands whatever the last notice
is. -/
theorem outcome_observed (never : ∀ level message stage state,
      ((inJournal (Journal.noteStage level message stage)).outcome state).1 = .ok ())
    (state : State) :
    ∃ last, (observed inJournal name operation).outcome state =
      ((operation.outcome (afterStart inJournal name state)).1,
        ((inJournal last).outcome (operation.outcome (afterStart inJournal name state)).2).2) := by
  have silent {Next : Type} (level : Level) (message : String) (stage : Stage)
      (next : Run State Next) (state : State) :
      (inJournal (Journal.noteStage level message stage) >>= fun _ => next).outcome state =
        next.outcome ((inJournal (Journal.noteStage level message stage)).outcome state).2 := by
    rw [Run.outcome_bind]
    have succeeds := never level message stage state
    revert succeeds
    obtain ⟨fault | _, after⟩ := (inJournal (Journal.noteStage level message stage)).outcome state
    · exact fun fails => nomatch fails
    · exact fun _ => rfl
  unfold observed
  rw [silent, Run.outcome_bind, Run.outcome_tryCatch]
  show ∃ last, Run.continued _ (Run.handled _
    (operation.outcome (afterStart inJournal name state))) = _
  obtain ⟨fault | result, after⟩ := operation.outcome (afterStart inJournal name state)
  · refine ⟨Journal.noteStage .error ("Failed " ++ name ++ ": " ++ fault.message)
      (.failure fault), ?_⟩
    rw [Run.handled, silent, Run.outcome_throw]
    rfl
  · refine ⟨Journal.noteStage .info ("Completed " ++ name) .complete, ?_⟩
    rw [Run.handled, Run.continued, silent, Run.outcome_pure]

end

end MarketSignal
