/-
This file takes apart how work ends in a fault that is not of the program's own making. Whoever
reports the program's own faults passes such a fault on, so a sequence ends in one exactly if its
first step does, or if the first step succeeds and what follows ends in one.
-/
import MarketSignal.Proofs.Run

namespace MarketSignal

/-- The outcome is a fault, and not one of the program's own making. -/
def Foreign {Result : Type} (outcome : Except Fault Result) : Prop :=
  ∃ fault, outcome = .error fault ∧ fault.isOwn = false

section

variable {Result : Type}

theorem not_foreign_ok (result : Result) : ¬ Foreign (.ok result) := by
  rintro ⟨fault, fails, -⟩
  cases fails

theorem foreign_error_iff (fault : Fault) :
    Foreign (.error fault : Except Fault Result) ↔ fault.isOwn = false := by
  constructor
  · rintro ⟨other, same, isForeign⟩
    cases same
    exact isForeign
  · exact fun isForeign => ⟨fault, rfl, isForeign⟩

/-- No fault is the program's own and comes from outside. -/
theorem not_foreign_of_own {outcome : Except Fault Result}
    (own : ∀ fault, outcome = .error fault → fault.isOwn = true) : ¬ Foreign outcome := by
  rintro ⟨fault, fails, isForeign⟩
  exact Bool.false_ne_true (isForeign.symm.trans (own fault fails))

/-- A condition without which there is a result. -/
theorem foreign_iff_of_ends {condition : Prop} {outcome : Except Fault Result}
    (fails : condition → Foreign outcome)
    (ends : ¬ condition → ∃ result, outcome = .ok result) : Foreign outcome ↔ condition := by
  refine ⟨fun foreign => ?_, fails⟩
  by_contra holds
  obtain ⟨result, rfl⟩ := ends holds
  exact not_foreign_ok result foreign

theorem isOwn_of_isStorage {fault : Fault} (isStorage : fault.isStorage = true) :
    fault.isOwn = true := by
  cases fault
  case storage => rfl
  case delivery => rfl
  all_goals cases isStorage

theorem isOwn_of_isFile {fault : Fault} (isFile : fault.isFile = true) : fault.isOwn = false := by
  cases fault
  case file => rfl
  all_goals cases isFile

theorem isOwn_of_isFormat {fault : Fault} (isFormat : fault.isFormat = true) :
    fault.isOwn = true := by
  cases fault
  case malformed => rfl
  case violation => rfl
  all_goals cases isFormat

end

namespace Run

variable {State Result Other : Type}

/-- The work ends in such a fault. -/
def Derails (work : Run State Result) (state : State) : Prop := Foreign (work.outcome state).1

theorem not_derails_pure (result : Result) (state : State) :
    ¬ (pure result : Run State Result).Derails state := not_foreign_ok result

theorem derails_ofExcept_iff (outcome : Except Fault Result) (state : State) :
    (ofExcept outcome : Run State Result).Derails state ↔ Foreign outcome := by
  rw [Derails, outcome_ofExcept]

theorem derails_bind_iff (work : Run State Result) (next : Result → Run State Other)
    (state : State) :
    (work >>= next).Derails state ↔ work.Derails state ∨
      ∃ result after, work.outcome state = (.ok result, after) ∧ (next result).Derails after := by
  unfold Derails
  rw [outcome_bind]
  obtain ⟨fault | result, after⟩ := work.outcome state
  · have noResult : ¬ ∃ result between, ((.error fault, after) : Except Fault Result × State) =
        (.ok result, between) ∧ Foreign ((next result).outcome between).1 := by
      rintro ⟨result, between, same, -⟩
      cases same
    rw [or_iff_left noResult, continued, foreign_error_iff, foreign_error_iff]
  · rw [or_iff_right (not_foreign_ok result), continued]
    constructor
    · exact fun derails => ⟨result, after, rfl, derails⟩
    · rintro ⟨other, between, same, derails⟩
      cases same
      exact derails

/-- After a step that succeeds, what follows counts. -/
theorem derails_after {work : Run State Result} {next : Result → Run State Other}
    {state after : State} {result : Result} (succeeds : work.outcome state = (.ok result, after)) :
    (work >>= next).Derails state ↔ (next result).Derails after := by
  rw [Derails, outcome_bind, succeeds]
  rfl

/-- After a step that leaves the state as it is. -/
theorem derails_lookup_bind_iff {work : Run State Result} {given : Except Fault Result}
    {state : State} (looksUp : work.outcome state = (given, state))
    (next : Result → Run State Other) :
    (work >>= next).Derails state ↔
      Foreign given ∨ ∃ result, given = .ok result ∧ (next result).Derails state := by
  rw [derails_bind_iff, Derails, looksUp]
  refine or_congr_right (exists_congr fun result => ?_)
  constructor
  · rintro ⟨after, same, derails⟩
    cases same
    exact ⟨rfl, derails⟩
  · rintro ⟨rfl, derails⟩
    exact ⟨state, rfl, derails⟩

theorem derails_ofExcept_bind_iff (given : Except Fault Result) (next : Result → Run State Other)
    (state : State) :
    (ofExcept given >>= next).Derails state ↔
      Foreign given ∨ ∃ result, given = .ok result ∧ (next result).Derails state :=
  derails_lookup_bind_iff (outcome_ofExcept given state) next

/-! ### Failing under a condition, whatever the state -/

/-- The work ends in the fault under the condition, and answers something expected otherwise. -/
structure EndsExactly (work : Run State Result) (fault : Fault) (condition : Prop)
    (expected : Result → Prop) : Prop where
  fails : condition → work.Yields (.error fault)
  answers : ¬ condition → ∃ result, work.Yields (.ok result) ∧ expected result

namespace EndsExactly

variable {work : Run State Result} {fault : Fault} {condition other : Prop}
  {expected : Result → Prop}

theorem congr (exactly : work.EndsExactly fault condition expected) (same : condition ↔ other) :
    work.EndsExactly fault other expected :=
  ⟨fun holds => exactly.fails (same.mpr holds), fun fails => exactly.answers (mt same.mp fails)⟩

theorem derails_iff (exactly : work.EndsExactly fault condition expected)
    (isForeign : fault.isOwn = false) (state : State) : work.Derails state ↔ condition := by
  refine foreign_iff_of_ends (fun holds => ?_) fun fails => ?_
  · exact ⟨fault, exactly.fails holds state, isForeign⟩
  · obtain ⟨result, yields, -⟩ := exactly.answers fails
    exact ⟨result, yields state⟩

/-- Where what follows on an expected answer never fails. -/
theorem derails_bind_iff (exactly : work.EndsExactly fault condition expected)
    (isForeign : fault.isOwn = false) {next : Result → Run State Other}
    (never : ∀ result, expected result → ∀ after, ¬ (next result).Derails after) (state : State) :
    (work >>= next).Derails state ↔ condition := by
  rw [Run.derails_bind_iff, exactly.derails_iff isForeign]
  refine or_iff_left_of_imp ?_
  rintro ⟨result, after, succeeds, derails⟩
  by_contra fails
  obtain ⟨found, yields, isExpected⟩ := exactly.answers fails
  have same := (congrArg Prod.fst succeeds).symm.trans (yields state)
  cases same
  exact never result isExpected after derails

/-- What is done with each item of a list fails if it does with one of them. -/
theorem mapM {Item : Type} {each : Item → Run State Result} {items : List Item}
    {conditions : Item → Prop}
    (exactly : ∀ item ∈ items, (each item).EndsExactly fault (conditions item) expected) :
    (items.mapM each).EndsExactly fault (∃ item ∈ items, conditions item)
      fun results => ∀ result ∈ results, expected result := by
  induction items with
  | nil =>
    refine ⟨?_, fun _ => ⟨[], yields_pure [], nofun⟩⟩
    rintro ⟨item, member, -⟩
    exact absurd member List.not_mem_nil
  | cons item rest inductionHypothesis =>
    have first := exactly item List.mem_cons_self
    have others :=
      inductionHypothesis fun item member => exactly item (List.mem_cons_of_mem _ member)
    rw [List.mapM_cons]
    simp only [List.mem_cons, exists_eq_or_imp]
    by_cases holds : conditions item
    · exact ⟨fun _ => (first.fails holds).bind_error _,
        fun neither => absurd (Or.inl holds) neither⟩
    · obtain ⟨result, yields, isExpected⟩ := first.answers holds
      refine ⟨fun either => ?_, fun neither => ?_⟩
      · exact yields.bind ((others.fails (either.resolve_left holds)).bind_error _)
      · obtain ⟨results, yieldsRest, areExpected⟩ := others.answers (not_or.mp neither).2
        exact ⟨_, yields.bind (yieldsRest.bind (yields_pure _)),
          List.forall_mem_cons.mpr ⟨isExpected, areExpected⟩⟩

/-- What work on the journal ends in does not depend on the rest of the world. -/
theorem inJournal {work : Run Journal Result}
    (exactly : work.EndsExactly fault condition expected) :
    (World.inJournal work).EndsExactly fault condition expected := by
  refine ⟨fun holds => yields_inJournal (exactly.fails holds), fun fails => ?_⟩
  obtain ⟨result, yields, isExpected⟩ := exactly.answers fails
  exact ⟨result, yields_inJournal yields, isExpected⟩

end EndsExactly

end Run

end MarketSignal
