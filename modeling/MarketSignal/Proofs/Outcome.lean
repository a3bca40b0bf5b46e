/-
This file takes computations apart that answer a result or a problem: a sequence succeeds if its
steps do, and a list is read if each of its items is. It also says of a computation that it fails
with one problem under one condition, and gathers the condition from the steps; and of two
computations that they succeed alike or fail both, and carries this from step to step.
-/
import Mathlib

namespace MarketSignal

variable {Problem First Second : Type}

/-! ### Sequences -/

theorem ok_bind (first : First) (next : First → Except Problem Second) :
    (Except.ok first >>= next) = next first := rfl

theorem eq_ok_of_toOption {outcome : Except Problem First} {result : First}
    (found : outcome.toOption = some result) : outcome = .ok result := by
  cases outcome with
  | error problem => cases found
  | ok other => exact congrArg Except.ok (Option.some.inj found)

theorem exists_error_of_toOption {outcome : Except Problem First}
    (nothing : outcome.toOption = none) : ∃ problem, outcome = .error problem := by
  cases outcome with
  | error problem => exact ⟨problem, rfl⟩
  | ok other => cases nothing

theorem bind_eq_ok {work : Except Problem First} {next : First → Except Problem Second}
    {result : Second} (succeeds : (work >>= next) = .ok result) :
    ∃ first, work = .ok first ∧ next first = .ok result := by
  cases work with
  | error problem => cases succeeds
  | ok first => exact ⟨first, rfl, succeeds⟩

/-! ### Lists -/

/-- What is done with the items of a list is decided by what is done with each. -/
theorem mapM_congr {Work : Type → Type} [Monad Work] [LawfulMonad Work]
    {work other : First → Work Second} {items : List First}
    (same : ∀ item ∈ items, work item = other item) :
    items.mapM work = items.mapM other := by
  induction items with
  | nil => rfl
  | cons item rest inductionHypothesis =>
    rw [List.mapM_cons, List.mapM_cons, same item List.mem_cons_self,
      inductionHypothesis fun item member => same item (List.mem_cons_of_mem _ member)]

/-- A list is read if its items are read one by one. -/
theorem mapM_eq_ok_iff (read : First → Except Problem Second) (items : List First)
    (results : List Second) :
    items.mapM read = .ok results ↔
      List.Forall₂ (fun item result => read item = .ok result) items results := by
  induction items generalizing results with
  | nil =>
    rw [List.mapM_nil, List.forall₂_nil_left_iff]
    exact ⟨fun same => (Except.ok.inj same).symm, fun empty => empty ▸ rfl⟩
  | cons item rest inductionHypothesis =>
    rw [List.mapM_cons]
    constructor
    · intro succeeds
      obtain ⟨first, isFirst, behind⟩ := bind_eq_ok succeeds
      obtain ⟨others, areOthers, whole⟩ := bind_eq_ok behind
      cases whole
      exact .cons isFirst ((inductionHypothesis others).mp areOthers)
    · intro each
      cases each with
      | cons isFirst areOthers =>
        rw [isFirst, ok_bind, (inductionHypothesis _).mpr areOthers]
        rfl

/-- A list that was written item by item is read item by item, each as what it is changed to. -/
theorem mapM_map_eq_ok {Third : Type} (write : Third → First) (read : First → Except Problem Second)
    (change : Third → Second) (items : List Third)
    (back : ∀ item ∈ items, read (write item) = .ok (change item)) :
    (items.map write).mapM read = .ok (items.map change) := by
  rw [mapM_eq_ok_iff, List.forall₂_map_left_iff, List.forall₂_map_right_iff, List.forall₂_same]
  exact back

/-- What was read from a list was read from one of its items. -/
theorem exists_of_mapM_eq_ok {read : First → Except Problem Second} {items : List First}
    {results : List Second} (succeeds : items.mapM read = .ok results) (result : Second)
    (member : result ∈ results) : ∃ item ∈ items, read item = .ok result := by
  have each := (mapM_eq_ok_iff read items results).mp succeeds
  clear succeeds
  induction each with
  | nil => exact absurd member List.not_mem_nil
  | cons isFirst areOthers inductionHypothesis =>
    rcases List.mem_cons.mp member with rfl | other
    · exact ⟨_, List.mem_cons_self, isFirst⟩
    · obtain ⟨item, present, isResult⟩ := inductionHypothesis other
      exact ⟨item, List.mem_cons_of_mem _ present, isResult⟩

/-! ### Failing under a condition -/

/-- The work fails with the problem under the condition, and succeeds otherwise. -/
structure FailsExactly (problem : Problem) (condition : Prop) (work : Except Problem First) :
    Prop where
  fails : condition → work = .error problem
  succeeds : ¬ condition → ∃ result, work = .ok result

namespace FailsExactly

variable {problem : Problem} {condition other : Prop} {work : Except Problem First}
  {next : First → Except Problem Second}

theorem congr (exactly : FailsExactly problem condition work) (same : condition ↔ other) :
    FailsExactly problem other work :=
  ⟨fun holds => exactly.fails (same.mpr holds), fun fails => exactly.succeeds (mt same.mp fails)⟩

/-- A step that succeeds does not count. -/
theorem after {result : First} (succeeds : work = .ok result)
    (exactly : FailsExactly problem condition (next result)) :
    FailsExactly problem condition (work >>= next) := by
  rw [succeeds, ok_bind]
  exact exactly

/-- Nor do steps that follow and succeed whatever comes before them. -/
theorem before (exactly : FailsExactly problem condition work)
    (rest : ∀ result, ∃ last, next result = .ok last) :
    FailsExactly problem condition (work >>= next) := by
  constructor
  · intro holds
    rw [exactly.fails holds]
    rfl
  · intro fails
    obtain ⟨result, isResult⟩ := exactly.succeeds fails
    rw [isResult]
    exact rest result

/-- A sequence fails under either condition. -/
theorem bind (exactly : FailsExactly problem condition work)
    (rest : ∀ result, FailsExactly problem other (next result)) :
    FailsExactly problem (condition ∨ other) (work >>= next) := by
  by_cases holds : condition
  · refine ⟨fun _ => ?_, fun neither => absurd (Or.inl holds) neither⟩
    rw [exactly.fails holds]
    rfl
  · obtain ⟨result, isResult⟩ := exactly.succeeds holds
    rw [isResult, ok_bind]
    exact (rest result).congr (or_iff_right holds).symm

/-- A list fails if one of its items does. -/
theorem mapM {items : List First} {read : First → Except Problem Second} {each : First → Prop}
    (exactly : ∀ item ∈ items, FailsExactly problem (each item) (read item)) :
    FailsExactly problem (∃ item ∈ items, each item) (items.mapM read) := by
  induction items with
  | nil =>
    refine ⟨?_, fun _ => ⟨[], rfl⟩⟩
    rintro ⟨item, member, -⟩
    exact absurd member List.not_mem_nil
  | cons item rest inductionHypothesis =>
    rw [List.mapM_cons]
    have first := exactly item List.mem_cons_self
    have others :=
      inductionHypothesis fun item member => exactly item (List.mem_cons_of_mem _ member)
    refine (first.bind fun result => others.before fun results => ⟨_, rfl⟩).congr ?_
    simp only [List.mem_cons, exists_eq_or_imp]

end FailsExactly

/-! ### Two computations side by side -/

/-- Both computations fail, for whatever reasons, or both succeed with related results. -/
inductive Alike (related : First → First → Prop) :
    Except Problem First → Except Problem First → Prop where
  | succeed {left right : First} (same : related left right) : Alike related (.ok left) (.ok right)
  | fail (left right : Problem) : Alike related (.error left) (.error right)

namespace Alike

variable {related : First → First → Prop} {others : Second → Second → Prop}
  {left right : Except Problem First} {first second : First → Except Problem Second}

theorem refl (reflexive : ∀ result, related result result) (work : Except Problem First) :
    Alike related work work := by
  cases work with
  | ok result => exact .succeed (reflexive result)
  | error problem => exact .fail problem problem

/-- Steps that follow may rely on the relation of the results before them. -/
theorem bind (alike : Alike related left right)
    (rest : ∀ before after, related before after → Alike others (first before) (second after)) :
    Alike others (left >>= first) (right >>= second) := by
  cases alike with
  | succeed same => exact rest _ _ same
  | fail before after => exact .fail before after

/-- Nor do first steps that are the same make a difference. -/
theorem bind_same (work : Except Problem First)
    (rest : ∀ result, Alike others (first result) (second result)) :
    Alike others (work >>= first) (work >>= second) := by
  cases work with
  | ok result => exact rest result
  | error problem => exact .fail problem problem

/-- Two computations are alike if the success of either carries over to the other. -/
theorem of_success
    (forth : ∀ result, left = .ok result → ∃ other, right = .ok other ∧ related result other)
    (back : ∀ result, right = .ok result → ∃ other, left = .ok other) :
    Alike related left right := by
  cases left with
  | ok result =>
    obtain ⟨other, rfl, same⟩ := forth result rfl
    exact .succeed same
  | error problem =>
    cases right with
    | ok result =>
      obtain ⟨other, impossible⟩ := back result rfl
      cases impossible
    | error another => exact .fail problem another

end Alike

end MarketSignal
