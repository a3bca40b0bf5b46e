/-
This file follows the warnings that work leaves in a journal. Work that succeeds whatever the
journal adds notices at its end; the warnings of a sequence are those of its steps, one after
another, and notices at other levels do not count.
-/
import MarketSignal.Proofs.Run

namespace MarketSignal

/-- The warnings among notices. -/
def Journal.warnings (notices : List Notice) : List Notice :=
  notices.filter fun notice => notice.level == .warning

namespace Run

variable {Result Other : Type}

/-- Whatever the journal, the work answers the result and adds notices, among them these
warnings. -/
def Warns (work : Run Journal Result) (result : Result) (warnings : List Notice) : Prop :=
  ∀ journal, ∃ notices, work.outcome journal = (.ok result, journal ++ notices) ∧
    Journal.warnings notices = warnings

theorem Warns.yields {work : Run Journal Result} {result : Result} {warnings : List Notice}
    (warns : work.Warns result warnings) : work.Yields (.ok result) := by
  intro journal
  obtain ⟨notices, done, -⟩ := warns journal
  rw [done]

theorem warns_pure (result : Result) : (pure result : Run Journal Result).Warns result [] :=
  fun journal => ⟨[], by rw [outcome_pure, List.append_nil], rfl⟩

theorem warns_ofExcept {outcome : Except Fault Result} {result : Result}
    (succeeds : outcome = .ok result) :
    (ofExcept outcome : Run Journal Result).Warns result [] := by
  rw [succeeds]
  exact warns_pure result

/-- A notice at another level. -/
theorem warns_note (level : Level) (message : String) (harmless : level ≠ .warning) :
    (Journal.note level message).Warns () [] := by
  refine fun journal => ⟨[⟨level, message, none⟩], rfl, ?_⟩
  rw [Journal.warnings, List.filter_cons_of_neg (by simpa using harmless), List.filter_nil]

theorem warns_warning (message : String) :
    (Journal.note .warning message).Warns () [⟨.warning, message, none⟩] :=
  fun _ => ⟨[⟨.warning, message, none⟩], rfl, rfl⟩

theorem Warns.bind {work : Run Journal Result} {next : Result → Run Journal Other}
    {result : Result} {other : Other} {before after : List Notice}
    (first : work.Warns result before) (rest : (next result).Warns other after) :
    (work >>= next).Warns other (before ++ after) := by
  intro journal
  obtain ⟨noted, done, isBefore⟩ := first journal
  obtain ⟨notedLater, doneLater, isAfter⟩ := rest (journal ++ noted)
  refine ⟨noted ++ notedLater, ?_, ?_⟩
  · rw [outcome_bind, done, continued, doneLater, List.append_assoc]
  · rw [Journal.warnings, List.filter_append]
    exact congrArg₂ (· ++ ·) isBefore isAfter

/-- A last step that only puts the result into shape. -/
theorem Warns.bind_pure {work : Run Journal Result} {next : Result → Run Journal Other}
    {result : Result} {other : Other} {warnings : List Notice} (warns : work.Warns result warnings)
    (isLast : next result = pure other) : (work >>= next).Warns other warnings := by
  have whole := warns.bind (isLast ▸ warns_pure other)
  rw [List.append_nil] at whole
  exact whole

theorem Warns.tryCatch {work : Run Journal Result} {result : Result} {warnings : List Notice}
    (warns : work.Warns result warnings) (handler : Fault → Run Journal Result) :
    (tryCatch work handler).Warns result warnings := by
  intro journal
  obtain ⟨notices, done, areWarnings⟩ := warns journal
  refine ⟨notices, ?_, areWarnings⟩
  rw [outcome_tryCatch, done, handled]

/-- What is done with the items of a list one after another. -/
theorem warns_mapM {Item : Type} {work : Item → Run Journal Result} {result : Item → Result}
    {warnings : Item → List Notice} {items : List Item}
    (each : ∀ item ∈ items, (work item).Warns (result item) (warnings item)) :
    (items.mapM work).Warns (items.map result) (items.flatMap warnings) := by
  induction items with
  | nil => exact warns_pure []
  | cons item rest inductionHypothesis =>
    rw [List.mapM_cons]
    have others := inductionHypothesis fun other member =>
      each other (List.mem_cons_of_mem _ member)
    exact (each item List.mem_cons_self).bind (others.bind_pure rfl)

end Run

end MarketSignal
