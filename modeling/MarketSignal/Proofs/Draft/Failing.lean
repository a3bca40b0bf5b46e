/-
This file proves that what fails changes nothing that an author has made. Wherever a history has
got to, an operation that ends with a fault leaves the book of the draft as it was: an edit puts its
entry back only after everything that can be refused, loading replaces the book only by one that was
read, and saving and scoring only read it. A strict save that is refused for what should be mended
leaves the world as it was too, and with it every store.
-/
import MarketSignal.Proofs.Draft.Freshness

namespace MarketSignal

namespace Draft

namespace History

/-- What the author does in this step ends with a fault. -/
def Fails (history : History) (event : Event) (fault : Fault) : Prop :=
  match event with
  | .edit edit => (edit.perform.outcome history.draft).1 = .error fault
  | .load library => ((history.draft.load library).outcome history.world).1 = .error fault
  | .save library strict =>
    ((history.draft.save library strict).outcome history.world).1 = .error fault
  | .evaluate id answers =>
    ((history.draft.evaluate id answers).outcome history.world).1 = .error fault
  | .elsewhere _ => False

/-- An edit that fails has at most read the clock and used up a key. -/
theorem book_of_refused {draft : Draft} {edit : Edit} {fault : Fault}
    (fails : (edit.perform.outcome draft).1 = .error fault) :
    (edit.perform.outcome draft).2.book = draft.book := by
  have step := step_perform edit draft
  revert fails step
  generalize edit.perform.outcome draft = ended
  intro fails step
  cases step with
  | refused => rfl
  | unissued => rfl
  | wasted => rfl
  | revised => cases fails
  | added => cases fails

theorem draft_after_edit (history : History) (edit : Edit) :
    (history.after (.edit edit)).draft = (edit.perform.outcome history.draft).2 := rfl

/-- A step that fails leaves the book of the draft as it was. -/
theorem book_after {history : History} {event : Event} {fault : Fault}
    (fails : history.Fails event fault) :
    (history.after event).draft.book = history.draft.book := by
  cases event with
  | edit edit =>
    rw [draft_after_edit]
    exact book_of_refused fails
  | load library =>
    obtain ⟨problem, world, failed⟩ | ⟨world, kept⟩ | ⟨book, world, filled⟩ :=
      outcome_load history.draft library history.world
    · rw [after, failed]
    · rw [Fails, kept] at fails
      cases fails
    · rw [Fails, filled] at fails
      cases fails
  | save library strict => rfl
  | evaluate id answers => rfl
  | elsewhere world => exact fails.elim

end History

/-- A strict save of a book that is not free of issues is refused before anything is done. -/
theorem outcome_save_of_issues (draft : Draft) (library : Library) (world : World)
    (unclean : draft.book.issues ≠ .ok []) :
    ∃ fault, (draft.save library true).outcome world = (.error fault, world) ∧
      ∀ issues, draft.book.issues = .ok issues →
        fault = .malformed "$" (String.intercalate "; " issues) := by
  unfold Draft.save
  dsimp only
  rw [if_pos rfl, Run.outcome_bind, Run.outcome_ofExcept]
  cases linted : draft.book.issues with
  | error fault => exact ⟨fault, rfl, fun _ same => nomatch same⟩
  | ok issues =>
    cases issues with
    | nil => exact absurd linted unclean
    | cons issue rest =>
      refine ⟨_, rfl, fun _ same => ?_⟩
      cases same
      rfl

namespace History

/-- Whatever was done to a draft, a step that fails leaves its scenarios as they were, and a strict
save of a book with issues fails, names them all and leaves the world as it was. -/
theorem failing_changes_nothing (book : Book) (clock : Clock) (world : World)
    (events : List Event) (event : Event) (fault : Fault) :
    let history := (opened book clock world).run events
    (history.Fails event fault → (history.after event).draft.book = history.draft.book) ∧
      ∀ library, history.draft.book.issues ≠ .ok [] →
        (history.after (.save library true)).world = history.world ∧
          ∃ refusal, history.Fails (.save library true) refusal ∧
            ∀ issues, history.draft.book.issues = .ok issues →
              refusal = .malformed "$" (String.intercalate "; " issues) := by
  intro history
  refine ⟨book_after, fun library unclean => ?_⟩
  obtain ⟨refusal, refused, named⟩ :=
    outcome_save_of_issues history.draft library history.world unclean
  exact ⟨congrArg Prod.snd refused, refusal, congrArg Prod.fst refused, named⟩

/-- A book with one scenario that has no name. -/
def namelessBook : Book :=
  Table.put Table.empty "s" ⟨"s", .str " ", Table.empty, Table.empty⟩

/-- An outcome whose threshold is refused uses a key up. -/
theorem addOutcome_wastes {draft : Draft} {id threshold : Json} {name key : String}
    {scenario : Scenario} {fault : Fault} (message kind : Json)
    (found : scenarioAt draft.book id = .ok (name, scenario))
    (issues : (issueKey "output").outcome draft = (.ok key, draft.issued key))
    (refused : givenNumber threshold = .error fault) :
    (Edit.addOutcome id threshold message kind).perform.outcome draft =
      (.error fault, draft.issued key) := by
  show (Run.ofExcept (scenarioAt draft.book id) >>= _ >>= _).outcome draft = _
  rw [bind_assoc, Run.outcome_bind, Run.outcome_ofExcept, found, Run.continued]
  show ((issueKey "output" >>= _) >>= _).outcome draft = _
  rw [bind_assoc, Run.outcome_bind, issues]
  show ((Run.ofExcept (givenNumber threshold) >>= _) >>= _).outcome (draft.issued key) = _
  rw [refused]
  rfl

/-- An outcome with a threshold that is no number uses a key up but is not added, and a strict save
is refused for the missing name. -/
theorem failing_changes_nothing_nameless :
    let history := opened namelessBook stoppedClock World.fresh
    let addsOutcome : Event := .edit (.addOutcome (.str "s") (.str "five") (.str "Up") .null)
    let library : Library := ⟨some .memory, none, none⟩
    history.Fails addsOutcome .notNumber ∧
      (history.after addsOutcome).draft =
        history.draft.issued "output_1700000000000" ∧
      (history.after addsOutcome).draft.book = history.draft.book ∧
      history.Fails (.save library true) (.malformed "$" "s: scenario has no name") ∧
      (history.after (.save library true)).world = history.world := by
  intro history addsOutcome library
  have issues : (issueKey "output").outcome history.draft =
      (.ok "output_1700000000000", history.draft.issued "output_1700000000000") := by
    have isKey : keyOf "output" (freeStamp history.draft.reserved "output" 1700000000000) =
        "output_1700000000000" := by decide +kernel
    rw [issueKey_of_time "output" history.draft 1700000000000 rfl, if_neg (by decide +kernel),
      isKey]
  have found : scenarioAt history.draft.book (.str "s") =
      .ok ("s", ⟨"s", .str " ", Table.empty, Table.empty⟩) := rfl
  have refused : givenNumber (.str "five") = .error .notNumber := rfl
  have wastes := addOutcome_wastes (.str "Up") .null found issues refused
  have same : (opened namelessBook stoppedClock World.fresh).run [] = history := rfl
  obtain ⟨kept, refuses⟩ := failing_changes_nothing namelessBook stoppedClock World.fresh []
    addsOutcome .notNumber
  rw [same] at kept refuses
  have unclean : history.draft.book.issues ≠ .ok [] := nofun
  have fails : history.Fails addsOutcome .notNumber := congrArg Prod.fst wastes
  have ends : (history.after addsOutcome).draft = history.draft.issued "output_1700000000000" :=
    (draft_after_edit history _).trans (congrArg Prod.snd wastes)
  exact ⟨fails, ends, kept fails, rfl, (refuses library unclean).1⟩

end History

end Draft

end MarketSignal
