/-
This file proves that an evaluation does not look at the order in which conditions and answers
come. Conditions are looked up by their names, and answers are sorted by theirs before they are
added up, so that the sum, which depends on the order of its terms, has its terms in one order. A
part that cannot be read keeps the whole from being read wherever it stands; which of several such
parts comes first decides on the fault, but an evaluation says no more of a fault than that there
was one.
-/
import MarketSignal.Proofs.Signal.Evaluation

namespace MarketSignal

/-! ### Entries and tables in another order -/

section

variable {Value Item Read : Type}

/-- Entries under distinct names that have changed places. -/
structure Entries.Reordered (left right : List (String × Value)) : Prop where
  distinct : (Entries.names left).Nodup
  perm : left.Perm right

theorem Entries.Reordered.distinct_right {left right : List (String × Value)}
    (reordered : Entries.Reordered left right) : (Entries.names right).Nodup :=
  (reordered.perm.map Prod.fst).nodup_iff.mp reordered.distinct

namespace Table.Reordered

variable {left right : Table Value}

/-- Sorting leaves the same entries in the one order in which their names ascend. -/
theorem sorted (reordered : left.Reordered right) : left.sorted = right.sorted := by
  have perm : left.sorted.Perm right.sorted :=
    ((List.mergeSort_perm _ _).trans reordered).trans (List.mergeSort_perm _ _).symm
  refine perm.eq_of_pairwise ?_ (List.pairwise_map.mp left.sorted_ascending)
    (List.pairwise_map.mp right.sorted_ascending)
  intro one other _ _ below above
  exact absurd above below.asymm

end Table.Reordered

/-! ### Reading members in another order -/

/-- What reads members one by one reads them in any order, into a table in that order. -/
theorem reads_of_reordered {read : String → Item → Except Fault Read}
    {left right : List (String × Item)} (reordered : Entries.Reordered left right)
    (table : Table Read) (isRead : readMembers read left = .ok table) :
    ∃ other, readMembers read right = .ok other ∧ table.Reordered other := by
  obtain ⟨entries, each, rfl⟩ := (readMembers_eq_ok_iff read left table).mp isRead
  obtain ⟨others, eachOther, perm⟩ :=
    (List.perm_comp_forall₂ reordered.perm.symm each)
  refine ⟨_, (readMembers_eq_ok_iff read right _).mpr ⟨others, eachOther, rfl⟩, ?_⟩
  have settled := Entries.settle_of_distinct entries
    ((names_of_isReadAs each).symm ▸ reordered.distinct)
  have settledOthers := Entries.settle_of_distinct others
    ((names_of_isReadAs eachOther).symm ▸ reordered.distinct_right)
  show (Entries.settle entries).Perm (Entries.settle others)
  rw [settled, settledOthers]
  exact perm.symm

/-- Members are read or are not, wherever they stand. -/
theorem alike_readMembers (read : String → Item → Except Fault Read)
    {left right : List (String × Item)} (reordered : Entries.Reordered left right) :
    Alike Table.Reordered (readMembers read left) (readMembers read right) := by
  refine .of_success (reads_of_reordered reordered) fun table isRead => ?_
  obtain ⟨other, isOther, -⟩ :=
    reads_of_reordered ⟨reordered.distinct_right, reordered.perm.symm⟩ table isRead
  exact ⟨other, isOther⟩

end

/-! ### Scenarios in another order -/

/-- Scenarios that differ in the order of their conditions at most. -/
structure Scenario.Reordered (left right : Scenario) : Prop where
  id : left.id = right.id
  name : left.name = right.name
  conditions : left.conditions.Reordered right.conditions
  outcomes : left.outcomes = right.outcomes

namespace Scenario.Reordered

variable {left right : Scenario}

theorem refl (scenario : Scenario) : scenario.Reordered scenario :=
  ⟨rfl, rfl, .refl _, rfl⟩

theorem contributions (reordered : left.Reordered right) (answers : List (String × Answer)) :
    left.contributions answers = right.contributions answers := by
  induction answers with
  | nil => rfl
  | cons entry rest inductionHypothesis =>
    rw [Scenario.contributions, Scenario.contributions, reordered.conditions.get?,
      inductionHypothesis, reordered.id]

theorem score (reordered : left.Reordered right) {answers others : Table Answer}
    (given : answers.Reordered others) : left.score answers = right.score others := by
  rw [Scenario.score, Scenario.score, given.sorted, reordered.contributions]

theorem signal (reordered : left.Reordered right) : left.signal = right.signal := by
  funext score contributions
  rw [Scenario.signal, Scenario.signal, reordered.outcomes, reordered.id]

/-- Only the success of reading the answers counts, not the fault. -/
theorem evaluate (reordered : left.Reordered right) {replies others : Replies}
    (given : Alike Table.Reordered replies.read others.read) :
    left.evaluate replies = right.evaluate others := by
  rw [Scenario.evaluate, Scenario.evaluate, reordered.signal, reordered.id]
  generalize replies.read = first at given
  generalize others.read = second at given
  cases given with
  | succeed same => rw [Run.ofExcept, Run.ofExcept, pure_bind, pure_bind, reordered.score same]
  | fail before after => rw [Run.tryCatch_ofExcept_error, Run.tryCatch_ofExcept_error]

end Scenario.Reordered

/-- A definition whose conditions have changed places defines the same scenario up to their
order. -/
theorem alike_ofDefinition (members : List (String × Json))
    {conditions others : List (String × Json)}
    (found : Entries.get? members "conditions" = some (.obj conditions))
    (reordered : Entries.Reordered conditions others) :
    Alike Scenario.Reordered (Scenario.ofDefinition (.obj members))
      (Scenario.ofDefinition (.obj (Entries.put members "conditions" (.obj others)))) := by
  have elsewhere (name : String) (other : "conditions" ≠ name) :
      (Json.obj (Entries.put members "conditions" (.obj others))).member name =
        (Json.obj members).member name := by
    rw [Json.member, Entries.get?_put_other members _ _ _ other]
    rfl
  have before : (Json.obj members).member "conditions" = .obj conditions := by
    rw [Json.member, found]
    rfl
  have after : (Json.obj (Entries.put members "conditions" (.obj others))).member "conditions" =
      .obj others := by
    rw [Json.member, Entries.get?_put_self]
    rfl
  have alike (id : String) : Alike Scenario.Reordered (Scenario.read id (.obj members))
      (Scenario.read id (.obj (Entries.put members "conditions" (.obj others)))) := by
    rw [Scenario.read, Scenario.read, elsewhere "outputs" (by decide),
      elsewhere "name" (by decide), before, after, optionalMembers_obj, optionalMembers_obj]
    rw [objectMembers, objectMembers, ok_bind, ok_bind, ok_bind, ok_bind]
    refine .bind (alike_readMembers _ reordered) fun first second same => ?_
    refine .bind_same _ fun outcomeMembers => .bind_same _ fun outcomes => ?_
    exact .bind_same _ fun name => .succeed ⟨rfl, rfl, same, rfl⟩
  rw [Scenario.ofDefinition, Scenario.ofDefinition, elsewhere "id" (by decide)]
  dsimp only
  split
  · exact .bind_same _ alike
  · exact alike ""

/-! ### Subjects and answers in another order -/

/-- One subject becomes the other when the conditions of the scenario change places. -/
inductive Subject.Reordered : Subject → Subject → Prop where
  | same (subject : Subject) : Reordered subject subject
  | scenario {left right : Scenario} (reordered : left.Reordered right) :
    Reordered (.scenario left) (.scenario right)
  | definition (members : List (String × Json)) {conditions others : List (String × Json)}
    (found : Entries.get? members "conditions" = some (.obj conditions))
    (reordered : Entries.Reordered conditions others) :
    Reordered (.definition (.obj members))
      (.definition (.obj (Entries.put members "conditions" (.obj others))))

/-- Answers that are the same but for their order. -/
inductive Replies.Reordered : Replies → Replies → Prop where
  | same (replies : Replies) : Reordered replies replies
  | answers {left right : Table Answer} (reordered : left.Reordered right) :
    Reordered (.answers left) (.answers right)
  | plain {left right : List (String × Json)} (reordered : Entries.Reordered left right) :
    Reordered (.plain (.obj left)) (.plain (.obj right))
  | each {left right : Table GivenAnswer} (reordered : left.Reordered right) :
    Reordered (.each left) (.each right)

/-- Answers are read or are not, wherever each of them stands. -/
theorem Replies.Reordered.read {replies others : Replies} (reordered : replies.Reordered others) :
    Alike Table.Reordered replies.read others.read := by
  cases reordered with
  | same => exact .refl .refl _
  | answers reordered => exact .succeed reordered
  | plain reordered => exact alike_readMembers (fun _ item => Answer.read item) reordered
  | each reordered =>
    exact alike_readMembers (fun _ answer => answer.read) ⟨Table.distinct _, reordered⟩

/-! ### Evaluations -/

/-- Of a definition that cannot be read, an evaluation says nothing else. -/
theorem evaluate_alike {value other : Json}
    (alike : Alike Scenario.Reordered (Scenario.ofDefinition value) (Scenario.ofDefinition other))
    {replies others : Replies} (given : Alike Table.Reordered replies.read others.read) :
    evaluate (.definition value) replies = evaluate (.definition other) others := by
  unfold evaluate
  dsimp only
  generalize Scenario.ofDefinition value = first at alike
  generalize Scenario.ofDefinition other = second at alike
  cases alike with
  | succeed reordered => exact reordered.evaluate given
  | fail before after => rfl

/-- An evaluation gives the same signal, and the same notices, whatever the order of the conditions
and of the answers. -/
theorem evaluate_reordered {subject other : Subject} (reordered : subject.Reordered other)
    {replies others : Replies} (given : replies.Reordered others) (journal : Journal) :
    (evaluate subject replies).outcome journal = (evaluate other others).outcome journal := by
  have alike := given.read
  refine congrArg (fun work : Run Journal Signal => work.outcome journal) ?_
  cases reordered with
  | same =>
    cases subject with
    | absent => rfl
    | scenario scenario => exact (Scenario.Reordered.refl scenario).evaluate alike
    | definition value => exact evaluate_alike (.refl .refl _) alike
  | scenario reordered => exact reordered.evaluate alike
  | definition members found reordered =>
    exact evaluate_alike (alike_ofDefinition members found reordered) alike

/-- The definition of two boxes and the answers that tick both. -/
def twoBoxes (first second : String) : Json :=
  let box := Json.obj [("type", .str "checkbox"), ("weight", .int 1)]
  .obj [("conditions", .obj [(first, box), (second, box)])]

def twoTicks (first second : String) : Json :=
  let tick := Json.obj [("type", .str "checkbox"), ("value", .bool true)]
  .obj [(first, tick), (second, tick)]

theorem evaluate_twoBoxes :
    (evaluate (.definition (twoBoxes "a" "b")) (.plain (twoTicks "a" "b"))).outcome [] =
      (evaluate (.definition (twoBoxes "b" "a")) (.plain (twoTicks "b" "a"))).outcome [] :=
  evaluate_reordered (.definition _ rfl ⟨by decide, .swap _ _ _⟩)
    (.plain ⟨by decide, .swap _ _ _⟩) []

end MarketSignal
