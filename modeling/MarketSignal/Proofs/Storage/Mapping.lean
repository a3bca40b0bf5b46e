/-
This file proves that every record store is one and the same map from keys to values, however its
calls fail. A history is any sequence of reads and writes under plain keys, between which anything
may start or stop failing. The invariant is that the store holds under each key the value of the
last write that returned, and nothing under a key without one; one step preserves it, and a read
that succeeds answers what is held. A write that fails, or that is about another key, is not even
noticed by a read.
-/
import MarketSignal.Proofs.Storage.Reading

namespace MarketSignal

namespace RecordStore

/-! ### Histories of reads and writes -/

/-- A step of a history. -/
inductive Step where
  | read (key : String)
  | write (key : String) (value : Json)
  /-- Calls of the stores start or stop failing. -/
  | disturb (failures : Failures)

/-- A step is about a plain key and a value that its text says all about. -/
def Step.Plain : Step → Prop
  | .read key => PlainKey key
  | .write key value => PlainKey key ∧ value.Faithful
  | .disturb _ => True

/-- Takes a step. -/
def Step.take (store : RecordStore) : Step → Run World Json
  | .read key => store.read key
  | .write key value => do
    store.write key value
    return .null
  | .disturb failures => do
    modify fun world => world.withFailures failures
    return .null

/-- The steps taken one after another, each with what comes of it. -/
def history (store : RecordStore) : List Step → World → List (Step × Except Fault Json)
  | [], _ => []
  | step :: rest, world =>
    (step, ((step.take store).outcome world).1) ::
      store.history rest ((step.take store).outcome world).2

/-- What a step stores under a key: a value, if it is a write that returns. -/
def stored? (key : String) : Step × Except Fault Json → Option Json
  | (.write other value, .ok _) => if other = key then some value else none
  | _ => none

/-- What the last write under a key that returned has stored. -/
def lastStored? (past : List (Step × Except Fault Json)) (key : String) : Option Json :=
  past.reverse.findSome? (stored? key)

theorem lastStored?_append (past : List (Step × Except Fault Json))
    (last : Step × Except Fault Json) (key : String) :
    lastStored? (past ++ [last]) key = (stored? key last).or (lastStored? past key) := by
  rw [lastStored?, List.reverse_append, List.findSome?_append, List.reverse_singleton,
    List.findSome?_singleton]
  rfl

/-! ### What a store holds under all keys -/

/-- The store holds a value under each plain key that has one, and nothing under the others. -/
def Agrees (store : RecordStore) (values : String → Option Json) (world : World) : Prop :=
  ∀ key, PlainKey key →
    match values key with
    | some value => store.Holds key value world
    | none => world.kept? (store.slot key) = none

variable {store : RecordStore} {values : String → Option Json} {world : World}

theorem Agrees.of_sameRecords (agrees : store.Agrees values world) {after : World}
    (same : SameRecords world after) : store.Agrees values after := by
  intro key plain
  have here := agrees key plain
  revert here
  cases values key with
  | none => exact fun nothing => (kept?_of_sameRecords same _).trans nothing
  | some value => exact fun holds => Holds.of_sameRecords holds same

/-- What is read is what is held; null if nothing is. -/
theorem Agrees.read (agrees : store.Agrees values world) {key : String} (plain : PlainKey key)
    {value : Json} (answers : ((store.read key).outcome world).1 = .ok value) :
    value = (values key).getD .null := by
  have here := agrees key plain
  revert here
  cases values key with
  | none => exact fun lacks => read_of_lacks store key value world lacks answers
  | some held =>
    intro holds
    rcases read_of_holds store key held world holds with answered | ⟨text, refused⟩
    · exact Except.ok.inj (answers.symm.trans answered)
    · cases answers.symm.trans refused

section

variable {key : String} (plain : PlainKey key) {value : Json}

include plain

/-- A write that fails leaves the store in agreement with the same values. -/
theorem Agrees.failed_write (agrees : store.Agrees values world) {fault : Fault}
    (fails : ((store.write key value).outcome world).1 = .error fault) :
    store.Agrees values ((store.write key value).outcome world).2 := by
  intro other plainOther
  have here := agrees other plainOther
  revert here
  cases values other with
  | none =>
    intro nothing
    dsimp only
    rw [kept?_of_failed_write store key value world fault plain.noSlash fails]
    exact nothing
  | some held =>
    intro holds
    by_cases same : key = other
    · subst same
      exact holds_of_failed_write store key held value world fault holds fails
    · exact keeps_write_other store other key held value
        (fun sameSlot => same (plain.slot_injective plainOther store sameSlot)) world holds

/-- A write that returns changes the value of its key and no other. -/
theorem Agrees.write (agrees : store.Agrees values world) (faithful : value.Faithful)
    (succeeds : ((store.write key value).outcome world).1 = .ok ()) :
    store.Agrees (Function.update values key (some value))
      ((store.write key value).outcome world).2 := by
  intro other plainOther
  by_cases same : other = key
  · subst same
    rw [Function.update_self]
    exact holds_of_write store other value world faithful succeeds
  · have apart : store.slot key ≠ store.slot other := fun sameSlot =>
      same (plain.slot_injective plainOther store sameSlot).symm
    have here := agrees other plainOther
    rw [Function.update_of_ne same]
    revert here
    cases values other with
    | none =>
      intro nothing
      dsimp only
      rw [(changesOnly_write store key value world plain.noSlash).records store other apart.symm]
      exact nothing
    | some held => exact fun holds => keeps_write_other store other key held value apart world holds

end

/-! ### One step -/

theorem lastStored?_write (past : List (Step × Except Fault Json)) (key : String)
    (value answer : Json) :
    lastStored? (past ++ [(.write key value, .ok answer)]) =
      Function.update (lastStored? past) key (some value) := by
  funext other
  rw [lastStored?_append, stored?]
  by_cases same : key = other
  · rw [if_pos same, same, Function.update_self]
    rfl
  · rw [if_neg same, Function.update_of_ne (Ne.symm same)]
    rfl

/-- A step that is no write, or a write that fails, stores nothing. -/
theorem lastStored?_none (past : List (Step × Except Fault Json))
    (last : Step × Except Fault Json) (nothing : ∀ key, stored? key last = none) :
    lastStored? (past ++ [last]) = lastStored? past := by
  funext key
  rw [lastStored?_append, nothing key]
  rfl

/-- The store agrees with what the history has stored, after one more step as before it. -/
theorem agrees_after (past : List (Step × Except Fault Json)) (step : Step) (plain : step.Plain)
    (agrees : store.Agrees (lastStored? past) world) :
    store.Agrees (lastStored? (past ++ [(step, ((step.take store).outcome world).1)]))
      ((step.take store).outcome world).2 := by
  cases step with
  | read key =>
    rw [lastStored?_none past _ fun _ => rfl]
    exact agrees.of_sameRecords (sameRecords_read store key world)
  | disturb failures =>
    rw [lastStored?_none past _ fun _ => rfl]
    exact agrees.of_sameRecords ⟨rfl, rfl, rfl, rfl⟩
  | write key value =>
    have failed (fault : Fault) :
        ((store.write key value).outcome world).1 = .error fault → _ := agrees.failed_write plain.1
    have succeeded := agrees.write plain.1 plain.2
    have taken : ((Step.write key value).take store).outcome world =
        Run.continued (fun _ => pure .null) ((store.write key value).outcome world) :=
      Run.outcome_bind _ _ _
    rw [taken]
    revert failed succeeded
    obtain ⟨fault | _, after⟩ := (store.write key value).outcome world
    · intro failed _
      rw [lastStored?_none past _ fun _ => rfl]
      exact failed fault rfl
    · intro _ succeeded
      rw [Run.continued, Run.outcome_pure, lastStored?_write]
      exact succeeded rfl

/-! ### Whole histories -/

/-- Every read that succeeds answers what the history before it, and whatever came before that, has
stored last. -/
theorem history_answers (steps : List Step) (plain : ∀ step ∈ steps, step.Plain) (world : World)
    (past : List (Step × Except Fault Json)) (agrees : store.Agrees (lastStored? past) world)
    (before after : List (Step × Except Fault Json)) (key : String) (value : Json)
    (happened : store.history steps world = before ++ (.read key, .ok value) :: after) :
    value = (lastStored? (past ++ before) key).getD .null := by
  induction steps generalizing world past before with
  | nil => exact absurd happened.symm (List.append_ne_nil_of_right_ne_nil _ (List.cons_ne_nil _ _))
  | cons step rest inductionHypothesis =>
    rw [history] at happened
    cases before with
    | nil =>
      obtain ⟨isHere, -⟩ := List.cons.inj happened
      obtain ⟨rfl, answers⟩ := Prod.mk.inj isHere
      rw [List.append_nil]
      exact agrees.read (plain _ List.mem_cons_self) answers
    | cons first others =>
      obtain ⟨rfl, behind⟩ := List.cons.inj happened
      have plainRest (other : Step) (member : other ∈ rest) : other.Plain :=
        plain other (List.mem_cons_of_mem _ member)
      have later := inductionHypothesis plainRest _ _
        (agrees_after past step (plain _ List.mem_cons_self) agrees) others behind
      rw [List.append_assoc] at later
      exact later

end RecordStore

end MarketSignal
