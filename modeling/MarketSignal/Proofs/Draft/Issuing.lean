/-
This file proves that the keys which a draft issues are unique over its whole life. A key is made
from the least number, counting up from the time, whose key is not reserved; such a number always
exists, because only finitely many keys are reserved. What is issued is reserved from then on, and
no step of a draft forgets a reserved key. The invariant of a run is therefore only that reserved
keys stay reserved: by it a key that is issued differs from all keys issued before and from all keys
of the book that the draft was opened on, whatever was deleted or loaded in between and whatever the
clock shows.

A number that has too many digits to be written makes no key. No floating-point time comes near it,
but a time that is a whole number can.
-/
import MarketSignal.Proofs.Draft.Freshness
import MarketSignal.Proofs.Number.Word

namespace MarketSignal

/-! ### Times that are floating-point numbers -/

theorem Binary.Canonical.floor_lt {magnitude : Binary} (canonical : magnitude.Canonical) :
    magnitude.floor < 2 ^ 1024 := by
  have places : 53 + magnitude.exponent.toNat ≤ 1024 := by
    have := canonical.exponent_le
    omega
  have bounded : magnitude.floor < 2 ^ (53 + magnitude.exponent.toNat) := by
    rw [Nat.pow_add]
    exact (Nat.div_le_self _ _).trans_lt
      (Nat.mul_lt_mul_of_pos_right canonical.mantissa_lt (Nat.two_pow_pos _))
  exact bounded.trans_le (pow_le_pow_right₀ one_le_two places)

/-- No finite floating-point number has a whole part beyond the largest of them. -/
theorem natAbs_truncated_lt {number : Float} {whole : Int}
    (truncates : truncated? number = some whole) : whole.natAbs < 2 ^ 1024 := by
  unfold truncated? at truncates
  split at truncates
  case h_1 negative magnitude shape =>
    have small := (eq_of_shape_finite number negative magnitude shape).2.floor_lt
    have same : whole.natAbs = magnitude.floor := by
      cases negative <;> cases truncates <;> simp
    rw [same]
    exact small
  case h_2 => cases truncates

namespace Draft

/-! ### The least free number -/

/-- The numbers from the given one on whose keys are not reserved. -/
def freeNumbers (draft : Draft) (stem : String) (stamp : Int) : Set Int :=
  {number | stamp ≤ number ∧ keyOf stem number ∉ draft.reserved}

theorem freeStamp_isLeast (draft : Draft) (stem : String) (stamp : Int) :
    IsLeast (draft.freeNumbers stem stamp) (freeStamp draft.reserved stem stamp) := by
  obtain ⟨steps, isFirst, free, passed⟩ := freeStamp_first draft.reserved stem stamp
  rw [isFirst]
  refine ⟨⟨by omega, free⟩, fun number ⟨late, isFree⟩ => ?_⟩
  by_contra before
  have reserved := passed (number - stamp).toNat (by omega)
  rw [Int.toNat_of_nonneg (by omega), add_sub_cancel] at reserved
  exact isFree reserved

/-- There are no more numbers to pass over than keys are reserved. -/
theorem freeStamp_le (reserved : List String) (stem : String) (stamp : Int) :
    freeStamp reserved stem stamp ≤ stamp + reserved.length := by
  obtain ⟨steps, isFirst, -, passed⟩ := freeStamp_first reserved stem stamp
  obtain ⟨step, within, free⟩ := exists_free reserved stem stamp
  have notBefore : ¬ step < steps := fun before => free (passed step before)
  omega

/-- The least free number after a floating-point time can be written, unless almost as many keys are
reserved as there are numbers that can. -/
theorem freeStamp_writable {reserved : List String} (stem : String) {number : Float} {stamp : Int}
    (truncates : truncated? number = some stamp) (bounded : reserved.length < 10 ^ 4299) :
    (exceedsDigitLimit stamp || exceedsDigitLimit (freeStamp reserved stem stamp)) = false := by
  have early := natAbs_truncated_lt truncates
  have near := freeStamp_le reserved stem stamp
  obtain ⟨steps, isFirst, -⟩ := freeStamp_first reserved stem stamp
  have room : 2 ^ 1024 + 10 ^ 4299 < 10 ^ digitLimit := by decide +kernel
  unfold exceedsDigitLimit
  rw [Bool.or_eq_false_iff, decide_eq_false_iff_not, decide_eq_false_iff_not]
  omega

/-- Issuing a key at a known time: the key of the least free number, unless that or the time is too
long to be written. -/
theorem issueKey_least (draft : Draft) (stem : String) (stamp : Int)
    (isStamp : Clock.milliseconds draft.clock.read.1 = .ok stamp) :
    ∃ number, IsLeast (draft.freeNumbers stem stamp) number ∧
      (issueKey stem).outcome draft =
        (if exceedsDigitLimit stamp || exceedsDigitLimit number then
          (.error .longNumber, draft.ticked)
        else (.ok (keyOf stem number), draft.issued (keyOf stem number))) ∧
      ∀ seconds, draft.clock.read.1 = .float seconds → draft.reserved.length < 10 ^ 4299 →
        (exceedsDigitLimit stamp || exceedsDigitLimit number) = false := by
  refine ⟨freeStamp draft.reserved stem stamp, draft.freeStamp_isLeast stem stamp,
    issueKey_of_time stem draft stamp isStamp, fun seconds isFloat bounded => ?_⟩
  rw [isFloat, Clock.milliseconds] at isStamp
  split at isStamp
  case h_1 whole truncates =>
    cases isStamp
    exact freeStamp_writable stem truncates bounded
  case h_2 => cases isStamp

/-! ### Edits that issue keys -/

/-- A key that an edit answers was issued for the word of the edit. -/
theorem issues_of_answered {draft later : Draft} {edit : Edit} {key : String}
    (answers : edit.perform.outcome draft = (.ok (.key key), later)) :
    ∃ stem, edit.stem? = some stem ∧ ((issueKey stem).outcome draft).1 = .ok key := by
  cases edit with
  | addScenario name =>
    obtain ⟨_, adds, same⟩ := exists_of_answered answers
    obtain ⟨_, _, issues, rest⟩ := Run.exists_of_bind_eq_ok adds
    cases rest
    cases same
    exact ⟨_, rfl, congrArg Prod.fst issues⟩
  | addCondition id =>
    obtain ⟨_, adds, same⟩ := exists_of_answered answers
    obtain ⟨_, _, isAdded⟩ := exists_of_find adds
    obtain ⟨_, _, issues, rest⟩ := Run.exists_of_bind_eq_ok isAdded
    cases rest
    cases same
    exact ⟨_, rfl, congrArg Prod.fst issues⟩
  | addOutcome id threshold message kind =>
    obtain ⟨_, adds, same⟩ := exists_of_answered answers
    obtain ⟨_, _, isAdded⟩ := exists_of_find adds
    obtain ⟨_, _, issues, rest⟩ := Run.exists_of_bind_eq_ok isAdded
    obtain ⟨_, _, rest⟩ := Run.exists_of_ofExcept_bind_eq_ok rest
    cases rest
    cases same
    exact ⟨_, rfl, congrArg Prod.fst issues⟩
  | renameScenario | deleteScenario | updateCondition | deleteCondition | addChoice | updateChoice
  | deleteChoice | updateOutcome | deleteOutcome =>
    obtain ⟨_, _, same⟩ := exists_of_answered answers
    cases same

/-- A key that an edit answers was not reserved before, and is from then on. -/
theorem reserves_answered {draft later : Draft} {edit : Edit} {key : String}
    (answers : edit.perform.outcome draft = (.ok (.key key), later)) :
    key ∉ draft.reserved ∧ key ∈ later.reserved := by
  have step := step_perform edit draft
  rw [answers] at step
  cases step with
  | revised result noKey => exact absurd rfl (noKey key)
  | added next => exact ⟨next.fresh, List.mem_cons_self⟩

/-- No edit makes a draft forget a reserved key. -/
theorem reserved_perform (edit : Edit) (draft : Draft) :
    draft.reserved ⊆ (edit.perform.outcome draft).2.reserved := by
  have step := step_perform edit draft
  revert step
  generalize edit.perform.outcome draft = ended
  intro step
  cases step with
  | refused | revised | unissued => exact fun _ => id
  | wasted | added => exact List.subset_cons_self _ _

namespace History

/-! ### The keys that a history issues -/

/-- The key that a step answers, if it answers one. -/
def issuedKey? (history : History) : Event → Option String
  | .edit edit =>
    match (edit.perform.outcome history.draft).1 with
    | .ok (.key key) => some key
    | _ => none
  | _ => none

/-- The keys that steps answer one after another. -/
def issuedKeys : History → List Event → List String
  | _, [] => []
  | history, event :: rest =>
    (history.issuedKey? event).toList ++ (history.after event).issuedKeys rest

/-- A key that a step answers was not reserved before it, and is after it. -/
theorem reserves_issued {history : History} {event : Event} {key : String}
    (issues : history.issuedKey? event = some key) :
    key ∉ history.draft.reserved ∧ key ∈ (history.after event).draft.reserved := by
  cases event with
  | edit edit =>
    rw [issuedKey?] at issues
    split at issues
    case h_1 answered =>
      cases issues
      exact reserves_answered (Prod.ext answered rfl)
    case h_2 => cases issues
  | load | save | evaluate | elsewhere => cases issues

/-- No step makes a draft forget a reserved key. -/
theorem reserved_after (history : History) (event : Event) :
    history.draft.reserved ⊆ (history.after event).draft.reserved := by
  cases event with
  | edit edit => exact reserved_perform edit history.draft
  | load library =>
    rw [after]
    obtain ⟨fault, world, failed⟩ | ⟨world, kept⟩ | ⟨book, world, filled⟩ :=
      outcome_load history.draft library history.world
    · rw [failed]
      exact fun _ => id
    · rw [kept]
      exact fun _ => id
    · rw [filled]
      exact List.subset_append_right _ _
  | save | evaluate | elsewhere => exact fun _ => id

/-- The keys that steps issue differ from each other and from all keys that were reserved before. -/
theorem issuedKeys_apart (history : History) (events : List Event) :
    (history.issuedKeys events).Nodup ∧
      ∀ key ∈ history.issuedKeys events, key ∉ history.draft.reserved := by
  induction events generalizing history with
  | nil => exact ⟨List.nodup_nil, List.forall_mem_nil _⟩
  | cons event rest inductionHypothesis =>
    obtain ⟨distinct, apart⟩ := inductionHypothesis (history.after event)
    have apartBefore (key : String) (member : key ∈ (history.after event).issuedKeys rest) :
        key ∉ history.draft.reserved :=
      fun reserved => apart key member (reserved_after history event reserved)
    rw [issuedKeys]
    cases issued : history.issuedKey? event with
    | none => exact ⟨distinct, apartBefore⟩
    | some key =>
      obtain ⟨fresh, reserved⟩ := reserves_issued issued
      exact ⟨List.nodup_cons.mpr ⟨fun again => apart key again reserved, distinct⟩,
        List.forall_mem_cons.mpr ⟨fresh, apartBefore⟩⟩

/-! ### Whole histories -/

/-- The keys that a draft issues in a history differ from each other and from the keys of the book
that it was opened on, whatever the clock shows. Wherever the history has got to, a key that is
issued is made from the least number, counting up from the time, whose key is not reserved; it is
issued exactly if neither the time nor that number has too many digits, which a floating-point time
never has and such a number only after more keys were reserved than could ever be kept. The keys
that edits answer are issued in this way. -/
theorem issues_least_free (book : Book) (clock : Clock) (world : World) (events : List Event) :
    let start := opened book clock world
    let draft := (start.run events).draft
    (start.issuedKeys events).Nodup ∧
      (∀ key ∈ start.issuedKeys events, key ∉ keysOf book) ∧
      (∀ stem stamp, Clock.milliseconds draft.clock.read.1 = .ok stamp →
        ∃ number, IsLeast (draft.freeNumbers stem stamp) number ∧
          (issueKey stem).outcome draft =
            (if exceedsDigitLimit stamp || exceedsDigitLimit number then
              (.error .longNumber, draft.ticked)
            else (.ok (keyOf stem number), draft.issued (keyOf stem number))) ∧
          ∀ seconds, draft.clock.read.1 = .float seconds → draft.reserved.length < 10 ^ 4299 →
            (exceedsDigitLimit stamp || exceedsDigitLimit number) = false) ∧
      ∀ (edit : Edit) key later, edit.perform.outcome draft = (.ok (.key key), later) →
        ∃ stem, edit.stem? = some stem ∧ ((issueKey stem).outcome draft).1 = .ok key := by
  intro start draft
  obtain ⟨distinct, apart⟩ := issuedKeys_apart start events
  exact ⟨distinct, apart, draft.issueKey_least, fun _ _ _ => issues_of_answered⟩

/-- Two scenarios at one time, the first deleted before the second comes, get different keys. -/
theorem issues_least_free_deleted :
    let addsScenario : Event := .edit (.addScenario newScenarioName)
    let deletesFirst : Event := .edit (.deleteScenario (.str "scenario_1700000000000"))
    let start := opened Table.empty stoppedClock World.fresh
    start.issuedKeys [addsScenario, deletesFirst, addsScenario] =
        ["scenario_1700000000000", "scenario_1700000000001"] ∧
      (start.issuedKeys [addsScenario, deletesFirst, addsScenario]).Nodup := by
  intro addsScenario deletesFirst start
  exact ⟨by decide +kernel, (issues_least_free Table.empty stoppedClock World.fresh
    [addsScenario, deletesFirst, addsScenario]).1⟩

/-- At a time that is a whole number of 4299 digits no key is issued: in milliseconds it has 4302. -/
theorem issues_none_longTime :
    let draft := (opened Table.empty ⟨[], .int (10 ^ 4298)⟩ World.fresh).draft
    Clock.milliseconds draft.clock.read.1 = .ok (10 ^ 4298 * 1000) ∧
      ((Edit.addScenario newScenarioName).perform.outcome draft).1 = .error .longNumber := by
  intro draft
  have isStamp : Clock.milliseconds draft.clock.read.1 = .ok (10 ^ 4298 * 1000) := rfl
  refine ⟨isStamp, ?_⟩
  have issues := issueKey_of_time "scenario" draft _ isStamp
  rw [if_pos (Bool.or_eq_true_iff.mpr (Or.inl (by decide +kernel)))] at issues
  show ((issueKey "scenario" >>= _ >>= _).outcome draft).1 = _
  rw [bind_assoc, Run.outcome_bind, issues]
  rfl

end History

end Draft

end MarketSignal
