/-
This file proves what posting a document comes to. The answers of the exchange are numbered; the one
that decides is the first that does not ask for another try, or the one to the last try. Unless a
wait before it cannot be computed, posting makes as many calls as there are answers up to the one
that decides, waits once between two of them, and ends the way that answer says.
-/
import MarketSignal.Proofs.Run
import MarketSignal.Proofs.Number.Word
import MarketSignal.Storage.Outbox

namespace MarketSignal

/-! ### The answers of an exchange -/

namespace Exchange

/-- The answers to come, after so many calls. -/
def scriptAfter (script : List Reply) : Nat → List Reply
  | 0 => script
  | calls + 1 => scriptAfter (next script).2 calls

/-- The answer to the call with the given number, from the next call on. -/
def replyTo (script : List Reply) (number : Nat) : Reply := (next (scriptAfter script number)).1

@[simp] theorem scriptAfter_zero (script : List Reply) : scriptAfter script 0 = script := rfl

theorem scriptAfter_succ (script : List Reply) (calls : Nat) :
    scriptAfter script (calls + 1) = scriptAfter (next script).2 calls := rfl

@[simp] theorem replyTo_zero (script : List Reply) : replyTo script 0 = (next script).1 := rfl

theorem replyTo_succ (script : List Reply) (number : Nat) :
    replyTo script (number + 1) = replyTo (next script).2 number := rfl

/-- The exchange after a call. -/
def called (exchange : Exchange) (call : Call) : Exchange :=
  { exchange with script := (next exchange.script).2, calls := exchange.calls ++ [call] }

/-- The exchange after a wait. -/
def waited (exchange : Exchange) (amount : Amount) : Exchange :=
  { exchange with waits := exchange.waits ++ [amount] }

end Exchange

namespace WebOutbox

variable (outbox : WebOutbox)

/-- Whether an answer asks for another try: a failure of the exchange does, and so do some
statuses. -/
def asksAgain : Reply → Bool
  | .response response => outbox.retryStatuses.contains response.status
  | .failure _ _ => true

/-- The number of the answer that decides, with so many tries left after the next. -/
def deciding : Nat → List Reply → Nat
  | 0, _ => 0
  | left + 1, script =>
    if outbox.asksAgain (Exchange.next script).1 then
      deciding left (Exchange.next script).2 + 1
    else 0

/-- The wait after an answer that asks for another try. -/
def waitAfter (attempt : Nat) : Reply → Except Fault Amount
  | .response response => outbox.pauseAfter response attempt
  | .failure _ _ => outbox.pause attempt

/-- The end of posting that an answer decides. -/
def verdict : Reply → Except Fault Unit
  | .response response =>
    if response.isOk then .ok ()
    else
      .error (.delivery ("HTTP error! status: " ++ String.ofList (digitsOfInt response.status))
        (some response.status))
  | .failure _ text => .error (.delivery ("Scenario sink unreachable: " ++ text) none)

theorem deciding_le (left : Nat) (script : List Reply) : outbox.deciding left script ≤ left := by
  induction left generalizing script with
  | zero => exact le_rfl
  | succ left inductionHypothesis =>
    rw [deciding]
    split
    · exact Nat.succ_le_succ (inductionHypothesis _)
    · exact Nat.zero_le _

/-- Every answer before the one that decides asks for another try. -/
theorem asksAgain_of_lt_deciding (left : Nat) (script : List Reply) (number : Nat)
    (before : number < outbox.deciding left script) :
    outbox.asksAgain (Exchange.replyTo script number) = true := by
  induction left generalizing script number with
  | zero => exact absurd before (Nat.not_lt_zero _)
  | succ left inductionHypothesis =>
    rw [deciding] at before
    split at before
    case isTrue asks =>
      cases number with
      | zero => exact asks
      | succ number => exact inductionHypothesis _ number (Nat.lt_of_succ_lt_succ before)
    case isFalse => exact absurd before (Nat.not_lt_zero _)

/-- The answer that decides does not ask for another try, or it is the last. -/
theorem deciding_settles (left : Nat) (script : List Reply) :
    outbox.deciding left script = left ∨
      outbox.asksAgain (Exchange.replyTo script (outbox.deciding left script)) = false := by
  induction left generalizing script with
  | zero => exact Or.inl rfl
  | succ left inductionHypothesis =>
    rw [deciding]
    split
    case isTrue =>
      exact (inductionHypothesis (Exchange.next script).2).imp (congrArg Nat.succ) id
    case isFalse settles => exact Or.inr (Bool.eq_false_iff.mpr settles)

/-! ### One try -/

variable (document : Json) {members : Table Json} (sends : document.asObject = .ok members)

/-- The call that every try makes. -/
def sent (members : Table Json) : Call := .post outbox.url (.obj members.entries) outbox.timeout

include sends

theorem outcome_tryOnce (exchange : Exchange) :
    (outbox.tryOnce document).outcome exchange =
      (match (Exchange.next exchange.script).1 with
        | .response response => .ok (.ok response)
        | .failure _ text => .ok (.error text),
      exchange.called (outbox.sent members)) := by
  have performs : (Exchange.perform (outbox.sent members)).outcome exchange =
      (match (Exchange.next exchange.script).1 with
        | .response response => .ok response
        | .failure kind text => .error (.exchange kind text),
      exchange.called (outbox.sent members)) := by
    show ((match (Exchange.next exchange.script).1 with
      | .response response => pure response
      | .failure kind text => throw (.exchange kind text) :
        Run Exchange Response).outcome (exchange.called (outbox.sent members))) = _
    cases (Exchange.next exchange.script).1 <;> rfl
  unfold tryOnce
  rw [Run.outcome_tryCatch, sends, Run.outcome_bind, Run.outcome_ofExcept]
  show Run.handled _ ((Exchange.perform (outbox.sent members) >>= _).outcome exchange) = _
  rw [Run.outcome_bind, performs]
  cases (Exchange.next exchange.script).1 <;> rfl

/-- A try is followed by a wait and the tries that are left, if its answer asks for another and one
is left; otherwise its answer decides. -/
theorem outcome_post_succ (left attempt : Nat) (exchange : Exchange) :
    (outbox.post document (left + 1) attempt).outcome exchange =
      (if outbox.asksAgain (Exchange.next exchange.script).1 && left != 0 then
        match outbox.waitAfter attempt (Exchange.next exchange.script).1 with
        | .ok amount =>
          (outbox.post document left (attempt + 1)).outcome
            ((exchange.called (outbox.sent members)).waited amount)
        | .error fault => (.error fault, exchange.called (outbox.sent members))
      else
        (verdict (Exchange.next exchange.script).1, exchange.called (outbox.sent members))) := by
  rw [post, Run.outcome_bind, outcome_tryOnce outbox document sends]
  cases (Exchange.next exchange.script).1 with
  | failure kind text =>
    rw [Run.continued]
    cases left with
    | zero => rfl
    | succ left =>
      show ((Run.ofExcept (outbox.pause attempt) >>= _).outcome _) =
        match outbox.pause attempt with | .ok amount => _ | .error fault => _
      rw [Run.outcome_bind, Run.outcome_ofExcept]
      cases outbox.pause attempt <;> rfl
  | response response =>
    rw [Run.continued, asksAgain, waitAfter, verdict]
    dsimp only
    split
    · rw [Run.outcome_bind, Run.outcome_ofExcept]
      cases outbox.pauseAfter response attempt <;> rfl
    · split <;> rfl

/-! ### All tries -/

/-- Posting with some tries left ends the way the answer that decides says, after one call for each
answer so far and a wait between two of them, or a wait cannot be computed. -/
theorem outcome_post (left attempt : Nat) (exchange : Exchange) :
    (∃ number fault, number < outbox.deciding left exchange.script ∧
        outbox.waitAfter (attempt + number) (Exchange.replyTo exchange.script number) =
          .error fault ∧
        ((outbox.post document (left + 1) attempt).outcome exchange).1 = .error fault) ∨
      ∃ amounts : List Amount, amounts.length = outbox.deciding left exchange.script ∧
        (∀ number, ∀ inside : number < amounts.length,
          outbox.waitAfter (attempt + number) (Exchange.replyTo exchange.script number) =
            .ok amounts[number]) ∧
        (outbox.post document (left + 1) attempt).outcome exchange =
          (verdict
              (Exchange.replyTo exchange.script (outbox.deciding left exchange.script)),
            { script := Exchange.scriptAfter exchange.script
                (outbox.deciding left exchange.script + 1)
              calls := exchange.calls ++
                List.replicate (outbox.deciding left exchange.script + 1) (outbox.sent members)
              waits := exchange.waits ++ amounts }) := by
  induction left generalizing attempt exchange with
  | zero =>
    refine Or.inr ⟨[], rfl, fun _ inside => absurd inside (Nat.not_lt_zero _), ?_⟩
    rw [outcome_post_succ outbox document sends, bne_self_eq_false, Bool.and_false,
      if_neg Bool.false_ne_true, List.append_nil]
    rfl
  | succ left inductionHypothesis =>
    rw [outcome_post_succ outbox document sends, deciding]
    cases asks : outbox.asksAgain (Exchange.next exchange.script).1 with
    | false =>
      refine Or.inr ⟨[], rfl, fun _ inside => absurd inside (Nat.not_lt_zero _), ?_⟩
      rw [List.append_nil]
      rfl
    | true =>
      have oneMore : (true && left + 1 != 0) = true := by simp
      rw [if_pos oneMore, if_pos rfl]
      cases waits : outbox.waitAfter attempt (Exchange.next exchange.script).1 with
      | error fault => exact Or.inl ⟨0, fault, Nat.succ_pos _, waits, rfl⟩
      | ok amount =>
        -- The tries that are left start from the exchange after this call and this wait.
        obtain ⟨number, fault, before, isFault, ends⟩ | ⟨amounts, count, areAmounts, ends⟩ :=
          inductionHypothesis (attempt + 1)
            ((exchange.called (outbox.sent members)).waited amount)
        · refine Or.inl ⟨number + 1, fault, Nat.succ_lt_succ before, ?_, ends⟩
          rw [Exchange.replyTo_succ, ← Nat.add_assoc, Nat.add_right_comm]
          exact isFault
        · refine Or.inr ⟨amount :: amounts, congrArg Nat.succ count, fun number inside => ?_, ?_⟩
          · cases number with
            | zero => exact waits
            | succ number =>
              rw [Exchange.replyTo_succ, ← Nat.add_assoc, Nat.add_right_comm]
              exact areAmounts number (Nat.lt_of_succ_lt_succ inside)
          · refine ends.trans ?_
            simp only [Exchange.called, Exchange.waited, Exchange.replyTo_succ,
              Exchange.scriptAfter_succ, List.append_assoc, List.singleton_append,
              List.replicate_succ]

end WebOutbox

end MarketSignal
