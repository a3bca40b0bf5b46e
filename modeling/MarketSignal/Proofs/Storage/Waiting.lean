/-
This file proves how long posting waits between two tries. The wait that doubles with every try can
be computed for the first 1024 of them. The usual statuses that ask for another try all tell of an
error, and an answer that tells of an error is not asked how long to wait. So after such an answer
the wait is the doubled one, up to the limit, whatever the answer says.
-/
import MarketSignal.Proofs.Number.Rounding
import MarketSignal.Proofs.Storage.Posting

namespace MarketSignal

/-! ### Powers of two -/

theorem floatOfInt?_two_pow (attempt : Nat) (early : attempt < 1024) :
    ∃ factor, floatOfInt? (2 ^ attempt) = some factor := by
  have magnitude : ((2 : Int) ^ attempt).natAbs = 2 ^ attempt := Int.natAbs_pow 2 attempt
  have finite : (attempt + 1023) * 2 ^ 52 < Binary.infinityWord := by
    rw [Binary.infinityWord]
    omega
  unfold floatOfInt?
  dsimp only
  rw [magnitude, nearestWord_two_pow attempt early, if_pos finite]
  exact ⟨_, rfl⟩

theorem floatOfInt?_two_pow_late : floatOfInt? (2 ^ 1024) = none := by
  unfold floatOfInt?
  dsimp only
  exact if_neg (by decide +kernel)

namespace WebOutbox

variable {outbox : WebOutbox}

/-! ### The doubled wait -/

/-- A wait that doubles with every try can be computed for the first tries. -/
theorem pause_early (attempt : Nat) (early : attempt < 1024) :
    ∃ amount, outbox.pause attempt = .ok amount := by
  unfold pause Amount.doubled?
  obtain ⟨factor, isFactor⟩ := floatOfInt?_two_pow attempt early
  cases outbox.backoff with
  | whole value => exact ⟨_, rfl⟩
  | real value =>
    rw [isFactor]
    exact ⟨_, rfl⟩

theorem pause_late {value : Float} (isBackoff : outbox.backoff = .real value) :
    outbox.pause 1024 = .error .tooLarge := by
  unfold pause Amount.doubled?
  rw [isBackoff]
  dsimp only
  rw [floatOfInt?_two_pow_late]
  rfl

theorem pause_error {attempt : Nat} {fault : Fault} (fails : outbox.pause attempt = .error fault) :
    fault = .tooLarge := by
  unfold pause at fails
  split at fails
  · cases fails
  · exact (Except.error.inj fails).symm

theorem doubled?_of_pause {attempt : Nat} {amount : Amount}
    (isPause : outbox.pause attempt = .ok amount) :
    outbox.backoff.doubled? attempt = some amount := by
  unfold pause at isPause
  split at isPause
  case h_1 found =>
    cases isPause
    exact found
  case h_2 => cases isPause

/-! ### Waiting after an answer -/

variable (statuses : outbox.retryStatuses = defaultRetryStatuses)

include statuses

/-- The usual statuses all tell of an error. -/
theorem isOk_eq_false_of_asksAgain {response : Response}
    (asks : outbox.asksAgain (.response response) = true) : response.isOk = false := by
  rw [asksAgain, statuses] at asks
  have listed : response.status ∈ defaultRetryStatuses := List.contains_iff_mem.mp asks
  have errors : ∀ status ∈ defaultRetryStatuses, 400 ≤ status ∧ status < 600 := by decide
  obtain ⟨atLeast, below⟩ := errors _ listed
  rw [Response.isOk, decide_eq_true atLeast, decide_eq_true below]
  rfl

/-- After an answer that asks for another try the wait is the doubled one up to the limit, since
such an answer is not asked how long to wait. -/
theorem waitAfter_response {response : Response}
    (asks : outbox.asksAgain (.response response) = true) (attempt : Nat) :
    outbox.waitAfter attempt (.response response) =
      (outbox.pause attempt >>= fun amount => .ok (amount.atMost waitLimit)) := by
  have unasked : askedPause response = .ok none := by
    rw [askedPause, isOk_eq_false_of_asksAgain statuses asks]
    rfl
  rw [waitAfter, pauseAfter, unasked]
  rfl

theorem waitAfter_early {reply : Reply} (asks : outbox.asksAgain reply = true) (attempt : Nat)
    (early : attempt < 1024) : ∃ amount, outbox.waitAfter attempt reply = .ok amount := by
  obtain ⟨amount, isPause⟩ : ∃ amount, outbox.pause attempt = .ok amount :=
    pause_early attempt early
  cases reply with
  | failure kind text => exact ⟨amount, isPause⟩
  | response response =>
    rw [waitAfter_response statuses asks, isPause]
    exact ⟨_, rfl⟩

end WebOutbox

end MarketSignal
