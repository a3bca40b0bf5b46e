/-
This file proves how long posting waits, whatever the statuses that ask for another try and whatever
the answers. The waits of a post are computed along its answers, one after each that asks for
another try as long as one is left, and end where a wait cannot be computed. A wait after an answer
is cut down to the limit. A wait after a failure of the exchange is not, so all waits stay within
the limit exactly if the doubled first wait does so at every failure that is followed by a wait.
-/
import MarketSignal.Proofs.Number.Numeral
import MarketSignal.Proofs.Number.Product
import MarketSignal.Proofs.Storage.Retrying

namespace MarketSignal

/-! ### Amounts and the limit -/

namespace Amount

/-- An amount is not below zero. -/
def IsNonnegative : Amount → Prop
  | .whole value => 0 ≤ value
  | .real value => 0 ≤ value

/-- An amount is no longer than the limit of thirty seconds. -/
def WithinLimit : Amount → Prop
  | .whole value => value ≤ 30
  | .real value => value ≤ 30

/-- An amount is a number. -/
def IsProper : Amount → Prop
  | .whole _ => True
  | .real value => isNotANumber value = false

theorem IsNonnegative.proper {amount : Amount} (nonnegative : amount.IsNonnegative) :
    amount.IsProper := by
  cases amount with
  | whole value => trivial
  | real value =>
    show isNotANumber value = false
    rw [← Bool.not_eq_true]
    exact fun none_ => not_le_of_isNotANumber none_ 0 nonnegative

theorem wholeExceeds_waitLimit (value : Int) :
    wholeExceeds value waitLimit = decide (30 < value) := by
  obtain ⟨mantissa, exponent, shape, whole, floor⟩ : ∃ mantissa exponent,
      Shape.ofFloat waitLimit = .finite false ⟨mantissa, exponent⟩ ∧
        Binary.isWhole ⟨mantissa, exponent⟩ = true ∧ Binary.floor ⟨mantissa, exponent⟩ = 30 :=
    ⟨15 * 2 ^ 49, -48, by decide +kernel, by decide +kernel, by decide +kernel⟩
  unfold wholeExceeds
  rw [shape]
  dsimp only
  rw [whole, floor]
  rfl

/-- A number that is cut down to the limit is no longer than the limit. -/
theorem IsProper.withinLimit_atMost {amount : Amount} (proper : amount.IsProper) :
    (amount.atMost waitLimit).WithinLimit := by
  unfold atMost
  cases amount with
  | whole value =>
    rw [exceeds, wholeExceeds_waitLimit]
    split
    case isTrue => exact (show (30 : Float) ≤ 30 by decide)
    case isFalse within => exact not_lt.mp (mt decide_eq_true within)
  | real value =>
    rw [exceeds]
    split
    case isTrue => exact (show (30 : Float) ≤ 30 by decide)
    case isFalse within =>
      exact le_of_not_lt proper (by decide) (mt decide_eq_true within)

theorem IsProper.doubled {amount doubled : Amount} (proper : amount.IsProper) {times : Nat}
    (early : times < 1024) (isDoubled : amount.doubled? times = some doubled) :
    doubled.IsProper := by
  cases amount with
  | whole value =>
    cases isDoubled
    trivial
  | real value =>
    obtain ⟨factor, isFactor, rfl⟩ := Option.map_eq_some_iff.mp isDoubled
    exact isNotANumber_mul_two_pow proper times early isFactor

end Amount

namespace WebOutbox

variable (outbox : WebOutbox)

/-! ### The wait after an answer -/

/-- The wait that an answer asks for is a number. -/
theorem proper_of_askedPause {response : Response} {amount : Amount}
    (asks : askedPause response = .ok (some amount)) : amount.IsProper := by
  unfold askedPause at asks
  split at asks
  case isFalse => cases asks
  case isTrue =>
    split at asks
    case h_2 => cases asks
    case h_1 text _ =>
      dsimp only at asks
      split at asks
      case isFalse => cases asks
      case isTrue digits =>
        split at asks
        case h_2 => cases asks
        case h_1 seconds isSeconds =>
          cases asks
          exact isNotANumber_of_digits digits isSeconds

variable {outbox}

theorem pause_of_doubled? {attempt : Nat} {amount : Amount}
    (isDoubled : outbox.backoff.doubled? attempt = some amount) :
    outbox.pause attempt = .ok amount := by
  rw [pause, isDoubled]

/-- A wait after an answer stays within the limit, if the first wait is a number. -/
theorem withinLimit_pauseAfter (proper : outbox.backoff.IsProper) {response : Response}
    {attempt : Nat} (early : attempt < 1024) {amount : Amount}
    (isWait : outbox.pauseAfter response attempt = .ok amount) : amount.WithinLimit := by
  unfold pauseAfter at isWait
  obtain ⟨asked, isAsked, isWait⟩ := bind_eq_ok isWait
  cases asked with
  | some seconds =>
    cases isWait
    exact (proper_of_askedPause isAsked).withinLimit_atMost
  | none =>
    obtain ⟨doubled, isPause, isWait⟩ := bind_eq_ok isWait
    cases isWait
    exact (proper.doubled early (doubled?_of_pause isPause)).withinLimit_atMost

/-- A wait after an answer can be computed if the answer asks for none or for some number. -/
theorem pauseAfter_early {response : Response} {attempt : Nat} (early : attempt < 1024) :
    (∃ amount, outbox.pauseAfter response attempt = .ok amount) ↔
      ∃ asked, askedPause response = .ok asked := by
  unfold pauseAfter
  cases askedPause response with
  | error fault => exact iff_of_false nofun nofun
  | ok asked =>
    refine iff_of_true ?_ ⟨asked, rfl⟩
    cases asked with
    | some seconds => exact ⟨_, rfl⟩
    | none =>
      obtain ⟨amount, isPause⟩ : ∃ amount, outbox.pause attempt = .ok amount :=
        pause_early attempt early
      refine ⟨amount.atMost waitLimit, ?_⟩
      show (outbox.pause attempt >>= fun amount => Except.ok (amount.atMost waitLimit)) = _
      rw [isPause]
      rfl

/-! ### The waits of a post -/

variable (outbox)

/-- The waits of a post, along its answers, with so many tries left after the next. -/
def waitsFrom : Nat → Nat → List Reply → List Amount
  | 0, _, _ => []
  | left + 1, attempt, script =>
    if outbox.asksAgain (Exchange.next script).1 then
      match outbox.waitAfter attempt (Exchange.next script).1 with
      | .ok amount => amount :: waitsFrom left (attempt + 1) (Exchange.next script).2
      | .error _ => []
    else []

/-- A post waits for as long as its answers say. -/
theorem waits_post (document : Json) {members : Table Json}
    (sends : document.asObject = .ok members) (left attempt : Nat) (exchange : Exchange) :
    ((outbox.post document (left + 1) attempt).outcome exchange).2.waits =
      exchange.waits ++ outbox.waitsFrom left attempt exchange.script := by
  induction left generalizing attempt exchange with
  | zero =>
    rw [outcome_post_succ outbox document sends, bne_self_eq_false, Bool.and_false,
      if_neg Bool.false_ne_true, waitsFrom, List.append_nil]
    rfl
  | succ left inductionHypothesis =>
    have oneMore : (left + 1 != 0) = true := rfl
    rw [outcome_post_succ outbox document sends, waitsFrom, oneMore, Bool.and_true]
    split
    case isFalse => exact (List.append_nil _).symm
    case isTrue =>
      cases outbox.waitAfter attempt (Exchange.next exchange.script).1 with
      | error fault => exact (List.append_nil _).symm
      | ok amount =>
        -- The tries that are left start from the exchange after this call and this wait.
        dsimp only
        rw [inductionHypothesis]
        exact List.append_assoc _ _ _

/-- A wait follows an answer if a try is left, all answers so far ask for another one, and the waits
so far can be computed. -/
theorem getElem?_waitsFrom (left attempt : Nat) (script : List Reply) (number : Nat)
    (amount : Amount) :
    (outbox.waitsFrom left attempt script)[number]? = some amount ↔
      number < left ∧
        (∀ earlier ≤ number, outbox.asksAgain (Exchange.replyTo script earlier) = true) ∧
        (∀ earlier < number, ∃ other,
          outbox.waitAfter (attempt + earlier) (Exchange.replyTo script earlier) = .ok other) ∧
        outbox.waitAfter (attempt + number) (Exchange.replyTo script number) = .ok amount := by
  induction left generalizing attempt script number with
  | zero => exact iff_of_false nofun fun reached => Nat.not_lt_zero _ reached.1
  | succ left inductionHypothesis =>
    have first := Exchange.replyTo_zero script
    rw [waitsFrom, ← first]
    split
    case isFalse stops =>
      exact iff_of_false nofun fun reached => stops (reached.2.1 0 (Nat.zero_le _))
    case isTrue asks =>
      cases isWait : outbox.waitAfter attempt (Exchange.replyTo script 0) with
      | error fault =>
        refine iff_of_false nofun fun reached => ?_
        have computed : ∃ other,
            outbox.waitAfter attempt (Exchange.replyTo script 0) = .ok other := by
          cases number with
          | zero => exact ⟨amount, reached.2.2.2⟩
          | succ number => exact reached.2.2.1 0 (Nat.succ_pos _)
        rw [isWait] at computed
        exact absurd computed nofun
      | ok other =>
        cases number with
        | zero =>
          constructor
          · intro isFirst
            cases isFirst
            refine ⟨Nat.succ_pos _, fun earlier none_ => ?_, nofun, isWait⟩
            rw [Nat.le_zero.mp none_]
            exact asks
          · rintro ⟨-, -, -, isAmount⟩
            exact congrArg some (Except.ok.inj (isWait.symm.trans isAmount))
        | succ number =>
          have shift (count : Nat) : attempt + (count + 1) = attempt + 1 + count := by omega
          rw [List.getElem?_cons_succ, inductionHypothesis, Nat.succ_lt_succ_iff,
            ← Exchange.replyTo_succ, shift number]
          refine and_congr_right fun inTime => and_congr ?_ (and_congr_left fun isAmount => ?_)
          · constructor
            · rintro each (_ | earlier) inside
              · exact asks
              · exact each earlier (Nat.le_of_succ_le_succ inside)
            · exact fun each earlier inside => each (earlier + 1) (Nat.succ_le_succ inside)
          · constructor
            · rintro each (_ | earlier) inside
              · exact ⟨other, isWait⟩
              · rw [shift earlier]
                exact each earlier (Nat.lt_of_succ_lt_succ inside)
            · intro each earlier inside
              rw [← shift earlier]
              exact each (earlier + 1) (Nat.succ_lt_succ inside)

/-! ### Waits within the limit -/

/-- Posting waits after an answer: a try is left, this answer and all before it ask for another one,
and none of them asks for a wait that is no number. -/
structure WaitsAfter (script : List Reply) (number : Nat) : Prop where
  left : (number : Int) < outbox.retries
  asks : ∀ earlier ≤ number, outbox.asksAgain (Exchange.replyTo script earlier) = true
  answers : ∀ earlier ≤ number, ∀ response,
    Exchange.replyTo script earlier = .response response →
      ∃ asked, askedPause response = .ok asked

variable {outbox}

theorem waitAfter_iff {reply : Reply} {attempt : Nat} (early : attempt < 1024) :
    (∃ amount, outbox.waitAfter attempt reply = .ok amount) ↔
      ∀ response, reply = .response response → ∃ asked, askedPause response = .ok asked := by
  cases reply with
  | failure kind text => exact iff_of_true (pause_early attempt early) nofun
  | response response =>
    refine (pauseAfter_early early).trans ⟨fun answers other same => ?_, fun answers => ?_⟩
    · cases same
      exact answers
    · exact answers response rfl

/-- The waits of a post with at most a thousand retries are those after the answers that posting
waits after, each as long as its answer says. -/
theorem getElem?_waits (few : outbox.retries ≤ 1000) (script : List Reply) (number : Nat)
    (amount : Amount) :
    (outbox.waitsFrom outbox.retries.toNat 0 script)[number]? = some amount ↔
      outbox.WaitsAfter script number ∧
        outbox.waitAfter number (Exchange.replyTo script number) = .ok amount := by
  rw [getElem?_waitsFrom]
  simp only [Nat.zero_add]
  constructor
  · rintro ⟨inTime, asks, computed, isWait⟩
    refine ⟨⟨by omega, asks, fun earlier inside => ?_⟩, isWait⟩
    have soon : earlier < 1024 := by omega
    refine (waitAfter_iff soon).mp (?_ : ∃ other, outbox.waitAfter earlier _ = .ok other)
    rcases Nat.lt_or_eq_of_le inside with before | rfl
    · exact computed earlier before
    · exact ⟨amount, isWait⟩
  · rintro ⟨waits, isWait⟩
    have inTime := waits.left
    refine ⟨by omega, waits.asks, fun earlier before => ?_, isWait⟩
    exact (waitAfter_iff (by omega)).mpr (waits.answers earlier before.le)

theorem lt_length_waits (few : outbox.retries ≤ 1000) (script : List Reply) (number : Nat) :
    number < (outbox.waitsFrom outbox.retries.toNat 0 script).length ↔
      outbox.WaitsAfter script number := by
  constructor
  · intro inside
    exact ((getElem?_waits few script number _).mp (List.getElem?_eq_getElem inside)).1
  · intro waits
    have inTime := waits.left
    have soon : number < 1024 := by omega
    obtain ⟨amount, isWait⟩ : ∃ amount,
        outbox.waitAfter number (Exchange.replyTo script number) = .ok amount :=
      (waitAfter_iff soon).mpr (waits.answers number le_rfl)
    exact (List.getElem?_eq_some_iff.mp
      ((getElem?_waits few script number amount).mpr ⟨waits, isWait⟩)).1

theorem waits_send (outbox : WebOutbox) (members : Table Json) (exchange : Exchange) :
    ((outbox.send (.obj members.entries)).outcome exchange).2.waits =
      exchange.waits ++ outbox.waitsFrom outbox.retries.toNat 0 exchange.script := by
  rcases lt_or_ge outbox.retries 0 with below | atLeast
  · have noTry : (outbox.retries + 1).toNat = 0 := by omega
    have noRetry : outbox.retries.toNat = 0 := by omega
    rw [send, noTry, noRetry, waitsFrom, List.append_nil]
    rfl
  · have tries : (outbox.retries + 1).toNat = outbox.retries.toNat + 1 := by omega
    rw [send, tries]
    exact waits_post outbox _ (asObject_entries members) _ 0 exchange

/-- A post whose first wait is not below zero, with at most a thousand retries, waits no longer than
the limit after an answer. After a failure of the exchange it waits for the first wait doubled with
every try, however long that is. So all its waits stay within the limit exactly if the doubled one
does so wherever a wait follows a failure. -/
theorem waits_limited_exactly (outbox : WebOutbox) (nonnegative : outbox.backoff.IsNonnegative)
    (few : outbox.retries ≤ 1000) (members : Table Json) (exchange : Exchange) :
    ∃ amounts : List Amount,
      ((outbox.send (.obj members.entries)).outcome exchange).2.waits =
        exchange.waits ++ amounts ∧
      (∀ number, number < amounts.length ↔ outbox.WaitsAfter exchange.script number) ∧
      (∀ number response, ∀ inside : number < amounts.length,
        Exchange.replyTo exchange.script number = .response response →
          amounts[number].WithinLimit) ∧
      (∀ number kind text, ∀ inside : number < amounts.length,
        Exchange.replyTo exchange.script number = .failure kind text →
          outbox.backoff.doubled? number = some amounts[number]) ∧
      ((∀ amount ∈ amounts, amount.WithinLimit) ↔
        ∀ number kind text, outbox.WaitsAfter exchange.script number →
          Exchange.replyTo exchange.script number = .failure kind text →
            ∃ amount, outbox.backoff.doubled? number = some amount ∧ amount.WithinLimit) := by
  set amounts := outbox.waitsFrom outbox.retries.toNat 0 exchange.script
  have waits (number : Nat) (inside : number < amounts.length) :
      outbox.WaitsAfter exchange.script number ∧
        outbox.waitAfter number (Exchange.replyTo exchange.script number) = .ok amounts[number] :=
    (getElem?_waits few exchange.script number _).mp (List.getElem?_eq_getElem inside)
  have afterAnswer (number : Nat) (response : Response) (inside : number < amounts.length)
      (answers : Exchange.replyTo exchange.script number = .response response) :
      amounts[number].WithinLimit := by
    obtain ⟨⟨inTime, -, -⟩, isWait⟩ := waits number inside
    rw [answers] at isWait
    exact withinLimit_pauseAfter nonnegative.proper (by omega) isWait
  have afterFailure (number : Nat) (kind text : String) (inside : number < amounts.length)
      (fails : Exchange.replyTo exchange.script number = .failure kind text) :
      outbox.backoff.doubled? number = some amounts[number] := by
    obtain ⟨-, isWait⟩ := waits number inside
    rw [fails] at isWait
    exact doubled?_of_pause isWait
  refine ⟨amounts, waits_send outbox members exchange,
    fun number => lt_length_waits few exchange.script number, afterAnswer, afterFailure, ?_, ?_⟩
  · intro within number kind text isWaited fails
    have inside := (lt_length_waits few exchange.script number).mpr isWaited
    exact ⟨_, afterFailure number kind text inside fails,
      within _ (List.getElem_mem inside)⟩
  · intro failures amount member
    obtain ⟨number, inside, rfl⟩ := List.getElem_of_mem member
    cases reply : Exchange.replyTo exchange.script number with
    | response response => exact afterAnswer number response inside reply
    | failure kind text =>
      obtain ⟨amount, isDoubled, within⟩ :=
        failures number kind text (waits number inside).1 reply
      rw [afterFailure number kind text inside reply] at isDoubled
      cases isDoubled
      exact within

/-! ### An exchange in which every call fails -/

/-- The usual outbox, but with more retries. -/
def persistentOutbox (retries : Int) : WebOutbox := { usualOutbox with retries := retries }

/-- The script of an exchange in which every call fails. -/
def unreachable : List Reply := [.failure "ConnectionError" "refused"]

theorem replyTo_unreachable (number : Nat) :
    Exchange.replyTo unreachable number = .failure "ConnectionError" "refused" := by
  induction number with
  | zero => rfl
  | succ number inductionHypothesis => exact inductionHypothesis

theorem waitsAfter_unreachable {retries : Int} {number : Nat} (left : (number : Int) < retries) :
    (persistentOutbox retries).WaitsAfter unreachable number := by
  refine ⟨left, fun earlier _ => ?_, fun earlier _ response answers => ?_⟩
  · rw [replyTo_unreachable]
    rfl
  · rw [replyTo_unreachable] at answers
    cases answers

theorem usual_isNonnegative (retries : Int) : (persistentOutbox retries).backoff.IsNonnegative :=
  show (0 : Float) ≤ 1 by decide

theorem doubled?_usual_fifth : usualOutbox.backoff.doubled? 5 = some (.real 32) := by
  have isFactor : floatOfInt? (2 ^ 5) = some 32 := by decide +kernel
  have doubled : usualOutbox.backoff.doubled? 5 = some (.real (1 * 32)) :=
    congrArg (Option.map fun factor => Amount.real (1 * factor)) isFactor
  have product : (1 : Float) * 32 = 32 := by decide +kernel
  rw [doubled, product]

theorem not_withinLimit_fifth : ¬ (Amount.real 32).WithinLimit :=
  show ¬ (32 : Float) ≤ 30 by decide

/-- The sixth failure in a row is followed by a wait beyond the limit. -/
theorem waits_limited_unreachable :
    (persistentOutbox 6).backoff.IsNonnegative ∧ (persistentOutbox 6).retries ≤ 1000 ∧
      ∃ amounts : List Amount,
        (((persistentOutbox 6).send (.obj [])).outcome ⟨unreachable, [], []⟩).2.waits = amounts ∧
        amounts.length = 6 ∧ ∃ amount ∈ amounts, ¬ amount.WithinLimit := by
  obtain ⟨amounts, areWaits, count, -, -, allWithin⟩ :=
    waits_limited_exactly (persistentOutbox 6) (usual_isNonnegative 6) (by decide) Table.empty
      ⟨unreachable, [], []⟩
  have waitsAfter (number : Nat) : number < amounts.length ↔ number < 6 := by
    refine (count number).trans ⟨fun waits => ?_, fun inTime => waitsAfter_unreachable ?_⟩
    · exact Int.ofNat_lt.mp waits.left
    · exact Int.ofNat_lt.mpr inTime
  refine ⟨usual_isNonnegative 6, by decide, amounts, areWaits, ?_, ?_⟩
  · have notMore := waitsAfter 6
    have notLess := waitsAfter 5
    omega
  · by_contra noneBeyond
    have within (amount : Amount) (member : amount ∈ amounts) : amount.WithinLimit := by
      by_contra beyond
      exact noneBeyond ⟨amount, member, beyond⟩
    obtain ⟨amount, isDoubled, amountWithin⟩ := allWithin.mp within 5 _ _
      (waitsAfter_unreachable (by decide)) (replyTo_unreachable 5)
    cases isDoubled.symm.trans doubled?_usual_fifth
    exact not_withinLimit_fifth amountWithin

/-- With six retries the sixth wait lasts thirty-two seconds. -/
theorem waits_beyond_limit :
    (persistentOutbox 6).backoff.IsNonnegative ∧ (persistentOutbox 6).retries ≤ 1000 ∧
      (((persistentOutbox 6).send (.obj [])).outcome ⟨unreachable, [], []⟩).2.waits[5]? =
        some (.real 32) ∧
      ¬ (Amount.real 32).WithinLimit := by
  have isWait : (persistentOutbox 6).waitAfter 5 (Exchange.replyTo unreachable 5) =
      .ok (.real 32) := by
    rw [replyTo_unreachable]
    exact pause_of_doubled? doubled?_usual_fifth
  have areWaits := waits_send (persistentOutbox 6) Table.empty ⟨unreachable, [], []⟩
  refine ⟨usual_isNonnegative 6, by decide, ?_, not_withinLimit_fifth⟩
  rw [show (Json.obj []) = .obj Table.empty.entries from rfl, areWaits]
  exact (getElem?_waits (by decide) unreachable 5 _).mpr
    ⟨waitsAfter_unreachable (by decide), isWait⟩

end WebOutbox

end MarketSignal
