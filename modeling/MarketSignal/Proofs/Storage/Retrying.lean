/-
This file proves what a post with a moderate number of retries comes to. It makes one call for every
answer up to the one that decides, waits once between two of them, and ends the way that answer
says. The wait after an answer is never the one that the answer asks for, but the first wait doubled
with every try, up to the limit.
-/
import MarketSignal.Proofs.Storage.Waiting
import MarketSignal.Proofs.Table

namespace MarketSignal

/-- The status of an answer; a failure of the exchange has none. -/
def Reply.status? : Reply → Option Int
  | .response answer => some answer.status
  | .failure _ _ => none

namespace WebOutbox

/-- An answer decides on a post: all answers before it ask for another try, and it does not, or no
try is left after it. -/
structure Decides (outbox : WebOutbox) (script : List Reply) (retries number : Nat) : Prop where
  inTime : number ≤ retries
  before : ∀ earlier < number, outbox.asksAgain (Exchange.replyTo script earlier) = true
  settles : number = retries ∨ outbox.asksAgain (Exchange.replyTo script number) = false

/-- One answer decides. -/
theorem decides_iff (outbox : WebOutbox) (script : List Reply) (retries number : Nat) :
    outbox.Decides script retries number ↔ number = outbox.deciding retries script := by
  constructor
  · intro decides
    rcases lt_trichotomy number (outbox.deciding retries script) with earlier | same | later
    · have asks := outbox.asksAgain_of_lt_deciding retries script number earlier
      have inTime := outbox.deciding_le retries script
      rcases decides.settles with isLast | stops
      · omega
      · rw [asks] at stops
        cases stops
    · exact same
    · have inTime := decides.inTime
      rcases outbox.deciding_settles retries script with isLast | stops
      · omega
      · rw [decides.before _ later] at stops
        cases stops
  · rintro rfl
    exact ⟨outbox.deciding_le retries script, outbox.asksAgain_of_lt_deciding retries script,
      outbox.deciding_settles retries script⟩

/-- How a post has ended that was decided by the answer with the given number: with a call for each
answer so far, all alike, with a wait between two of them, and with success or failure as that
answer says. -/
structure PostedUntil (outbox : WebOutbox) (document : Json) (before : Exchange) (number : Nat)
    (ended : Except Fault Unit × Exchange) : Prop where
  calls : ∃ made : List Call, ended.2.calls = before.calls ++ made ∧ made.length = number + 1 ∧
    ∀ call ∈ made, call = .post outbox.url document outbox.timeout ∧
      call.headers = [("Content-Type", "application/json")]
  waits : ∃ amounts, ended.2.waits = before.waits ++ amounts ∧ amounts.length = number
  returns : ended.1 = .ok () ↔
    ∃ response, Exchange.replyTo before.script number = .response response ∧ response.isOk = true
  fails : ∀ fault, ended.1 = .error fault →
    ∃ text, fault = .delivery text (Exchange.replyTo before.script number).status?

variable {outbox : WebOutbox}

/-- A post ends the way the answer that decides says. -/
theorem verdict_eq_ok_iff (reply : Reply) :
    verdict reply = .ok () ↔ ∃ response, reply = .response response ∧ response.isOk = true := by
  cases reply with
  | failure kind text => exact iff_of_false nofun nofun
  | response response =>
    unfold verdict
    dsimp only
    cases isOk : response.isOk with
    | true => exact iff_of_true rfl ⟨response, rfl, isOk⟩
    | false =>
      refine iff_of_false nofun ?_
      rintro ⟨other, same, isOther⟩
      cases same
      exact absurd isOther (isOk ▸ Bool.false_ne_true)

theorem status_of_verdict {reply : Reply} {fault : Fault} (fails : verdict reply = .error fault) :
    ∃ text, fault = .delivery text reply.status? := by
  cases reply with
  | failure kind text =>
    cases fails
    exact ⟨_, rfl⟩
  | response response =>
    unfold verdict at fails
    dsimp only at fails
    split at fails
    · cases fails
    · cases fails
      exact ⟨_, rfl⟩

/-- A table is sent as it is. -/
theorem asObject_entries (members : Table Json) :
    (Json.obj members.entries).asObject = .ok members :=
  congrArg Except.ok (Table.ofEntries_entries members)

section

variable (statuses : outbox.retryStatuses = defaultRetryStatuses) {retries : Nat}
  (isRetries : outbox.retries = retries) (few : retries ≤ 1024)

include statuses isRetries few

/-- With few retries every wait can be computed, so the answer that decides is reached. -/
theorem outcome_send_few (document : Json) {members : Table Json}
    (sends : document.asObject = .ok members) (exchange : Exchange) :
    ∃ amounts : List Amount, amounts.length = outbox.deciding retries exchange.script ∧
      (∀ number, ∀ inside : number < amounts.length,
        outbox.waitAfter number (Exchange.replyTo exchange.script number) = .ok amounts[number]) ∧
      (outbox.send document).outcome exchange =
        (verdict (Exchange.replyTo exchange.script (outbox.deciding retries exchange.script)),
          { script := Exchange.scriptAfter exchange.script
              (outbox.deciding retries exchange.script + 1)
            calls := exchange.calls ++
              List.replicate (outbox.deciding retries exchange.script + 1) (outbox.sent members)
            waits := exchange.waits ++ amounts }) := by
  have tries : outbox.send document = outbox.post document (retries + 1) 0 := by
    rw [send, isRetries]
    rfl
  have posts := outcome_post outbox document sends retries 0 exchange
  simp only [Nat.zero_add] at posts
  rw [tries]
  refine posts.resolve_left ?_
  rintro ⟨number, fault, before, isFault, -⟩
  have inTime := outbox.deciding_le retries exchange.script
  obtain ⟨amount, isAmount⟩ := waitAfter_early statuses
    (outbox.asksAgain_of_lt_deciding retries exchange.script number before) number (by omega)
  rw [isAmount] at isFault
  cases isFault

end

/-- An outbox with everything as usual. -/
def usualOutbox : WebOutbox :=
  ⟨"http://sink/s.json", defaultTimeout, defaultRetries, defaultBackoff, defaultRetryStatuses⟩

/-- An answer with a status and a wait that it asks for. -/
def asking (status : Int) (seconds : String) : Response :=
  ⟨status, .null, [("Retry-After", .str seconds)], ""⟩

/-- A post that is not answered, then put off, then accepted. -/
def puttingOff : Exchange :=
  ⟨[.failure "Timeout" "timed out", .response (asking 503 "7"), Exchange.blank], [], []⟩

theorem decides_puttingOff : usualOutbox.Decides puttingOff.script 2 2 :=
  ⟨le_rfl, by decide, Or.inl rfl⟩

/-- The seconds that an answer asks to wait: its header has common digits only, apart from blanks
around them. -/
def askedSeconds? (response : Response) : Option Float :=
  match response.header "Retry-After" with
  | .str text =>
    let digits := (Text.trim text).toList
    if digits ≠ [] ∧ digits.all isCommonDigit = true then
      some (floatOfDecimal false (digitsValue 0 digits) 0)
    else none
  | _ => none

/-- The wait that an answer calls for: as long as it asks, or else the first wait doubled with every
try, but never beyond the limit. -/
def calledFor? (outbox : WebOutbox) (attempt : Nat) (response : Response) : Option Amount :=
  ((askedSeconds? response).map Amount.real <|> outbox.backoff.doubled? attempt).map
    (·.atMost waitLimit)

theorem calledFor?_eq_some_iff {attempt : Nat} {response : Response} {amount : Amount}
    (doubled : (outbox.backoff.doubled? attempt).map (·.atMost waitLimit) = some amount) :
    outbox.calledFor? attempt response = some amount ↔
      ∀ seconds, askedSeconds? response = some seconds →
        (Amount.real seconds).atMost waitLimit = amount := by
  unfold calledFor?
  cases askedSeconds? response with
  | none => exact iff_of_true doubled nofun
  | some seconds => exact ⟨fun same _ asked => by cases asked; exact Option.some.inj same,
      fun same => congrArg some (same seconds rfl)⟩

/-- A post with at most 1024 retries on the usual statuses waits once before every further try.
After an answer it waits as long as the first wait doubled with every try, up to the limit. So the
wait is the one that the answer calls for exactly if the answer asks for none or for that one. -/
theorem waits_whatever_asked (outbox : WebOutbox)
    (statuses : outbox.retryStatuses = defaultRetryStatuses) (retries : Nat)
    (isRetries : outbox.retries = retries) (few : retries ≤ 1024) (members : Table Json)
    (exchange : Exchange) :
    ∃ number amounts, outbox.Decides exchange.script retries number ∧
      ((outbox.send (.obj members.entries)).outcome exchange).2.waits =
        exchange.waits ++ amounts ∧
      amounts.length = number ∧
      ∀ tried response, ∀ inside : tried < amounts.length,
        Exchange.replyTo exchange.script tried = .response response →
          (outbox.backoff.doubled? tried).map (·.atMost waitLimit) = some amounts[tried] ∧
            (outbox.calledFor? tried response = some amounts[tried] ↔
              ∀ seconds, askedSeconds? response = some seconds →
                (Amount.real seconds).atMost waitLimit = amounts[tried]) := by
  obtain ⟨amounts, count, areWaits, ends⟩ :=
    outcome_send_few statuses isRetries few _ (asObject_entries members) exchange
  refine ⟨_, amounts, (outbox.decides_iff exchange.script retries _).mpr rfl,
    congrArg (Exchange.waits ∘ Prod.snd) ends, count, fun tried response inside answers => ?_⟩
  have asks := outbox.asksAgain_of_lt_deciding retries exchange.script tried (count ▸ inside)
  have isWait := areWaits tried inside
  rw [answers] at asks isWait
  rw [waitAfter_response statuses asks] at isWait
  obtain ⟨amount, isPause, limited⟩ := bind_eq_ok isWait
  have doubled : (outbox.backoff.doubled? tried).map (·.atMost waitLimit) =
      some amounts[tried] := by
    rw [doubled?_of_pause isPause]
    exact congrArg some (Except.ok.inj limited)
  exact ⟨doubled, calledFor?_eq_some_iff doubled⟩

theorem askedSeconds?_asking : askedSeconds? (asking 503 "7") = some 7 :=
  rfl

theorem doubled?_usual :
    (usualOutbox.backoff.doubled? 1).map (·.atMost waitLimit) = some (.real 2) := by
  have isFactor : floatOfInt? (2 ^ 1) = some 2 := by decide +kernel
  have doubled : usualOutbox.backoff.doubled? 1 = some (.real (1 * 2)) :=
    congrArg (Option.map fun factor => Amount.real (1 * factor)) isFactor
  have product : (1 : Float) * 2 = 2 := by decide +kernel
  rw [doubled, product]
  rfl

/-- The second of three answers asks for seven seconds and is followed by a wait of two. -/
theorem waits_puttingOff :
    ∃ amounts : List Amount, ((usualOutbox.send (.obj [])).outcome puttingOff).2.waits = amounts ∧
      ∃ inside : 1 < amounts.length, amounts[1] = .real 2 ∧
        usualOutbox.calledFor? 1 (asking 503 "7") ≠ some amounts[1] := by
  obtain ⟨number, amounts, decides, areWaits, count, each⟩ :=
    waits_whatever_asked usualOutbox rfl 2 rfl (by decide) Table.empty puttingOff
  have isThird : number = 2 :=
    ((decides_iff _ _ _ _).mp decides).trans ((decides_iff _ _ _ _).mp decides_puttingOff).symm
  have inside : 1 < amounts.length := by omega
  obtain ⟨doubled, asIfAsked⟩ := each 1 (asking 503 "7") inside rfl
  have isWait : amounts[1] = .real 2 := Option.some.inj (doubled.symm.trans doubled?_usual)
  refine ⟨amounts, areWaits, inside, isWait, fun calledFor => ?_⟩
  have seven := asIfAsked.mp calledFor 7 askedSeconds?_asking
  have differ : (7 : Float) ≠ 2 := by decide
  have same : Amount.real 7 = .real 2 := seven.trans isWait
  exact differ (Amount.real.inj same)

/-- An answer of the status 503 that asks for seven seconds is followed by another try after one. -/
theorem waits_one_asked_seven :
    let exchange : Exchange := ⟨[.response (asking 503 "7"), Exchange.blank], [], []⟩
    usualOutbox.Decides exchange.script 2 1 ∧
      askedSeconds? (asking 503 "7") = some 7 ∧
      usualOutbox.calledFor? 0 (asking 503 "7") = some (.real 7) ∧
      ((usualOutbox.send (.obj [])).outcome exchange).2.waits = [.real 1] ∧ (1 : Float) ≠ 7 :=
  ⟨⟨by decide, by decide, Or.inr rfl⟩, askedSeconds?_asking, rfl, rfl, by decide⟩

end WebOutbox

end MarketSignal
