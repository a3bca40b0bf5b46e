/-
This file proves when a save without a record store tells the truth. Such a save posts the book. It
should return only if the last of its posts was answered with success, and it should be refused as
undelivered otherwise. It does so except in three cases: the settings leave no try at all, so
nothing is posted; an answer that tells neither of an error nor of success ends the tries; or so
many answers ask for another try that the wait for it cannot be computed.
-/
import MarketSignal.Proofs.Settings.Layers
import MarketSignal.Proofs.Storage.Waiting
import MarketSignal.Proofs.Storage.Library
import MarketSignal.Settings.Tiers

namespace MarketSignal

namespace WebOutbox

variable {outbox : WebOutbox}

/-! ### Posting with the usual statuses -/

/-- The statuses that ask for another try are the usual ones, and the first wait is a number. -/
structure Usual (outbox : WebOutbox) : Prop where
  statuses : outbox.retryStatuses = defaultRetryStatuses
  backoff : ∃ value, outbox.backoff = .real value

variable (usual : outbox.Usual)

include usual

/-- An answer that tells of no error does not ask for another try. -/
theorem Usual.not_asksAgain {response : Response} (isOk : response.isOk = true) :
    outbox.asksAgain (.response response) = false :=
  Bool.eq_false_iff.mpr fun asks =>
    Bool.false_ne_true ((isOk_eq_false_of_asksAgain usual.statuses asks).symm.trans isOk)

/-- An answer that asks for another try does not say how long to wait. -/
theorem Usual.waitAfter_eq {reply : Reply} (asks : outbox.asksAgain reply = true) (attempt : Nat) :
    outbox.waitAfter attempt reply = outbox.pause attempt ∨
      outbox.waitAfter attempt reply =
        (outbox.pause attempt >>= fun amount => .ok (amount.atMost waitLimit)) := by
  cases reply with
  | failure kind text => exact Or.inl rfl
  | response response => exact Or.inr (waitAfter_response usual.statuses asks attempt)

theorem Usual.waitAfter_late {reply : Reply} (asks : outbox.asksAgain reply = true) :
    outbox.waitAfter 1024 reply = .error .tooLarge := by
  obtain ⟨value, isBackoff⟩ := usual.backoff
  obtain same | same := usual.waitAfter_eq asks 1024
  · exact same.trans (pause_late isBackoff)
  · rw [same, pause_late isBackoff]
    rfl

theorem Usual.waitAfter_error {reply : Reply} (asks : outbox.asksAgain reply = true)
    {attempt : Nat} {fault : Fault} (fails : outbox.waitAfter attempt reply = .error fault) :
    fault = .tooLarge := by
  obtain same | same := usual.waitAfter_eq asks attempt
  · exact pause_error (same.symm.trans fails)
  · rw [same] at fails
    cases paused : outbox.pause attempt with
    | error other =>
      rw [paused] at fails
      cases fails
      exact pause_error paused
    | ok amount =>
      rw [paused] at fails
      cases fails

/-- A number of retries that is not negative leaves one try more. The post ends the way the answer
that decides says, unless more than 1024 answers ask for another try before. -/
theorem Usual.outcome_send (document : Json) {members : Table Json}
    (sends : document.asObject = .ok members) (retries : Nat)
    (isRetries : outbox.retries = retries) (exchange : Exchange) :
    (1024 < outbox.deciding retries exchange.script ∧
        ((outbox.send document).outcome exchange).1 = .error .tooLarge) ∨
      (outbox.deciding retries exchange.script ≤ 1024 ∧
        ((outbox.send document).outcome exchange).1 =
          verdict (Exchange.replyTo exchange.script (outbox.deciding retries exchange.script)) ∧
        ((outbox.send document).outcome exchange).2.calls = exchange.calls ++
          List.replicate (outbox.deciding retries exchange.script + 1) (outbox.sent members)) := by
  have tries : outbox.send document = outbox.post document (retries + 1) 0 := by
    rw [send, isRetries]
    rfl
  have asks := outbox.asksAgain_of_lt_deciding retries exchange.script
  rw [tries]
  obtain ⟨number, fault, before, isFault, ends⟩ | ⟨amounts, count, areAmounts, ends⟩ :=
    outcome_post outbox document sends retries 0 exchange
  · rw [Nat.zero_add] at isFault
    have late : 1024 ≤ number := by
      by_contra early
      obtain ⟨amount, isAmount⟩ :=
        waitAfter_early usual.statuses (asks number before) number (Nat.lt_of_not_le early)
      rw [isAmount] at isFault
      cases isFault
    rw [usual.waitAfter_error (asks number before) isFault] at ends
    exact Or.inl ⟨late.trans_lt before, ends⟩
  · refine Or.inr ⟨?_, congrArg Prod.fst ends, congrArg (Exchange.calls ∘ Prod.snd) ends⟩
    by_contra tooMany
    have inside : 1024 < outbox.deciding retries exchange.script := Nat.lt_of_not_le tooMany
    have isAmount := areAmounts 1024 (count ▸ inside)
    rw [Nat.zero_add, usual.waitAfter_late (asks 1024 inside)] at isAmount
    cases isAmount

end WebOutbox

/-! ### Saving without a record store -/

/-- Whether the status tells of success. -/
def Response.Succeeds (response : Response) : Prop :=
  200 ≤ response.status ∧ response.status < 300

theorem Response.Succeeds.isOk {response : Response} (succeeds : response.Succeeds) :
    response.isOk = true := by
  obtain ⟨-, below⟩ := succeeds
  rw [Response.isOk, decide_eq_false (by omega)]
  rfl

/-- A save that returns has made posts of a document, the last of which was answered with success; a
save that fails was refused as undelivered. -/
def Truthful (post : Call) (before : Exchange) (ended : Except Fault Unit × World) : Prop :=
  match ended.1 with
  | .ok () => ∃ number response,
      ended.2.exchange.calls = before.calls ++ List.replicate (number + 1) post ∧
        Exchange.replyTo before.script number = .response response ∧ response.Succeeds
  | .error fault => ∃ text status, fault = .delivery text status

/-- The cases in which a save misleads. -/
inductive Misleads (outbox : WebOutbox) (script : List Reply) : Prop where
  /-- There is no try at all. -/
  | noTry (negative : outbox.retries < 0)
  /-- An answer in time tells neither of an error nor of success. -/
  | undecided (number : Nat) (inTime : (number : Int) ≤ outbox.retries)
      (before : ∀ earlier < number, outbox.asksAgain (Exchange.replyTo script earlier) = true)
      (response : Response) (answers : Exchange.replyTo script number = .response response)
      (isOk : response.isOk = true) (fails : ¬ response.Succeeds)
  /-- Too many answers ask for another try. -/
  | tooManyTries (more : 1024 < outbox.retries)
      (all : ∀ number ≤ 1024, outbox.asksAgain (Exchange.replyTo script number) = true)

namespace WebOutbox

/-- The answer that decides is the only one in time that does not ask for another try after answers
that do. -/
theorem deciding_eq (outbox : WebOutbox) (left number : Nat) (script : List Reply)
    (inTime : number ≤ left)
    (before : ∀ earlier < number, outbox.asksAgain (Exchange.replyTo script earlier) = true)
    (settles : outbox.asksAgain (Exchange.replyTo script number) = false) :
    outbox.deciding left script = number := by
  refine Nat.le_antisymm (Nat.le_of_not_lt fun later => ?_) (Nat.le_of_not_lt fun earlier => ?_)
  · have asks := outbox.asksAgain_of_lt_deciding left script number later
    rw [settles] at asks
    cases asks
  · obtain isLast | stops := outbox.deciding_settles left script
    · omega
    · rw [before _ earlier] at stops
      cases stops

/-- The answer that decides tells neither of an error nor of success. -/
def LeavesOpen (outbox : WebOutbox) (retries : Nat) (script : List Reply) : Prop :=
  ∃ response, Exchange.replyTo script (outbox.deciding retries script) = .response response ∧
    response.isOk = true ∧ ¬ response.Succeeds

variable {outbox : WebOutbox}

/-- Which answers mislead can be told from the one that decides. -/
theorem Usual.misleads_iff (usual : outbox.Usual) (retries : Nat)
    (isRetries : outbox.retries = retries) (script : List Reply) :
    Misleads outbox script ↔
      1024 < outbox.deciding retries script ∨ outbox.LeavesOpen retries script := by
  have atMost := outbox.deciding_le retries script
  constructor
  · intro misleads
    cases misleads with
    | noTry negative => omega
    | undecided number inTime before response answers isOk fails =>
      have decides : outbox.deciding retries script = number :=
        outbox.deciding_eq retries number script (by omega) before
          (answers ▸ usual.not_asksAgain isOk)
      exact Or.inr ⟨response, decides ▸ answers, isOk, fails⟩
    | tooManyTries more all =>
      refine Or.inl (Nat.lt_of_not_le fun few => ?_)
      obtain isLast | stops := outbox.deciding_settles retries script
      · omega
      · rw [all _ few] at stops
        cases stops
  · have asks := outbox.asksAgain_of_lt_deciding retries script
    rintro (tooMany | ⟨response, answers, isOk, fails⟩)
    · exact .tooManyTries (by omega) fun number early => asks number (by omega)
    · exact .undecided _ (by omega) asks response answers isOk fails

/-- A save that ends the way an answer decides is truthful unless the answer leaves it open. -/
theorem truthful_verdict (post : Call) (before : Exchange) (number : Nat) (after : World)
    (calls : after.exchange.calls = before.calls ++ List.replicate (number + 1) post) :
    Truthful post before (verdict (Exchange.replyTo before.script number), after) ↔
      ¬ ∃ response, Exchange.replyTo before.script number = .response response ∧
        response.isOk = true ∧ ¬ response.Succeeds := by
  cases answer : Exchange.replyTo before.script number with
  | failure kind text =>
    refine iff_of_true ⟨_, _, rfl⟩ ?_
    rintro ⟨response, same, -⟩
    cases same
  | response response =>
    unfold verdict
    dsimp only
    cases isOk : response.isOk with
    | false =>
      refine iff_of_true ⟨_, _, rfl⟩ ?_
      rintro ⟨other, same, isOther, -⟩
      cases same
      exact absurd isOther (isOk ▸ Bool.false_ne_true)
    | true =>
      rw [if_pos rfl]
      constructor
      · rintro ⟨last, other, sameCalls, answers, succeeds⟩ ⟨_, same, -, fails⟩
        have lengths := congrArg List.length (calls.symm.trans sameCalls)
        rw [List.length_append, List.length_append, List.length_replicate,
          List.length_replicate] at lengths
        have isLast : last = number := by omega
        rw [isLast, answer] at answers
        cases answers
        cases same
        exact fails succeeds
      · intro closed
        refine ⟨number, response, calls, answer, by_contra fun fails => ?_⟩
        exact closed ⟨response, rfl, isOk, fails⟩

/-- A save that returns without a post is not truthful. -/
theorem not_truthful_unposted (post : Call) (before : Exchange) (after : World)
    (calls : after.exchange.calls = before.calls) : ¬ Truthful post before (.ok (), after) := by
  rintro ⟨number, response, posts, -⟩
  have lengths := congrArg List.length (calls.symm.trans posts)
  rw [List.length_append, List.length_replicate] at lengths
  omega

/-- Posting is truthful exactly where it does not mislead. -/
theorem Usual.truthful_exactly (usual : outbox.Usual) (document : Json) {members : Table Json}
    (sends : document.asObject = .ok members) (world after : World)
    (isAfter : after.exchange = ((outbox.send document).outcome world.exchange).2) :
    Truthful (outbox.sent members) world.exchange
        (((outbox.send document).outcome world.exchange).1, after) ↔
      ¬ Misleads outbox world.exchange.script := by
  rcases lt_or_ge outbox.retries 0 with negative | positive
  · have unposted : (outbox.send document).outcome world.exchange = (.ok (), world.exchange) := by
      rw [send, show (outbox.retries + 1).toNat = 0 by omega]
      rfl
    rw [unposted] at isAfter ⊢
    exact iff_of_false (not_truthful_unposted _ _ _ (congrArg Exchange.calls isAfter))
      (not_not_intro (.noTry negative))
  · have isRetries := (Int.toNat_of_nonneg positive).symm
    rw [usual.misleads_iff _ isRetries]
    obtain ⟨tooMany, ends⟩ | ⟨few, ends, calls⟩ :=
      usual.outcome_send document sends _ isRetries world.exchange
    · rw [ends]
      refine iff_of_false ?_ (not_not_intro (Or.inl tooMany))
      rintro ⟨text, status, same⟩
      cases same
    · rw [ends, truthful_verdict _ _ _ _ (isAfter ▸ calls), not_or]
      exact (and_iff_right (Nat.not_lt_of_le few)).symm

end WebOutbox

namespace Settings

variable (settings : Settings) (target : String)

/-- How the settings post documents to a target. -/
def poster : WebOutbox :=
  ⟨Text.trim target, .float settings.timeout, settings.retries, defaultBackoff,
    defaultRetryStatuses⟩

theorem outbox_web (isTarget : settings.outboxTarget = some target)
    (isWeb : isWebAddress (Text.trim target) = true) :
    settings.outbox = some (.web (settings.poster target)) := by
  rw [outbox, isTarget, Option.map_some, Outbox.ofTarget, if_pos isWeb]
  rfl

theorem usual_poster : (settings.poster target).Usual := ⟨rfl, _, rfl⟩

/-- Without a record store a book is saved by posting it. -/
theorem outcome_save_posting (library : Library) (noStore : library.primary = none)
    (outbox : WebOutbox) (isOutbox : library.outbox = some (.web outbox)) (book : Book)
    (world : World) :
    ∃ last : Journal, (library.save book).outcome world =
      (((outbox.send (documentOf (Book.toJson book))).outcome world.exchange).1,
        { world with
          exchange := ((outbox.send (documentOf (Book.toJson book))).outcome world.exchange).2
          journal := last }) := by
  obtain ⟨first, last, done⟩ := outcome_operation "save_scenarios" (library.saveBook book) world
  refine ⟨last, ?_⟩
  rw [Library.save, done, Library.saveBook, noStore, isOutbox]
  rfl

/-- A request for settings without a record store that post to a target. -/
def postingLayer (retries : Int) : Table Json :=
  Table.ofEntries [(Setting.store.name, .str StoreKind.none.name),
    (Setting.outboxTarget.name, .str "http://sink/s.json"), (Setting.retries.name, .int retries)]

/-- The settings that the request chooses. -/
def posting (retries : Int) : Settings :=
  { default with store := .none, outboxTarget := some "http://sink/s.json", retries := retries }

/-- The request is accepted whatever the number of retries is. -/
theorem ofLayers_posting (retries : Int) :
    ofLayers Table.empty Table.empty (postingLayer retries) = .ok (posting retries) := by
  have entries : (postingLayer retries).entries = [(Setting.store.name, .str StoreKind.none.name),
      (Setting.outboxTarget.name, .str "http://sink/s.json"),
      (Setting.retries.name, .int retries)] := rfl
  have known : ∀ name ∈ (postingLayer retries).names, Setting.ofName? name ≠ none := by
    show ∀ name ∈ [Setting.store.name, Setting.outboxTarget.name, Setting.retries.name], _
    decide
  have noEnvironment : layerOfEnvironment Table.empty = Table.empty := rfl
  rw [ofLayers, noEnvironment, apply_empty, ok_bind, apply_empty, ok_bind, apply_known _ _ known,
    entries, setAll_cons, set, storeKind_name, ok_bind]
  show (Settings.setAll { default with store := .none } _) = _
  rw [setAll_cons, set, optionalText_str _ (by decide +kernel) (by decide +kernel), ok_bind]
  rfl

theorem isWebAddress_posting : isWebAddress (Text.trim "http://sink/s.json") = true := by
  decide +kernel

end Settings

end MarketSignal
