/-
An outbox takes a document when there is no record store to save it in. It posts the document to
the web, writes it to a file, or hands it to a recipient in memory.

Posting is tried several times. An answer whose status asks for another try is followed by a wait,
as long as the answer says or else twice as long with every try, but never longer than a limit; a
failure of the exchange is followed by a wait without that limit. After the last try the answer
decides.
-/
import MarketSignal.Storage.Seed
import MarketSignal.Number.Numeral

namespace MarketSignal

/-- How documents are posted. -/
structure WebOutbox where
  url : String
  timeout : Json
  retries : Int
  backoff : Amount
  retryStatuses : List Int

/-- The statuses that ask for another try unless told otherwise. -/
def defaultRetryStatuses : List Int := [429, 500, 502, 503, 504]

/-- How often a post is repeated unless told otherwise. -/
def defaultRetries : Int := 2

/-- The first wait unless told otherwise. -/
def defaultBackoff : Amount := .real 1

/-- The longest wait after an answer, in seconds. -/
def waitLimit : Float := 30

/-- Where documents go. -/
inductive Outbox where
  | web (outbox : WebOutbox)
  | file (path : Path)
  | memory
  | refusing (text : String) (status : Option Int)

/-- The outbox that a text names. -/
def Outbox.ofTarget (target : String) (timeout : Json) (retries : Int) : Outbox :=
  let trimmed := Text.trim target
  if isWebAddress trimmed then
    .web ⟨trimmed, timeout, retries, defaultBackoff, defaultRetryStatuses⟩
  else .file (Path.ofText trimmed)

namespace WebOutbox

/-- The first wait, doubled with every try. -/
def pause (outbox : WebOutbox) (attempt : Nat) : Except Fault Amount :=
  match outbox.backoff.doubled? attempt with
  | some amount => .ok amount
  | none => .error .tooLarge

/-- How long an answer asks to wait, if it does: a header of digits says so. An answer that tells of
an error is not asked. -/
def askedPause (response : Response) : Except Fault (Option Amount) :=
  if response.isOk then
    match response.header "Retry-After" with
    | .str text =>
      let trimmed := Text.trim text
      if Text.isDigits trimmed then
        match floatOfText? trimmed with
        | some seconds => .ok (some (.real seconds))
        | none => .error .notNumber
      else .ok none
    | _ => .ok none
  else .ok none

/-- How long to wait after an answer. -/
def pauseAfter (outbox : WebOutbox) (response : Response) (attempt : Nat) :
    Except Fault Amount := do
  match ← askedPause response with
  | some amount => return amount.atMost waitLimit
  | none => return (← outbox.pause attempt).atMost waitLimit

/-- What one try comes to: an answer, or the text of the failure of the exchange. -/
def tryOnce (outbox : WebOutbox) (document : Json) : Run Exchange (Except String Response) :=
  tryCatch
    (do
      let sent ← Run.ofExcept document.asObject
      return .ok (← Exchange.perform (.post outbox.url (.obj sent.entries) outbox.timeout)))
    fun fault =>
      match fault with
      | .exchange _ text => return .error text
      | other => throw other

/-- Posts a document with the given number of tries left, of which so many were made before. -/
def post (outbox : WebOutbox) (document : Json) : Nat → Nat → Run Exchange Unit
  | 0, _ => return ()
  | left + 1, attempt => do
    match ← outbox.tryOnce document with
    | .error text =>
      if left = 0 then throw (.delivery ("Scenario sink unreachable: " ++ text) none)
      Exchange.wait (← Run.ofExcept (outbox.pause attempt))
      outbox.post document left (attempt + 1)
    | .ok response =>
      if outbox.retryStatuses.contains response.status && left != 0 then
        Exchange.wait (← Run.ofExcept (outbox.pauseAfter response attempt))
        outbox.post document left (attempt + 1)
      else if response.isOk then return ()
      else
        throw (.delivery
          ("HTTP error! status: " ++ String.ofList (digitsOfInt response.status))
          (some response.status))

/-- Posts a document. A number of retries below zero leaves no try at all. -/
def send (outbox : WebOutbox) (document : Json) : Run Exchange Unit :=
  outbox.post document (outbox.retries + 1).toNat 0

end WebOutbox

/-- Writes a document to a file, whose folder is made if it is missing. -/
def Disk.writeDocument (path : Path) (document : Json) : Run Disk Unit :=
  tryCatch
    (do
      makeFolders path.parent
      let text ← Run.ofExcept document.writePage
      writeBytes path text.toUTF8)
    fun fault =>
      throw (if fault.isFile then
        .delivery ("Unable to write scenarios to " ++ path.text ++ ".") none
      else fault)

/-- Sends a document. -/
def Outbox.send (outbox : Outbox) (document : Json) : Run World Unit :=
  match outbox with
  | .web poster => World.onExchange (poster.send document)
  | .file path => World.onDisk (Disk.writeDocument path document)
  | .memory => modify fun world => { world with received := world.received ++ [document] }
  | .refusing text status => throw (.delivery text status)

end MarketSignal
