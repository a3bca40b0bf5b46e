/-
Exchanges with other programs over the web. Every call is kept, with what was sent; the answers
come from a script, one after another, and the last one is repeated. Without a script every call is
answered with success and nothing else. Waiting is kept too.
-/
import MarketSignal.Number.Amount
import MarketSignal.Journal
import MarketSignal.Text.LetterCase

namespace MarketSignal

/-- An answer to a call. -/
structure Response where
  status : Int
  reason : Json
  headers : List (String × Json)
  body : String

namespace Response

/-- Whether the status tells of no error. -/
def isOk (response : Response) : Bool := !(400 ≤ response.status && response.status < 600)

/-- The header with the given name, in any case; the last one if there are several. -/
def header (response : Response) (name : String) : Json :=
  let wanted := Text.smallLetters name
  match response.headers.reverse.find? fun entry => Text.smallLetters entry.1 == wanted with
  | some (_, value) => value
  | none => .null

end Response

/-- What comes back from a call: an answer, or a failure of the given kind. -/
inductive Reply where
  | response (response : Response)
  | failure (kind text : String)

/-- A call: something is fetched, or a document is posted. -/
inductive Call where
  | fetch (url : String) (timeout : Json)
  | post (url : String) (document timeout : Json)

/-- The headers that a call sends along: a posted document is announced as one. -/
def Call.headers : Call → List (String × String)
  | .fetch _ _ => []
  | .post _ _ _ => [("Content-Type", "application/json")]

/-- The calls and waits so far, and the answers to come. -/
structure Exchange where
  script : List Reply
  calls : List Call
  waits : List Amount

namespace Exchange

/-- The answer where there is no script. -/
def blank : Reply := .response ⟨200, .null, [], ""⟩

/-- The next answer, and the script afterwards. -/
def next : List Reply → Reply × List Reply
  | [] => (blank, [])
  | [last] => (last, [last])
  | reply :: rest => (reply, rest)

/-- Makes a call. -/
def perform (call : Call) : Run Exchange Response := do
  let exchange ← get
  let (reply, script) := next exchange.script
  set { exchange with script := script, calls := exchange.calls ++ [call] }
  match reply with
  | .response response => return response
  | .failure kind text => throw (.exchange kind text)

/-- Waits. -/
def wait (amount : Amount) : Run Exchange Unit :=
  modify fun exchange => { exchange with waits := exchange.waits ++ [amount] }

end Exchange

end MarketSignal
