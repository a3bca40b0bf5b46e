/-
A seed fills an empty library: it supplies a document of scenarios. The document comes with the
program, from a file, from the web, or is given outright. Which of these it is can be told from the
text that names the source.
-/
import MarketSignal.Storage.World

namespace MarketSignal

/-- Where a first document comes from. -/
inductive Seed where
  /-- A resource that comes with the program. -/
  | packaged (resource : String)
  | file (path : Path)
  | web (url : String) (timeout : Json)
  /-- A document that is given outright, or the text of one. -/
  | given (document : Except Fault Json)
  | unreachable (text : String)

/-- What a source that comes with the program starts with. -/
def packageMark : String := "package:"

/-- The source of the document that comes with the program. -/
def defaultSource : String := "package:scenarios.json"

/-- How long an exchange may take unless told otherwise, in seconds. -/
def defaultTimeout : Json := .float 10

/-- Whether a text names something on the web. -/
def isWebAddress (text : String) : Bool := text.startsWith "http://" || text.startsWith "https://"

/-- The seed that a text names. -/
def Seed.ofSource (source : String) (timeout : Json) : Seed :=
  let trimmed := Text.trim source
  if trimmed.startsWith packageMark then
    .packaged (String.ofList (trimmed.toList.drop packageMark.length))
  else if isWebAddress trimmed then .web trimmed timeout
  else .file (Path.ofText trimmed)

/-- The fault of an answer with the status of an error. -/
def Response.refusal? (response : Response) (url : String) : Option Fault :=
  let refused := fun whose =>
    Fault.answered
      (String.ofList (digitsOfInt response.status) ++ " " ++ whose ++ " Error: " ++
        String.ofList response.reason.shown ++ " for url: " ++ url)
  if 400 ≤ response.status ∧ response.status < 500 then some (refused "Client")
  else if 500 ≤ response.status ∧ response.status < 600 then some (refused "Server")
  else none

/-- The value in the body of an answer, which may start with a byte order mark. -/
def Response.value (response : Response) : Except Fault Json :=
  match response.body.toList with
  | c :: rest =>
    Json.load (if c.toNat = 0xFEFF then String.ofList rest else response.body)
  | [] => Json.load response.body

/-- Fetches the document of a seed. -/
def Seed.fetch (seed : Seed) : Run World Json :=
  match seed with
  | .packaged resource => do
    let path := (Path.mk .package ["data"]).child resource
    Run.ofExcept (Json.load (← World.onDisk (Disk.readText path)))
  | .file path => do
    Run.ofExcept (Json.load (← World.onDisk (Disk.readText path)))
  | .web url timeout => do
    let response ← World.onExchange (Exchange.perform (.fetch url timeout))
    match response.refusal? url with
    | some fault => throw fault
    | none => Run.ofExcept response.value
  | .given document => do
    World.consult
    Run.ofExcept document
  | .unreachable text => do
    World.consult
    throw (.unreachable text)

end MarketSignal
