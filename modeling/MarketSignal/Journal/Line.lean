/-
How notices are written down. A line is either an object with a fixed order of members or a plain
text; both name the level, the part of the program that speaks, and the message. An object also
says where in the program the notice comes from and when it was made, and takes up what else the
notice carries: a member of the same name goes over the one that is there.

A notice below the chosen level is not written, and neither is one whose message or members cannot
be put together.
-/
import MarketSignal.Journal
import MarketSignal.Journal.Template
import MarketSignal.Text.LetterCase
import MarketSignal.Text.Pieces

namespace MarketSignal

/-! ### Severities -/

/-- The levels by which lines are chosen, and their weights. -/
def severities : List (String × Nat) :=
  [("CRITICAL", 50), ("ERROR", 40), ("WARNING", 30), ("INFO", 20), ("DEBUG", 10), ("NOTSET", 0),
    ("FATAL", 50), ("WARN", 30)]

/-- The weight of the level with the given name. -/
def severity? (name : String) : Option Nat := Entries.get? severities name

/-- The name of a weight. -/
def severityName (weight : Nat) : String :=
  match severities.find? fun entry => entry.2 == weight with
  | some (name, _) => name
  | none => "Level " ++ String.ofList (digitsOfNat weight)

/-- The weight of the level that was chosen, by a name in any case. -/
def chosenSeverity (name : String) : Except Fault Nat :=
  let capitals := Text.capitals name
  match severity? capitals with
  | some weight => .ok weight
  | none => .error (.setting ("Unknown level: " ++ Text.quoted capitals))

/-! ### Entries -/

/-- What is to be written down. -/
structure Entry where
  speaker : String
  weight : Nat
  template : String
  arguments : List Json
  details : List (String × Json)
  /-- The kind and the wording of the fault that the notice is about. -/
  fault : Option (String × String)
  sourceFile : String
  line : Json
  function : Json

namespace Entry

/-- The name of a file without its folders and its ending. A dot at the start of a name opens no
ending. -/
def moduleName (file : String) : String :=
  let name := ((Text.pieces '/' file.toList).getLast?).getD []
  let (dots, rest) := name.span fun c => c == '.'
  match (Text.pieces '.' rest).reverse with
  | _ :: before :: others =>
    String.ofList (dots ++ List.intercalate ['.'] (before :: others).reverse)
  | _ => String.ofList name

/-- The fault in words: its kind, and its wording unless that is empty. -/
def faultText (kind wording : String) : String :=
  if wording.isEmpty then kind else kind ++ ": " ++ wording

/-- The members of an entry, in order. -/
def members (entry : Entry) (time message : String) : Table Json :=
  let own : List (String × Json) :=
    [("timestamp", .str time), ("level", .str (severityName entry.weight)),
      ("logger", .str entry.speaker), ("message", .str message),
      ("module", .str (moduleName entry.sourceFile)), ("function", entry.function),
      ("line", entry.line)]
  let fault := entry.fault.map fun (kind, wording) =>
    ("exception", Json.str (faultText kind wording))
  Table.ofEntries (own ++ entry.details ++ fault.toList)

/-- An entry as an object. -/
def jsonLine (entry : Entry) (time : String) : Except Fault String := do
  let message ← Template.message entry.template entry.arguments
  Json.writeLine (.obj (entry.members time message).entries)

/-- An entry as a plain text. The fault stands on a line of its own. -/
def plainLine (entry : Entry) : Except Fault String := do
  let message ← Template.message entry.template entry.arguments
  let head := severityName entry.weight ++ " " ++ entry.speaker ++ ": " ++ message
  match entry.fault with
  | none => return head
  | some (kind, wording) =>
    let lineEnd := if head.toList.getLast? = some '\n' then "" else "\n"
    return head ++ lineEnd ++ faultText kind wording

end Entry

/-- The texts written for entries at the time given for each. -/
def writtenEntries (least : Nat) (asJson : Bool) (time : String) (entries : List Entry) :
    List String :=
  (entries.filter fun entry => decide (least ≤ entry.weight)).filterMap fun entry =>
    (if asJson then entry.jsonLine time else entry.plainLine).toOption

/-! ### Details of observed operations -/

/-- The event that a stage is. -/
def Stage.event : Stage → String
  | .start => "start"
  | .complete => "complete"
  | .failure _ => "error"

/-- How an operation ended, if it did. -/
def Stage.status? : Stage → Option String
  | .start => none
  | .complete => some "success"
  | .failure _ => some "error"

/-- What a notice about an observed operation carries: the event, the mark of the operation, and,
once it has ended, how long it took and how it ended. The kind of a fault goes by the given
names. -/
def Stage.details (stage : Stage) (operation : String) (duration : Json)
    (faultName : Fault → String) : List (String × Json) :=
  [("event", Json.str stage.event), ("operation_id", .str operation)] ++
    (match stage.status? with
      | some status => [("duration_seconds", duration), ("status", Json.str status)]
      | none => []) ++
    match stage with
    | .failure fault => [("error_type", Json.str (faultName fault))]
    | _ => []

/-- The mark of operations that are given none. -/
def unmarked : String := "n/a"

end MarketSignal
