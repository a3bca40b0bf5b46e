/-
Where settings come from: a file, the environment and the request at hand. Each later layer goes
over the earlier ones. In the file a line names a setting and its value, with a colon between them;
blank lines, lines that start with a number sign and lines without a colon say nothing. In the
environment the names are in capitals and start with the name of the program.
-/
import MarketSignal.Settings.Basic
import MarketSignal.Storage.World

namespace MarketSignal

namespace Settings

/-! ### The file -/

/-- Whether a character is a quotation mark. -/
def isQuotationMark (c : Char) : Bool := c == '\'' || c == '"'

/-- The value that a text stands for: a truth value, a whole number, or the text itself without
the quotation marks around it. Digits that make no number are refused. -/
def scalar (text : List Char) : Except Fault Json :=
  let clean := String.ofList (Text.trimBy isQuotationMark (Text.trimBy Text.isBlank text))
  let small := Text.smallLetters clean
  if small = "true" then .ok (.bool true)
  else if small = "false" then .ok (.bool false)
  else if Text.isDigits clean then
    match intOfText? clean with
    | some whole => .ok (.int whole)
    | none => .error .notNumber
  else .ok (.str clean)

/-- The setting in a line, if the line names one. -/
def lineEntry? (line : List Char) : Except Fault (Option (String × Json)) := do
  let text := Text.trimBy Text.isBlank line
  if text.head? = some '#' then return none
  match text.span fun c => c != ':' with
  | (name, _ :: value) =>
    return some (String.ofList (Text.trimBy Text.isBlank name), ← scalar value)
  | (_, []) => return none

/-- The layer that a text holds. Of two lines for a setting the later one counts. -/
def layerOfText (text : String) : Except Fault (Table Json) := do
  let entries ← (Text.lines text.toList).mapM lineEntry?
  return Table.ofEntries (entries.filterMap id)

/-- The layer in a file; a missing file says nothing. -/
def layerOfFile (path : Path) : Run Disk (Table Json) := do
  if ← Run.ofExcept ((← get).has path) then
    Run.ofExcept (layerOfText (← Disk.readText path))
  else return Table.empty

/-- The file where no other is named. -/
def defaultFile : Path := ⟨.project, ["config", "scenariosignal.yaml"]⟩

/-! ### The environment -/

/-- What the names of settings in the environment start with. -/
def environmentMark : String := "SCENARIOSIGNAL_"

/-- The variable that names the database unless the program's own variable does. -/
def databaseVariable : String := "DATABASE_URL"

/-- The setting that a variable of the environment is for, if it is for one. -/
def variableSetting? (name : String) : Option Setting :=
  if name.startsWith environmentMark then
    Setting.ofName?
      (Text.smallLetters (String.ofList (name.toList.drop environmentMark.length)))
  else none

/-- The layer in the environment. Other variables are passed over. -/
def layerOfEnvironment (environment : Table String) : Table Json :=
  let own :=
    Table.ofEntries (environment.entries.filterMap fun entry =>
      (variableSetting? entry.1).map fun setting => (setting.name, Json.str entry.2))
  match environment.get? databaseVariable with
  | some url =>
    if own.has Setting.databaseUrl.name || url.isEmpty then own
    else own.put Setting.databaseUrl.name (.str url)
  | none => own

/-! ### All layers -/

/-- The settings of a file layer, an environment and a request, each over the one before. -/
def ofLayers (file : Table Json) (environment : Table String) (request : Table Json) :
    Except Fault Settings := do
  let fromFile ← default.apply file
  let fromEnvironment ← fromFile.apply (layerOfEnvironment environment)
  fromEnvironment.apply request

/-- The settings of a file, the environment and a request. -/
def load (file : Path) (environment : Table String) (request : Table Json) :
    Run Disk Settings := do
  Run.ofExcept (ofLayers (← layerOfFile file) environment request)

end Settings

end MarketSignal
