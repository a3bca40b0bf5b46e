/-
What the commands do. A command that succeeds prints a value, or the text of a backup, and ends
with the status zero; one that finds something amiss prints what it found and ends with the status
one. A refusal of the program's own making is reported in one line beside the output.
-/
import MarketSignal.CommandLine.Arguments
import MarketSignal.Scenario.Lint
import MarketSignal.Settings.Tiers
import MarketSignal.Signal.Prediction

namespace MarketSignal

/-- How a command ends. -/
structure Finished where
  status : Nat
  output : String
  complaint : String
deriving DecidableEq, Repr

namespace Finished

/-- A command that succeeds and prints a value. -/
def printing (value : Json) (status : Nat) : Except Fault Finished := do
  return ⟨status, (← value.writePage) ++ "\n", ""⟩

/-- A command that is refused. -/
def refused (fault : Fault) : Finished := ⟨1, "", "error: " ++ fault.message ++ "\n"⟩

end Finished

namespace Command

/-! ### Reading what the command line names -/

/-- The fault that a file which the command line names cannot be read. Other faults stay as they
are. -/
def unreadable (name : String) (fault : Fault) : Fault :=
  if fault.isFile then .refused ("Unable to read " ++ name ++ ": " ++ fault.message) else fault

/-- The text that an argument stands for: that of the file it names, or its own. -/
def argumentText (argument : String) : Run World String := do
  if (← get).disk.hasFile argument then
    let path := Path.ofText argument
    tryCatch (World.onDisk (Disk.readText path)) fun fault => throw (unreadable path.text fault)
  else return argument

/-- The value that an argument stands for. Without one it is an empty object. -/
def argumentValue (argument : Option String) : Run World Json := do
  match argument with
  | none => return .obj []
  | some argument =>
    match Json.read (← argumentText argument) with
    | .ok value => return value
    | .error (.malformed complaint _ _ _) =>
      throw (.malformed "$" ("Invalid JSON for --values: " ++ complaint.message))
    | .error misread => throw (.misread misread)

/-- The book in a file. -/
def bookInFile (name : String) : Run World Book := do
  let text ←
    tryCatch (World.onDisk (Disk.readText (Path.ofText name))) fun fault =>
      throw (unreadable name fault)
  Run.ofExcept (Book.restore text)

/-- Writes the backup of a book to a file, whose folder is made if it is missing. -/
def writeBackup (book : Book) (path : Path) : Run World Unit := do
  World.onDisk do
    Disk.makeFolders path.parent
    Disk.writeBytes path (← Run.ofExcept book.backupText).toUTF8
  World.note .info
    ("Exported " ++ String.ofList (digitsOfNat (Table.size book)) ++ " scenarios to " ++ path.text)

/-! ### Commands -/

/-- The scenario of a book under an identity. -/
def scenarioNamed (book : Book) (id : String) : Except Fault Scenario :=
  match Table.get? book id with
  | some scenario => .ok scenario
  | none => .error (.notFound "scenario" (.str id))

/-- The identity that a word gives. A word without text gives none that could be looked up. -/
def identityOf (word : Option String) : Except Fault String :=
  match word with
  | some id => .ok id
  | none => .error .wrongKind

/-- Texts in alphabetical order. -/
def alphabetical (texts : List String) : List String :=
  texts.mergeSort fun left right => decide (left ≤ right)

/-- A list of texts as a value. -/
def textList (texts : List String) : Json := .arr (texts.map .str)

/-- Carries a command out. -/
def perform (settings : Settings) (command : Command) : Run World Finished := do
  let library := Run.ofExcept settings.library
  match command with
  | .list => do
    let book ← (← library).load
    Run.ofExcept (Finished.printing (.obj (Table.map Scenario.name book).entries) 0)
  | .display id => do
    let book ← (← library).load
    let scenario ← Run.ofExcept (scenarioNamed book id)
    Run.ofExcept (Finished.printing scenario.toJsonWithId 0)
  | .evaluate id values => do
    let book ← (← library).load
    let given ← argumentValue values
    let scenario ← Run.ofExcept (scenarioNamed book id)
    let answers ← World.inJournal (scenario.collect given)
    let signal ← World.inJournal (MarketSignal.evaluate (.scenario scenario) (.answers answers))
    Run.ofExcept (Finished.printing signal.toJson (if signal.isError then 1 else 0))
  | .predict values => do
    let opened ← library
    let book ← opened.load
    let assignments ← opened.assignments
    let given ← argumentValue values
    let predictions ←
      World.inJournal (predictMarkets book (.ofTexts assignments) settings.markets given)
    Run.ofExcept (Finished.printing (.arr (predictions.map Prediction.toJsonWithText)) 0)
  | .assignments => do
    let assignments ← (← library).assignments
    Run.ofExcept (Finished.printing (.ofTexts assignments) 0)
  | .assign market word => do
    let opened ← library
    let book ← opened.load
    let id ← Run.ofExcept (identityOf word)
    let _ ← Run.ofExcept (scenarioNamed book id)
    let assignments ← opened.assign market (.str id)
    Run.ofExcept (Finished.printing (.obj assignments.entries) 0)
  | .unassign market => do
    let assignments ← (← library).unassign market
    Run.ofExcept (Finished.printing (.obj assignments.entries) 0)
  | .backUp target => do
    let book ← (← library).load
    match target with
    | some target =>
      writeBackup book (Path.ofText target)
      return ⟨0, "", ""⟩
    | none => return ⟨0, (← Run.ofExcept book.backupText) ++ "\n", ""⟩
  | .restore source strict => do
    let book ← bookInFile source
    let issues ← Run.ofExcept book.issues
    if strict && !issues.isEmpty then throw (.refused (String.intercalate "; " issues))
    (← library).save book
    let imported := textList (alphabetical (Table.names book))
    Run.ofExcept (Finished.printing
      (.obj [("imported", imported), ("issues", textList issues)]) 0)
  | .lint => do
    let book ← (← library).load
    let issues ← Run.ofExcept book.issues
    Run.ofExcept (Finished.printing (.obj [("issues", textList issues)])
      (if issues.isEmpty then 0 else 1))

end Command

namespace Invocation

/-- The settings that come along with a command, as the last layer. -/
def request (invocation : Invocation) : Table Json :=
  let entry := fun (setting : Setting) (value : Option String) =>
    (value.map fun text => (setting.name, Json.str text)).toList
  Table.ofEntries
    (entry .dataFolder invocation.dataFolder ++ entry .store invocation.store ++
      entry .outboxTarget invocation.outbox ++ entry .seedSource invocation.seed)

/-- The settings under which a command is carried out. -/
def settings (invocation : Invocation) (environment : Table String) : Run World Settings :=
  let file := (invocation.settingsFile.map Path.ofText).getD Settings.defaultFile
  World.onDisk (Settings.load file environment invocation.request)

/-- Carries an invocation out, in a session of its own. -/
def run (invocation : Invocation) (environment : Table String) : Run World Finished := do
  Library.newSession
  let settings ← invocation.settings environment
  tryCatch (invocation.command.perform settings) fun fault =>
    if fault.isOwn then return Finished.refused fault else throw fault

end Invocation

end MarketSignal
