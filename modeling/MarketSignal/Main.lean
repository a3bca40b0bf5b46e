/-
The program on a command line. What the words and the settings name is read from the disk into a
world, the command is carried out there, and the files that it changed are written. Whatever the
command decides is decided in that world; this module only carries things there and back.

There is no web here: every call comes back as a failure to connect.
-/
import MarketSignal.CommandLine.Run
import MarketSignal.Document.Packaged

namespace MarketSignal

namespace CommandLine

/-- How to use the program. -/
def usage : String :=
  "usage: scenariosignal [-h] " ++ String.intercalate "|" (CommandName.all.map CommandName.word) ++
    " ..."

/-- The names that a command line may hold: its words, and what follows an equals sign in them. -/
def namesIn (words : List String) : List String :=
  words ++ words.filterMap fun word => (splitAtEquals word.toList).2.map String.ofList

/-- The paths that settings name. -/
def pathsIn (settings : Settings) : List Path :=
  settings.dataPath :: (settings.seedSource :: settings.outboxTarget.toList).map Path.ofText

/-- Puts a file on a disk. -/
def putFile (path : Path) (bytes : ByteArray) (disk : Disk) : Disk :=
  let work : Run Disk Unit := do
    Disk.makeFolders path.parent
    Disk.writeBytes path bytes
  (work.outcome disk).2

/-- Where a path leads from the working directory. -/
def realName (path : Path) : String :=
  let steps := String.intercalate "/" path.steps
  match path.anchor with
  | .root => "/" ++ steps
  | .doubleRoot => "/" ++ steps
  | _ => steps

/-- Takes a file, or the files of a folder, onto a disk. What is not there is left out. -/
def takeIn (disk : Disk) (path : Path) : IO Disk := do
  let here ← IO.currentDir
  let place := here / realName path
  if ← place.isDir then
    let folder := ((Disk.makeFolders path).outcome disk).2
    let entries ← place.readDir
    entries.foldlM
      (fun before entry => do
        if ← entry.path.isDir then return before
        return putFile (path.child entry.fileName) (← IO.FS.readBinFile entry.path) before)
      folder
  else if ← place.pathExists then return putFile path (← IO.FS.readBinFile place) disk
  else return disk

/-- The name of a place on a disk, if one of the paths leads there or to its folder. -/
def realNameOf? (disk : Disk) (paths : List Path) (place : String) : Option String :=
  let key := fun path => (disk.locate path).toOption.map Disk.key
  match paths.find? fun path => key path == some place with
  | some path => some (realName path)
  | none =>
    paths.findSome? fun path =>
      match key path with
      | some folder =>
        let start := folder ++ "/"
        if place.startsWith start then
          some (realName path ++ "/" ++ String.ofList (place.toList.drop start.length))
        else none
      | none => none

/-- Writes the files that differ from those on the disk before. -/
def bringBack (before after : Disk) (paths : List Path) : IO Unit := do
  let here ← IO.currentDir
  for (place, node) in after.nodes.entries do
    match node, before.nodes.get? place with
    | .folder, _ => pure ()
    | .file bytes, known =>
      let same := match known with
        | some (.file old) => old == bytes
        | _ => false
      if same then pure ()
      else
        match realNameOf? after paths place with
        | none => pure ()
        | some name => do
          let target := here / name
          match target.parent with
          | some folder => IO.FS.createDirAll folder
          | none => pure ()
          IO.FS.writeBinFile target bytes

/-- The variables of the environment that settings are read from. -/
def readEnvironment : IO (Table String) := do
  let names :=
    Settings.databaseVariable ::
      Setting.all.map fun setting => Settings.environmentMark ++ Text.capitals setting.name
  let entries ← names.filterMapM fun name => do
    return (← IO.getEnv name).map fun value => (name, value)
  return Table.ofEntries entries

/-- Carries an invocation out. -/
def carryOut (invocation : Invocation) (words : List String) : IO UInt32 := do
  let environment ← readEnvironment
  let named := Settings.defaultFile :: (namesIn words).map Path.ofText
  let unreachable : Reply := .failure "ConnectionError" "The web is out of reach."
  let known ← named.foldlM takeIn World.atStart.disk
  let world : World :=
    { World.atStart with disk := known, exchange := ⟨[unreachable], [], []⟩ }
  let paths :=
    match ((invocation.settings environment).outcome world).1 with
    | .ok settings => named ++ pathsIn settings
    | .error _ => named
  let disk ← (paths.drop named.length).foldlM takeIn known
  let (outcome, after) :=
    (invocation.run environment).outcome { world with disk := disk }
  bringBack disk after.disk paths
  for notice in after.journal do
    if notice.level = .warning ∨ notice.level = .error then
      IO.eprintln (notice.level.name ++ " " ++ notice.message)
  match outcome with
  | .ok finished => do
    IO.print finished.output
    IO.eprint finished.complaint
    return UInt32.ofNat finished.status
  | .error fault => do
    IO.eprintln fault.message
    return 1

end CommandLine

end MarketSignal

def main (words : List String) : IO UInt32 := do
  match MarketSignal.Invocation.ofWords words with
  | .ok invocation => MarketSignal.CommandLine.carryOut invocation words
  | .error .help => do
    IO.println MarketSignal.CommandLine.usage
    return 0
  | .error .misuse => do
    IO.eprintln MarketSignal.CommandLine.usage
    return 2
