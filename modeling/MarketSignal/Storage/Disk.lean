/-
The disk holds files and folders. A path is followed step by step: a step out of a folder needs the
folder to be there, a step up leads to the folder above, and only the last step may lead to
something that does not exist yet. Each call either succeeds or is refused for one of a few
reasons; a call can also be made to fail, to see what becomes of the work that needs it.
-/
import MarketSignal.Storage.Path
import MarketSignal.Journal

namespace MarketSignal

/-- What a name on the disk stands for. -/
inductive Node where
  | file (bytes : ByteArray)
  | folder

/-- The calls to the disk that can be made to fail. -/
inductive DiskCall where
  | read
  | makeFolder
  | create
  | write
  | replace
deriving DecidableEq, Repr

/-- A place on the disk: the names from the root to it. -/
abbrev Location := List String

/-- Files and folders by place, written as one text, and the call that fails. -/
structure Disk where
  nodes : Table Node
  failing : Option DiskCall

namespace Disk

/-- The place of the working directory. -/
def workingFolder : Location := ["work"]

/-- The place of the folder of the program's project. -/
def projectFolder : Location := ["<repo>"]

/-- The place of the folder of the installed program. -/
def packageFolder : Location := ["<package>"]

/-- A place as one text. -/
def key (location : Location) : String := String.intercalate "/" location

/-- What is at a place. The root is a folder. -/
def node? (disk : Disk) (location : Location) : Option Node :=
  match location with
  | [] => some .folder
  | _ => disk.nodes.get? (key location)

/-- Puts a file or folder at a place. -/
def put (disk : Disk) (location : Location) (node : Node) : Disk :=
  { disk with nodes := disk.nodes.put (key location) node }

/-- The disk before any work: the folders that are always there, and nothing in the working
directory. -/
def fresh : Disk :=
  ⟨Table.ofEntries
      [(key workingFolder, .folder), (key projectFolder, .folder), (key packageFolder, .folder)],
    none⟩

/-! ### Following paths -/

/-- The place where a path starts. -/
def start (path : Path) : Location :=
  match path.anchor with
  | .here => workingFolder
  | .root => []
  | .doubleRoot => []
  | .project => projectFolder
  | .package => packageFolder

/-- The most bytes that a name may have. -/
def nameLimit : Nat := 255

/-- The most bytes that a path may have. -/
def pathLimit : Nat := 4095

/-- Follows steps from a folder. -/
def walk (disk : Disk) (folder : Location) : List String → Except FileTrouble Location
  | [] => .ok folder
  | ".." :: rest => walk disk folder.dropLast rest
  | step :: rest =>
    let next := folder ++ [step]
    if nameLimit < step.utf8ByteSize then .error .nameTooLong
    else
      match rest, disk.node? next with
      | [], _ => .ok next
      | _, some .folder => walk disk next rest
      | _, some (.file _) => .error .notFolder
      | _, none => .error .absent

/-- The place that a path leads to. -/
def locate (disk : Disk) (path : Path) : Except Fault Location :=
  if path.text.toList.contains (Char.ofNat 0) then .error .zeroInPath
  else if pathLimit < path.text.utf8ByteSize then .error (.file .nameTooLong path.text)
  else
    match disk.walk (start path) path.steps with
    | .ok location => .ok location
    | .error trouble => .error (.file trouble path.text)

/-- Whether there is something at the end of a path. A path that cannot be followed leads to
nothing, unless it cannot even be asked for. -/
def has (disk : Disk) (path : Path) : Except Fault Bool :=
  match disk.locate path with
  | .ok location => .ok (disk.node? location).isSome
  | .error (.file .nameTooLong text) => .error (.file .nameTooLong text)
  | .error _ => .ok false

/-- Whether there is a folder at the end of a path. -/
def hasFolder (disk : Disk) (path : Path) : Bool :=
  match disk.locate path with
  | .ok location =>
    match disk.node? location with
    | some .folder => true
    | _ => false
  | .error _ => false

/-- Whether a text is the path of a file. A text that ends with a slash or a dot is that of a
folder at most. -/
def hasFile (disk : Disk) (text : String) : Bool :=
  let last := ((Text.pieces '/' text.toList).getLast?).getD []
  if last = [] ∨ last = ['.'] then false
  else
    match disk.locate (Path.ofText text) with
    | .ok location =>
      match disk.node? location with
      | some (.file _) => true
      | _ => false
    | .error _ => false

/-! ### Calls -/

/-- Fails if the call is one that fails. -/
def attempt (call : DiskCall) (path : Path) : Run Disk Unit := do
  if (← get).failing == some call then throw (.file .device path.text)

/-- The bytes of a file. -/
def readBytes (path : Path) : Run Disk ByteArray := do
  attempt .read path
  let disk ← get
  match disk.node? (← Run.ofExcept (disk.locate path)) with
  | some (.file bytes) => return bytes
  | some .folder => throw (.file .folder path.text)
  | none => throw (.file .absent path.text)

/-- The text of a file, with one kind of line ends. -/
def readText (path : Path) : Run Disk String := do
  match Text.decode (← readBytes path) with
  | .ok text => return String.ofList (Text.unifyLineEnds text.toList)
  | .error damage => throw (.undecodable damage)

/-- Writes a file, over the one that is there. -/
def writeBytes (path : Path) (bytes : ByteArray) : Run Disk Unit := do
  attempt .write path
  let disk ← get
  let location ← Run.ofExcept (disk.locate path)
  match disk.node? location with
  | some .folder => throw (.file .folder path.text)
  | _ => set (disk.put location (.file bytes))

/-- Makes a folder where there is nothing. -/
def makeFolder (path : Path) : Run Disk Unit := do
  attempt .makeFolder path
  let disk ← get
  let location ← Run.ofExcept (disk.locate path)
  match disk.node? location with
  | some _ => throw (.file .occupied path.text)
  | none => set (disk.put location .folder)

/-- Makes a folder and is content if it is there already. Where a folder above it is missing, the
given work is done instead. -/
def makeFolderOr (path : Path) (ifAbsent : Fault → Run Disk Unit) : Run Disk Unit :=
  tryCatch (makeFolder path) fun fault => do
    match fault with
    | .file .absent _ => ifAbsent fault
    | .file _ _ => if (← get).hasFolder path then return () else throw fault
    | _ => throw fault

/-- Makes a folder and those above it, as far as they are missing. The number bounds how far up the
work may go. -/
def makeFoldersUpTo : Nat → Path → Run Disk Unit
  | 0, path => makeFolderOr path fun fault => throw fault
  | height + 1, path =>
    makeFolderOr path fun fault => do
      if path.steps.isEmpty then throw fault
      makeFoldersUpTo height path.parent
      makeFolderOr path fun fault => throw fault

/-- Makes a folder and those above it, as far as they are missing. -/
def makeFolders (path : Path) : Run Disk Unit := makeFoldersUpTo path.steps.length path

/-- Deletes a file. -/
def deleteFile (path : Path) : Run Disk Unit := do
  let disk ← get
  let location ← Run.ofExcept (disk.locate path)
  match disk.node? location with
  | some (.file _) => set { disk with nodes := disk.nodes.erase (key location) }
  | some .folder => throw (.file .folder path.text)
  | none => throw (.file .absent path.text)

/-- Puts a file in the place of another one. -/
def replaceFile (source target : Path) : Run Disk Unit := do
  attempt .replace target
  let disk ← get
  let origin ← Run.ofExcept (disk.locate source)
  let location ← Run.ofExcept (disk.locate target)
  match disk.node? origin, disk.node? location with
  | none, _ => throw (.file .absent source.text)
  | _, some .folder => throw (.file .folder target.text)
  | some node, _ =>
    set ({ disk with nodes := disk.nodes.erase (key origin) }.put location node)

/-! ### Temporary files -/

/-- Eight digits of a number, which tell temporary files apart. -/
def serial (number : Nat) : String :=
  let digits := Nat.toDigits 10 number
  String.ofList (List.replicate (8 - digits.length) '0' ++ digits)

/-- Steps without double dots, each of which takes back the step before it. -/
def settled (steps : List String) : List String :=
  steps.foldl (fun before step => if step = ".." then before.dropLast else before ++ [step]) []

/-- The path of a temporary file beside the records of a folder. The folder's path is settled
first. -/
def temporaryPath (folder : Path) (record : String) (number : Nat) : Path :=
  let settledFolder : Path := ⟨.root, settled (start folder ++ folder.steps)⟩
  settledFolder.child ("." ++ record ++ "." ++ serial number ++ ".tmp")

/-- Makes an empty temporary file with the first number that is free, trying as many as told. -/
def createTemporaryFrom (folder : Path) (record : String) : Nat → Nat → Run Disk Path
  | 0, number => throw (.file .occupied (temporaryPath folder record number).text)
  | tries + 1, number => do
    let path := temporaryPath folder record number
    attempt .create path
    let disk ← get
    let location ← Run.ofExcept (disk.locate path)
    match disk.node? location with
    | some _ => createTemporaryFrom folder record tries (number + 1)
    | none =>
      set (disk.put location (.file ByteArray.empty))
      return path

/-- Makes an empty temporary file for a record in a folder. There are more numbers to try than
there is anything on the disk. -/
def createTemporary (folder : Path) (record : String) : Run Disk Path := do
  createTemporaryFrom folder record ((← get).nodes.size + 1) 0

end Disk

end MarketSignal
