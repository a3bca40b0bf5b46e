/-
Whole records under keys. A record store answers a key with the value last stored under it, or with
null; it keeps its records in memory, in a folder with a file for each, in a bucket with a blob for
each, or in a table of a database. Whatever keeps a record from being read or written, the store
reports as its own refusal; only a value that cannot be written at all is reported as such.
-/
import MarketSignal.Storage.World

namespace MarketSignal

/-- Where records are kept. -/
inductive RecordStore where
  | memory
  | folder (root : Path)
  | bucket (name stem : String)
  | database (url table : String)
deriving DecidableEq, Repr

/-! ### Records as bytes -/

/-- The bytes of a record. -/
def recordBytes (value : Json) : Except Fault ByteArray := do
  return (← value.writePage).toUTF8

/-- The record that bytes stand for. A number that is too long is none of the ways in which a record
is expected to be damaged. -/
def recordOfBytes (key : String) (bytes : ByteArray) : Except Fault Json :=
  let damaged : Fault := .storage ("Record '" ++ key ++ "' is not valid JSON.")
  match Text.decode bytes with
  | .error _ => .error damaged
  | .ok text =>
    match Json.read text with
    | .ok value => .ok value
    | .error (.malformed ..) => .error damaged
    | .error misread => .error (.misread misread)

/-! ### In memory -/

namespace Memory

/-- The refusal of a store in memory. -/
def refusal : Fault := .storage "primary unavailable"

/-- Reads a record. -/
def read (key : String) : Run Memory Json := do
  let memory ← get
  if memory.refusesReads then throw refusal
  return (memory.records.get? key).getD .null

/-- Stores a record. -/
def write (key : String) (value : Json) : Run Memory Unit := do
  let memory ← get
  if memory.refusesWrites then throw refusal
  set { memory with records := memory.records.put key value }

end Memory

/-! ### In a folder -/

/-- The file of a record. -/
def recordPath (root : Path) (key : String) : Path := root.child (key ++ ".json")

/-- A refusal of the file system becomes the given refusal of the store. -/
def refusingAs {State Result : Type} (text : String) (work : Run State Result) :
    Run State Result :=
  tryCatch work fun fault => throw (if fault.isFile then .storage text else fault)

namespace Disk

/-- Reads a record. -/
def readRecord (root : Path) (key : String) : Run Disk Json := do
  let path := recordPath root key
  if ← Run.ofExcept ((← get).has path) then
    let bytes ← refusingAs ("Unable to read record '" ++ key ++ "' from " ++ path.text ++ ".")
      (readBytes path)
    Run.ofExcept (recordOfBytes key bytes)
  else return .null

/-- Stores a record. The value is written to a temporary file, which then takes the place of the
record, so a record is never seen half written. -/
def writeRecord (root : Path) (key : String) (value : Json) : Run Disk Unit := do
  let path := recordPath root key
  refusingAs ("Unable to write record '" ++ key ++ "' to " ++ path.text ++ ".") do
    makeFolders path.parent
    let temporary ← createTemporary path.parent key
    writeBytes temporary (← Run.ofExcept (recordBytes value))
    replaceFile temporary path

end Disk

/-! ### In a bucket -/

/-- A name under a stem. Blanks around the name and slashes before it do not count; without a stem
the name stands alone, and without a name the stem. -/
def joinStem (stem name : String) : String :=
  let clean := String.ofList ((Text.trim name).toList.dropWhile fun c => c == '/')
  if stem.isEmpty then clean
  else if clean.isEmpty then stem
  else stem ++ "/" ++ clean

namespace Bucket

/-- The full name of the blob of a record. -/
def blobName (bucket stem key : String) : String := bucket ++ ":" ++ joinStem stem (key ++ ".json")

/-- The refusal where the client for buckets is missing. -/
def clientMissing : Fault := .storage "google-cloud-storage is required for GCS storage."

/-- Makes sure that there is a client. -/
def connect : Run Bucket Unit := do
  if !(← get).installed then throw clientMissing

/-- Makes a call about a blob, which is kept together with whether it succeeded. -/
def perform (call : BlobCall) (name : String) (refusal : Fault) : Run Bucket Unit := do
  let bucket ← get
  let succeeds := bucket.failing != some call
  set { bucket with calls := bucket.calls ++ [(call, name, succeeds)] }
  if !succeeds then throw refusal

/-- Reads a record. -/
def readRecord (bucket stem key : String) : Run Bucket Json := do
  connect
  let name := blobName bucket stem key
  let refusal := Fault.storage ("Unable to read record '" ++ key ++ "' from GCS.")
  perform .ask name refusal
  if (← get).blobs.has name then
    perform .download name refusal
    match (← get).blobs.get? name with
    | some bytes => Run.ofExcept (recordOfBytes key bytes)
    | none => return .null
  else return .null

/-- Stores a record. -/
def writeRecord (bucket stem key : String) (value : Json) : Run Bucket Unit := do
  connect
  let name := blobName bucket stem key
  let refusal := Fault.storage ("Unable to write record '" ++ key ++ "' to GCS.")
  match recordBytes value with
  | .error _ => throw refusal
  | .ok bytes =>
    perform .upload name refusal
    modify fun bucket => { bucket with blobs := bucket.blobs.put name bytes }

end Bucket

/-! ### In a database -/

namespace Database

/-- The refusal where the client for databases is missing. -/
def clientMissing : Fault := .storage "psycopg is required for Postgres storage."

/-- Says something to the database; it fails if statements of its kind do. -/
def say (statement : Statement) (kind : Option StatementKind) (refusal : Fault) :
    Run Database Unit := do
  let database ← get
  set { database with statements := database.statements ++ [statement] }
  if kind.isSome && database.failing == kind then throw refusal

/-- Says something that cannot fail. -/
def tell (statement : Statement) : Run Database Unit :=
  modify fun database => { database with statements := database.statements ++ [statement] }

/-- Opens a connection, makes sure that the table is there, does the work, and closes the
connection whether or not the work succeeds. -/
def session {Result : Type} (url table : String) (refusal : Fault) (work : Run Database Result) :
    Run Database Result := do
  if !(← get).installed then throw clientMissing
  say (.connect url) (some .connect) (.storage "Unable to connect to Postgres.")
  let result ←
    tryCatch
      (do
        say (.createTable table) (some .create) refusal
        tell .commit
        work)
      fun fault => do
        tell .close
        throw fault
  tell .close
  return result

/-- Reads a record. -/
def readRecord (url table key : String) : Run Database Json := do
  let refusal := Fault.storage ("Unable to read record '" ++ key ++ "' from Postgres.")
  session url table refusal do
    say (.selectValue table key) (some .select) refusal
    return ((← get).rows.get? key).getD .null

/-- Stores a record. -/
def writeRecord (url table key : String) (value : Json) : Run Database Unit := do
  let refusal := Fault.storage ("Unable to write record '" ++ key ++ "' to Postgres.")
  session url table refusal do
    say (.insertValue table key value) (some .insert) refusal
    if value.hasLongNumber then throw .longNumber
    modify fun database => { database with rows := database.rows.put key value }
    tell .commit

end Database

/-! ### Any store -/

namespace RecordStore

/-- Reads a record; null if there is none. -/
def read (store : RecordStore) (key : String) : Run World Json :=
  match store with
  | .memory => World.onMemory (Memory.read key)
  | .folder root => World.onDisk (Disk.readRecord root key)
  | .bucket name stem => World.onBucket (Bucket.readRecord name stem key)
  | .database url table => World.onDatabase (Database.readRecord url table key)

/-- Stores a record. -/
def write (store : RecordStore) (key : String) (value : Json) : Run World Unit :=
  match store with
  | .memory => World.onMemory (Memory.write key value)
  | .folder root => World.onDisk (Disk.writeRecord root key value)
  | .bucket name stem => World.onBucket (Bucket.writeRecord name stem key value)
  | .database url table => World.onDatabase (Database.writeRecord url table key value)

end RecordStore

end MarketSignal
