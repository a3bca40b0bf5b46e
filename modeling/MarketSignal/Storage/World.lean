/-
Everything outside the program that it reads and changes: the disk, exchanges over the web, a
bucket of blobs, a database, records in memory, what lives for a session only, what was handed to a
recipient in memory, and the journal. Work on one of the parts is work on the whole.
-/
import MarketSignal.Storage.Disk
import MarketSignal.Storage.Exchange

namespace MarketSignal

/-! ### Records in memory -/

/-- Records in memory, which may refuse to be read or written. -/
structure Memory where
  records : Table Json
  refusesReads : Bool
  refusesWrites : Bool

/-! ### A bucket of blobs -/

/-- The calls to a bucket. -/
inductive BlobCall where
  | ask
  | download
  | upload
deriving DecidableEq, Repr

/-- Blobs by their full names, the calls so far with the blob that each was about, and the call that
fails. The client for buckets may be missing. -/
structure Bucket where
  installed : Bool
  blobs : Table ByteArray
  calls : List (BlobCall × String × Bool)
  failing : Option BlobCall

/-! ### A database -/

/-- What is said to a database. -/
inductive Statement where
  | connect (url : String)
  | createTable (table : String)
  | selectValue (table key : String)
  | insertValue (table key : String) (value : Json)
  | commit
  | close

/-- The statements that can be made to fail. -/
inductive StatementKind where
  | connect
  | create
  | select
  | insert
deriving DecidableEq, Repr

/-- Values by key, what was said so far, and the kind of statement that fails. The client for
databases may be missing. -/
structure Database where
  installed : Bool
  rows : Table Json
  statements : List Statement
  failing : Option StatementKind

/-! ### The whole -/

/-- Everything outside the program. -/
structure World where
  disk : Disk
  exchange : Exchange
  bucket : Bucket
  database : Database
  memory : Memory
  session : Table String
  received : List Json
  consultations : Nat
  journal : Journal

namespace World

/-- A world in which nothing has happened and no client is installed. -/
def fresh : World where
  disk := Disk.fresh
  exchange := ⟨[], [], []⟩
  bucket := ⟨false, Table.empty, [], none⟩
  database := ⟨false, Table.empty, [], none⟩
  memory := ⟨Table.empty, false, false⟩
  session := Table.empty
  received := []
  consultations := 0
  journal := []

end World

/-- Work on a part of a state as work on the state: the part is looked up before and put back
after, also after a fault. -/
def Run.within {Whole Part Result : Type} (part : Whole → Part) (putBack : Whole → Part → Whole)
    (work : Run Part Result) : Run Whole Result :=
  ExceptT.mk fun whole =>
    let (outcome, changed) := work.outcome (part whole)
    (outcome, putBack whole changed)

namespace World

/-- Work on the disk. -/
def onDisk {Result : Type} (work : Run Disk Result) : Run World Result :=
  Run.within World.disk (fun world disk => { world with disk := disk }) work

/-- Work on exchanges. -/
def onExchange {Result : Type} (work : Run Exchange Result) : Run World Result :=
  Run.within World.exchange (fun world exchange => { world with exchange := exchange }) work

/-- Work on the bucket. -/
def onBucket {Result : Type} (work : Run Bucket Result) : Run World Result :=
  Run.within World.bucket (fun world bucket => { world with bucket := bucket }) work

/-- Work on the database. -/
def onDatabase {Result : Type} (work : Run Database Result) : Run World Result :=
  Run.within World.database (fun world database => { world with database := database }) work

/-- Work on the records in memory. -/
def onMemory {Result : Type} (work : Run Memory Result) : Run World Result :=
  Run.within World.memory (fun world memory => { world with memory := memory }) work

/-- Work on the journal. -/
def inJournal {Result : Type} (work : Run Journal Result) : Run World Result :=
  Run.within World.journal (fun world journal => { world with journal := journal }) work

/-- Counts a consultation of a source that is given outright or out of reach. -/
def consult : Run World Unit :=
  modify fun world => { world with consultations := world.consultations + 1 }

/-- Writes a notice. -/
def note (level : Level) (message : String) : Run World Unit :=
  inJournal (Journal.note level message)

end World

end MarketSignal
