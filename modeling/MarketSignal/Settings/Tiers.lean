/-
From settings to a library: which record store, seed and outbox the settings choose. A bucket and a
database must be named to be chosen.
-/
import MarketSignal.Settings.Layers
import MarketSignal.Storage.Library

namespace MarketSignal

namespace Settings

/-- The folder of the records where no other is named. -/
def defaultDataFolder : Path := ⟨.project, ["storage", "scenarios"]⟩

/-- The folder of the records. -/
def dataPath (settings : Settings) : Path :=
  match settings.dataFolder with
  | some folder => Path.ofText folder
  | none => defaultDataFolder

/-- The table of the records in a database. -/
def recordTable : String := "scenariosignal_records"

/-- The record store. -/
def recordStore (settings : Settings) : Except Fault (Option RecordStore) :=
  match settings.store with
  | .none => .ok none
  | .folder => .ok (some (.folder settings.dataPath))
  | .bucket =>
    match settings.bucket with
    | some bucket =>
      let stem := Text.trimBy (fun c => c == '/') settings.stem.toList
      .ok (some (.bucket bucket (String.ofList stem)))
    | none => .error (.setting "gcs_bucket is required when primary_store=gcs.")
  | .database =>
    match settings.databaseUrl with
    | some url => .ok (some (.database url recordTable))
    | none => .error (.setting "database_url is required when primary_store=postgres.")

/-- The outbox. -/
def outbox (settings : Settings) : Option Outbox :=
  settings.outboxTarget.map fun target =>
    Outbox.ofTarget target (.float settings.timeout) settings.retries

/-- The seed. -/
def seed (settings : Settings) : Seed :=
  Seed.ofSource settings.seedSource (.float settings.timeout)

/-- The library. -/
def library (settings : Settings) : Except Fault Library := do
  return ⟨← settings.recordStore, some settings.seed, settings.outbox⟩

end Settings

end MarketSignal
