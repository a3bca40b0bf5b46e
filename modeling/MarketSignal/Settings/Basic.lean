/-
The settings of the program. Each setting has a name and a default. A layer is a table from names
to values; applying it sets each named setting and leaves the others as they are. A layer with a
name that is no setting is refused as a whole, and so is a layer with a value that its setting
cannot take.
-/
import MarketSignal.Journal
import MarketSignal.Number.Numeral
import MarketSignal.Text.LetterCase
import MarketSignal.Text.Pieces

namespace MarketSignal

/-- The kinds of record stores that can be chosen. -/
inductive StoreKind where
  | folder
  | bucket
  | database
  | none
deriving DecidableEq, Repr

namespace StoreKind

/-- The name by which a kind is chosen. -/
def name : StoreKind → String
  | .folder => "local"
  | .bucket => "gcs"
  | .database => "postgres"
  | .none => "none"

/-- All kinds. -/
def all : List StoreKind := [.folder, .bucket, .database, .none]

/-- The kind with the given name. -/
def ofName? (name : String) : Option StoreKind := all.find? fun kind => kind.name == name

theorem ofName?_name (kind : StoreKind) : ofName? kind.name = some kind := by
  cases kind <;> decide

end StoreKind

/-- The levels that the journal can be limited to. -/
def Level.all : List Level := [.debug, .info, .warning, .error]

/-- The level with the given name. -/
def Level.ofName? (name : String) : Option Level := Level.all.find? fun level => level.name == name

theorem Level.ofName?_name (level : Level) : Level.ofName? level.name = some level := by
  cases level <;> decide

/-- The settings. -/
structure Settings where
  store : StoreKind
  dataFolder : Option String
  bucket : Option String
  stem : String
  databaseUrl : Option String
  seedSource : String
  outboxTarget : Option String
  timeout : Float
  retries : Int
  markets : List String
  level : Level
  writesJson : Bool

/-- The names of the settings. -/
inductive Setting where
  | store
  | dataFolder
  | bucket
  | stem
  | databaseUrl
  | seedSource
  | outboxTarget
  | timeout
  | retries
  | markets
  | level
  | writesJson
deriving DecidableEq, Repr

namespace Setting

/-- The name of a setting in files, in the environment and in requests. -/
def name : Setting → String
  | .store => "primary_store"
  | .dataFolder => "data_dir"
  | .bucket => "gcs_bucket"
  | .stem => "gcs_prefix"
  | .databaseUrl => "database_url"
  | .seedSource => "bootstrap_source"
  | .outboxTarget => "sink_url"
  | .timeout => "request_timeout"
  | .retries => "sink_max_retries"
  | .markets => "markets"
  | .level => "log_level"
  | .writesJson => "log_json"

/-- All settings. -/
def all : List Setting :=
  [.store, .dataFolder, .bucket, .stem, .databaseUrl, .seedSource, .outboxTarget, .timeout,
    .retries, .markets, .level, .writesJson]

/-- The setting with the given name. -/
def ofName? (name : String) : Option Setting := all.find? fun setting => setting.name == name

theorem ofName?_name (setting : Setting) : ofName? setting.name = some setting := by
  cases setting <;> decide

end Setting

namespace Settings

/-- The settings where nothing is said. -/
def default : Settings where
  store := .folder
  dataFolder := none
  bucket := none
  stem := "scenariosignal"
  databaseUrl := none
  seedSource := "package:scenarios.json"
  outboxTarget := none
  timeout := 10
  retries := 2
  markets := ["gold", "oil", "dj"]
  level := .info
  writesJson := true

/-! ### Settings as a layer -/

/-- The value of a setting, as a layer would give it. -/
def value (settings : Settings) : Setting → Json
  | .store => .str settings.store.name
  | .dataFolder => (settings.dataFolder.map Json.str).getD .null
  | .bucket => (settings.bucket.map Json.str).getD .null
  | .stem => .str settings.stem
  | .databaseUrl => (settings.databaseUrl.map Json.str).getD .null
  | .seedSource => .str settings.seedSource
  | .outboxTarget => (settings.outboxTarget.map Json.str).getD .null
  | .timeout => .float settings.timeout
  | .retries => .int settings.retries
  | .markets => .arr (settings.markets.map .str)
  | .level => .str settings.level.name
  | .writesJson => .bool settings.writesJson

/-- The layer of all settings. -/
def asLayer (settings : Settings) : Table Json :=
  Table.ofEntries (Setting.all.map fun setting => (setting.name, settings.value setting))

/-! ### Values -/

/-- The fault that a value is not the number that a setting needs. The value is shown. -/
def wrongNumber {Result : Type} (kind : String) (setting : Setting) (value : Json) :
    Except Fault Result := do
  throw (.setting ("Invalid " ++ kind ++ " for " ++ setting.name ++ ": " ++ (← value.display)))

/-- A truth value. Of the texts only a few mean yes; of the other values those that are not empty
do. -/
def flag (value : Json) : Bool :=
  match value with
  | .str text => ["1", "true", "yes", "on"].contains (Text.smallLetters (Text.trim text))
  | other => other.truthy

/-- A whole number. One with a fraction is cut. -/
def wholeNumber (setting : Setting) (value : Json) : Except Fault Int :=
  let wrong := wrongNumber "int" setting value
  match value with
  | .int whole => .ok whole
  | .bool truth => .ok (if truth then 1 else 0)
  | .float number =>
    match truncated? number with
    | some whole => .ok whole
    | none => if isNotANumber number then wrong else .error .tooLarge
  | .str text =>
    match intOfText? text with
    | some whole => .ok whole
    | none => wrong
  | _ => wrong

/-- A number. -/
def number (setting : Setting) (value : Json) : Except Fault Float :=
  let wrong := wrongNumber "float" setting value
  match value with
  | .int whole =>
    match floatOfInt? whole with
    | some near => .ok near
    | none => .error .tooLarge
  | .bool truth => .ok (if truth then 1 else 0)
  | .float number => .ok number
  | .str text =>
    match floatOfText? text with
    | some number => .ok number
    | none => wrong
  | _ => wrong

/-- A text that may be missing. Null and a text of blanks mean that it is. -/
def optionalText (value : Json) : Except Fault (Option String) := do
  if value.isNull then return none
  let text := Text.trim (← value.display)
  return if text.isEmpty then none else some text

/-- The kind of a record store, in any case. -/
def storeKind (value : Json) : Except Fault StoreKind := do
  let name := Text.smallLetters (Text.trim (← value.display))
  match StoreKind.ofName? name with
  | some kind => return kind
  | none => throw (.setting ("Unsupported primary_store: " ++ name))

/-- A level, in any case. -/
def journalLevel (value : Json) : Except Fault Level := do
  let name := Text.capitals (Text.trim (← value.display))
  match Level.ofName? name with
  | some level => return level
  | none => throw (.setting ("Unsupported log_level: " ++ name))

/-- The items of a list of markets: the parts of a text between commas, the items of a list, or the
names of an object. -/
def marketItems (value : Json) : Except Fault (List Json) :=
  match value with
  | .str text => .ok ((Text.pieces ',' text.toList).map fun piece => .str (String.ofList piece))
  | other => other.elements

/-- The names of markets. Items that are blank do not count, and one at least must be left. -/
def marketNames (value : Json) : Except Fault (List String) := do
  let names ← (← marketItems value).mapM fun item => return Text.trim (← item.display)
  let named := names.filter fun name => !name.isEmpty
  if named.isEmpty then throw (.setting "markets must name at least one market")
  return named

/-! ### Layers -/

/-- Sets one setting. -/
def set (settings : Settings) (setting : Setting) (value : Json) : Except Fault Settings :=
  match setting with
  | .store => return { settings with store := ← storeKind value }
  | .dataFolder => return { settings with dataFolder := ← optionalText value }
  | .bucket => return { settings with bucket := ← optionalText value }
  | .stem => return { settings with stem := ← value.display }
  | .databaseUrl => return { settings with databaseUrl := ← optionalText value }
  | .seedSource => return { settings with seedSource := ← value.display }
  | .outboxTarget => return { settings with outboxTarget := ← optionalText value }
  | .timeout => return { settings with timeout := ← number setting value }
  | .retries => return { settings with retries := ← wholeNumber setting value }
  | .markets => return { settings with markets := ← marketNames value }
  | .level => return { settings with level := ← journalLevel value }
  | .writesJson => return { settings with writesJson := flag value }

/-- The names of a layer that are no settings, in alphabetical order. -/
def unknownNames (layer : Table Json) : List String :=
  (layer.names.filter fun name => (Setting.ofName? name).isNone).mergeSort fun left right =>
    decide (left ≤ right)

/-- Sets the named settings in turn. A name that is no setting is passed over. -/
def setAll (settings : Settings) : List (String × Json) → Except Fault Settings
  | [] => .ok settings
  | (name, value) :: rest =>
    match Setting.ofName? name with
    | some setting => do setAll (← settings.set setting value) rest
    | none => setAll settings rest

/-- Applies a layer. -/
def apply (settings : Settings) (layer : Table Json) : Except Fault Settings :=
  match unknownNames layer with
  | [] => settings.setAll layer.entries
  | unknown =>
    .error (.setting ("Unknown settings keys: " ++ String.intercalate ", " unknown))

end Settings

end MarketSignal
