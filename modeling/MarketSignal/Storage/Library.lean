/-
A library keeps the book of scenarios and says which scenario each market is assigned. It has up to
three tiers: a record store, a seed for the first document, and an outbox for documents that no
record store takes.

Loading looks for the book in the record store, then asks the seed, and falls back on the default
book. What the seed supplies is stored if there was no record at all, so a damaged record is never
overwritten. Saving stores the book, or sends it if there is no record store, and fails if neither
works. Without a record store assignments live for the session only.

An assignment is changed by reading all assignments and writing them all back. The two steps are
separate operations here, because changes made at the same time can come between them.
-/
import MarketSignal.Storage.RecordStore
import MarketSignal.Storage.Outbox
import MarketSignal.Document.Book

namespace MarketSignal

/-- The tiers of a library. -/
structure Library where
  primary : Option RecordStore
  seed : Option Seed
  outbox : Option Outbox

/-- The key of the record of the book. -/
def bookKey : String := "tradingScenarios"

/-- The key of the record of the assignments. -/
def assignmentsKey : String := "marketAssignments"

namespace Library

/-! ### Loading -/

/-- What the record store has to say about the book. -/
inductive Stored where
  /-- There is a record, and it is a book. -/
  | book (book : Book)
  /-- There is a record that cannot be used, or reading it failed. -/
  | unusable
  /-- There is no record. -/
  | absent

/-- The record of the book as a value; nothing if reading it failed. -/
def readRecord (store : RecordStore) : Run World (Option Json) :=
  tryCatch (some <$> store.read bookKey) fun fault => do
    if fault.isStorage then
      World.note .warning ("Primary tier read failed: " ++ fault.message)
      return none
    else throw fault

/-- The book in the record store. -/
def readStored (library : Library) : Run World Stored := do
  match library.primary with
  | none => return .absent
  | some store =>
    match ← readRecord store with
    | none => return .unusable
    | some .null => return .absent
    | some record =>
      match Book.ofDocument (documentOf record) with
      | .ok book => return .book book
      | .error fault =>
        if fault.isFormat then
          World.note .warning
            ("Stored scenarios are malformed, ignoring them: " ++ fault.message)
          return .unusable
        else throw fault

/-- The book that the seed supplies; nothing, and a notice, if it fails. -/
def readSeed (library : Library) : Run World (Option Book) := do
  match library.seed with
  | none => return none
  | some seed =>
    tryCatch (do return some (← Run.ofExcept (Book.ofDocument (← seed.fetch)))) fun fault => do
      World.note .error ("Error loading bootstrap scenarios: " ++ fault.message)
      return none

/-- Stores what the seed supplied. A refusal of the store is noted and forgotten. -/
def keepSeed (store : RecordStore) (book : Book) : Run World Unit :=
  tryCatch (store.write bookKey book.toJson) fun fault => do
    if fault.isStorage then
      World.note .warning ("Unable to cache bootstrap scenarios: " ++ fault.message)
    else throw fault

/-- The book of the seed, or the default one. -/
def loadFromSeed (library : Library) (recordAbsent : Bool) : Run World Book := do
  match ← library.readSeed with
  | none =>
    World.note .warning "Falling back to the built-in default scenario."
    return defaultBook
  | some book =>
    match library.primary, recordAbsent with
    | some store, true => keepSeed store book
    | _, _ => pure ()
    return book

/-- Loads the book. -/
def loadBook (library : Library) : Run World Book := do
  match ← library.readStored with
  | .book book => return book
  | .unusable => library.loadFromSeed false
  | .absent => library.loadFromSeed true

/-! ### Saving -/

/-- Saves the book. -/
def saveBook (library : Library) (book : Book) : Run World Unit := do
  match library.primary, library.outbox with
  | some store, _ => store.write bookKey book.toJson
  | none, none => throw (.storage "No storage tier is available for saving scenarios.")
  | none, some outbox =>
    World.note .info
      ("Primary tier unavailable, sending " ++ String.ofList (digitsOfNat (Table.size book)) ++
        " scenarios to sink.")
    outbox.send (documentOf book.toJson)

/-! ### Assignments -/

/-- The assignments in a record. -/
def assignmentsOf (record : Json) : Except Fault (Table String) :=
  match record with
  | .null => .ok Table.empty
  | .obj members => readMembers (fun _ value => value.display) members
  | _ => .error (.malformed "$" "Market assignments must be an object.")

/-- Reads all assignments. -/
def readAssignments (library : Library) : Run World (Table String) := do
  match library.primary with
  | none => return (← get).session
  | some store => Run.ofExcept (assignmentsOf (← store.read assignmentsKey))

/-- Writes all assignments, each as a text. -/
def writeAssignments (library : Library) (assignments : Table Json) : Run World Unit := do
  let clean ← Run.ofExcept (readMembers (fun _ value => value.display) assignments.entries)
  match library.primary with
  | none =>
    World.note .warning
      "Primary tier unavailable, market assignments kept for this session only."
    modify fun world => { world with session := clean }
  | some store => store.write assignmentsKey (.ofTexts clean)

/-! ### Observed operations -/

/-- Observes an operation of the library. -/
def operation {Result : Type} (name : String) (work : Run World Result) : Run World Result :=
  observed World.inJournal ("ScenarioStore." ++ name) work

/-- Whether there is a record store. -/
def hasPrimary (library : Library) : Bool := library.primary.isSome

/-- Loads the book. -/
def load (library : Library) : Run World Book := operation "load_scenarios" library.loadBook

/-- Saves the book. -/
def save (library : Library) (book : Book) : Run World Unit :=
  operation "save_scenarios" (library.saveBook book)

/-- The assignments; none, and a notice, if they cannot be read. -/
def assignments (library : Library) : Run World (Table String) :=
  operation "get_market_assignments" do
    tryCatch library.readAssignments fun fault => do
      if fault.isStorage || fault.isFormat then
        World.note .error ("Error getting market assignments: " ++ fault.message)
        return Table.empty
      else throw fault

/-- Replaces all assignments. -/
def saveAssignments (library : Library) (assignments : Json) : Run World Unit :=
  operation "save_market_assignments" do
    library.writeAssignments (← Run.ofExcept assignments.asObject)

/-- Assigns a scenario to a market and answers all assignments. -/
def assign (library : Library) (market : String) (id : Json) : Run World (Table Json) :=
  operation "assign_scenario_to_market" do
    let changed := ((← library.readAssignments).map Json.str).put market id
    library.writeAssignments changed
    return changed

/-- Takes the scenario from a market and answers all assignments. -/
def unassign (library : Library) (market : String) : Run World (Table Json) :=
  operation "unassign_scenario_from_market" do
    let changed := ((← library.readAssignments).map Json.str).erase market
    library.writeAssignments changed
    return changed

/-- The library at the start of another session: what lived for the session is gone. -/
def newSession : Run World Unit := modify fun world => { world with session := Table.empty }

end Library

end MarketSignal
