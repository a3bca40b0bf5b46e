/-
The journal collects what the program has to say about its work. A notice has a level and a
message. An observed operation writes a notice when it starts and one when it ends, and the latter
says how it ended; the fault that ends it is passed on unchanged.
-/
import MarketSignal.Fault

namespace MarketSignal

/-- How urgent a notice is. -/
inductive Level where
  | debug
  | info
  | warning
  | error
deriving DecidableEq, Repr

/-- The name of a level. -/
def Level.name : Level → String
  | .debug => "DEBUG"
  | .info => "INFO"
  | .warning => "WARNING"
  | .error => "ERROR"

/-- The stage of an observed operation that a notice is about. -/
inductive Stage where
  | start
  | complete
  | failure (fault : Fault)

/-- One entry of the journal. -/
structure Notice where
  level : Level
  message : String
  stage : Option Stage

/-- The entries written so far, the oldest first. -/
abbrev Journal := List Notice

/-- Work on a state that may end in a fault. What was done to the state before a fault stays
done. -/
abbrev Run (State : Type) := ExceptT Fault (StateM State)

namespace Run

variable {State Result : Type}

/-- A result, or a fault, that does not depend on the state. -/
def ofExcept (outcome : Except Fault Result) : Run State Result :=
  match outcome with
  | .ok result => pure result
  | .error fault => throw fault

/-- The outcome of work together with the state it leaves. -/
def outcome (work : Run State Result) (state : State) : Except Fault Result × State :=
  (work.run).run state

end Run

namespace Journal

/-- Writes a notice. -/
def note (level : Level) (message : String) : Run Journal Unit :=
  modify fun journal => journal ++ [⟨level, message, none⟩]

/-- Writes a notice about an operation. -/
def noteStage (level : Level) (message : String) (stage : Stage) : Run Journal Unit :=
  modify fun journal => journal ++ [⟨level, message, some stage⟩]

end Journal

/-- Observes an operation: a notice at its start, and one at its end that tells completion from
failure. Where the notices go is the first argument. -/
def observed {State Result : Type} (inJournal : Run Journal Unit → Run State Unit)
    (name : String) (operation : Run State Result) : Run State Result := do
  inJournal (Journal.noteStage .debug ("Starting " ++ name) .start)
  let result ←
    try operation
    catch fault =>
      inJournal (Journal.noteStage .error ("Failed " ++ name ++ ": " ++ fault.message)
        (.failure fault))
      throw fault
  inJournal (Journal.noteStage .info ("Completed " ++ name) .complete)
  pure result

end MarketSignal
