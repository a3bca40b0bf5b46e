/-
A draft is a working copy of a book. New entries get keys made from the time, and a draft never
hands out a key twice: it remembers every key it has issued and every key it was opened with, also
after the entry is gone.
-/
import MarketSignal.Scenario.Basic
import MarketSignal.Journal

namespace MarketSignal

/-- The readings that a clock will show, in seconds. The last one is shown for ever. -/
structure Clock where
  upcoming : List Json
  last : Json

namespace Clock

/-- A clock that shows the given readings, or a fixed time if there are none. -/
def ofReadings : List Json → Clock
  | [] => ⟨[], .float 1700000000⟩
  | [reading] => ⟨[], reading⟩
  | reading :: rest =>
    let later := ofReadings rest
    ⟨reading :: later.upcoming, later.last⟩

/-- What a clock shows, and the clock afterwards. -/
def read (clock : Clock) : Json × Clock :=
  match clock.upcoming with
  | [] => (clock.last, clock)
  | reading :: rest => (reading, { clock with upcoming := rest })

/-- Whole milliseconds of a reading in seconds. -/
def milliseconds (reading : Json) : Except Fault Int :=
  match reading with
  | .int seconds => .ok (seconds * 1000)
  | .bool value => .ok (if value then 1000 else 0)
  | .float seconds =>
    let scaled := seconds * 1000
    match truncated? scaled with
    | some whole => .ok whole
    | none => .error (if isNotANumber scaled then .notNumber else .tooLarge)
  | .str _ => .error .notNumber
  | _ => .error .wrongKind

end Clock

/-- A working copy of a book, the keys that may not be issued any more, and the clock. -/
structure Draft where
  book : Book
  reserved : List String
  clock : Clock

namespace Draft

/-- All keys of a book: identities of scenarios, and keys of conditions and outcomes. -/
def keysOf (book : Book) : List String :=
  Table.names book ++
    (Table.values book).flatMap fun scenario =>
      scenario.conditions.names ++ scenario.outcomes.names

/-- A draft that starts from a book. -/
def openOn (book : Book) (clock : Clock) : Draft := ⟨book, keysOf book, clock⟩

/-- The key that a prefix and a number make. -/
def keyOf (stem : String) (stamp : Int) : String :=
  stem ++ "_" ++ String.ofList (digitsOfInt stamp)

/-- The first number, counting up from the given one, that makes a key which is not reserved. Among
one more numbers than there are reserved keys one is always free. -/
def freeStamp (reserved : List String) (stem : String) (stamp : Int) : Int :=
  let candidates := (List.range (reserved.length + 1)).map fun (step : Nat) => stamp + step
  (candidates.find? fun candidate => !reserved.contains (keyOf stem candidate)).getD stamp

/-- Issues a new key that starts with the given word. A number that is too long to be written is
refused, whether the clock shows it or counting reaches it. -/
def issueKey (stem : String) : Run Draft String := do
  let draft ← get
  let (reading, clock) := draft.clock.read
  set { draft with clock := clock }
  let stamp ← Run.ofExcept (Clock.milliseconds reading)
  let free := freeStamp draft.reserved stem stamp
  if exceedsDigitLimit stamp || exceedsDigitLimit free then throw .longNumber
  let key := keyOf stem free
  modify fun draft => { draft with reserved := key :: draft.reserved }
  return key

end Draft

end MarketSignal
