/-
Moving books between drafts and libraries. An empty draft can be filled from a library; one with
content stays as it is. Saving hands the book to the library and answers the text of its backup;
strict saving refuses a book with issues before the library hears of it.
-/
import MarketSignal.Draft.Edit
import MarketSignal.Scenario.Lint
import MarketSignal.Signal.Basic
import MarketSignal.Storage.Library

namespace MarketSignal

namespace Draft

/-- Fills an empty draft from a library, and answers whether it did. Only the identities of the
scenarios become reserved. -/
def load (draft : Draft) (library : Library) : Run World (Bool × Draft) := do
  if !Table.isEmpty draft.book then return (false, draft)
  let book ← library.load
  return (true, { draft with book := book, reserved := Table.names book ++ draft.reserved })

/-- Saves the book of a draft and answers the text of its backup. -/
def save (draft : Draft) (library : Library) (strict : Bool) : Run World String := do
  if strict then
    let issues ← Run.ofExcept draft.book.issues
    if !issues.isEmpty then throw (.malformed "$" (String.intercalate "; " issues))
  library.save draft.book
  World.note .info
    ("Saved " ++ String.ofList (digitsOfNat (Table.size draft.book)) ++ " scenarios from draft.")
  Run.ofExcept draft.book.backupText

/-- Scores answers against a scenario of the draft. -/
def evaluate (draft : Draft) (id answers : Json) : Run World Signal := do
  let found ← Run.ofExcept (Table.lookUp draft.book id)
  World.inJournal
    (MarketSignal.evaluate (Subject.ofOption (found.map Prod.snd)) (.plain answers))

end Draft

end MarketSignal
