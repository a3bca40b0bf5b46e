/-
From documents to books. A value must first satisfy the grammar and is read then; what the grammar
lets through can be read except for whole numbers that do not fit.
-/
import MarketSignal.Document.Grammar
import MarketSignal.Scenario.Reading
import MarketSignal.Scenario.Writing

namespace MarketSignal

/-- Reads the scenarios of a document, in its order. -/
def Book.ofDocument (document : Json) : Except Fault Book := do
  checkDocument grammarName document
  let members ← objectMembers (document.member "scenarios")
  readMembers Scenario.read members

/-- Reads the scenarios of a document without asking the grammar first. -/
def Book.ofUnchecked (document : Json) : Except Fault Book := do
  let members ← objectMembers (document.member "scenarios")
  readMembers Scenario.read members

/-- The document of a bare object of scenarios, as it is stored. -/
def documentOf (scenarios : Json) : Json := .obj [("scenarios", scenarios)]

/-! ### Backups -/

/-- The document that holds a whole book, with its version. -/
def Book.backup (book : Book) : Json :=
  .obj [("version", .str documentVersion), ("scenarios", book.toJson)]

/-- The text of a backup. -/
def Book.backupText (book : Book) : Except Fault String := book.backup.writePage

/-- A document is restored only if it has no version or the version that backups are written
with. -/
def checkVersion (document : Json) : Except Fault Unit :=
  match document with
  | .obj members =>
    match Entries.get? members "version" with
    | some version =>
      if version.same (.str documentVersion) then .ok ()
      else do throw (.malformed "$.version" ("Unsupported export version: " ++ (← version.spell)))
    | none => .ok ()
  | _ => .ok ()

/-- Restores a book from the text of a backup. -/
def Book.restore (text : String) : Except Fault Book := do
  let document ←
    match Json.read text with
    | .ok document => pure document
    | .error (.malformed complaint _ _ _) =>
      throw (.malformed "$" ("Invalid JSON: " ++ complaint.message))
    | .error misread => throw (.misread misread)
  checkVersion document
  Book.ofDocument document

end MarketSignal
