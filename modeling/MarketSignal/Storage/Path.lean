/-
Paths of files. A path is a starting point and the steps from it. Steps that lead nowhere, empty
ones and single dots, are dropped when a path is read from a text; double dots stay, since where
they lead depends on what is there. Two leading slashes, but not three, are a starting point of
their own.
-/
import MarketSignal.Text.Pieces

namespace MarketSignal

/-- Where a path starts. -/
inductive Anchor where
  /-- The working directory. -/
  | here
  /-- The root. -/
  | root
  /-- The root, written with two slashes. -/
  | doubleRoot
  /-- The folder of the program's project. -/
  | project
  /-- The folder of the installed program. -/
  | package
deriving DecidableEq, Repr

/-- A path. -/
structure Path where
  anchor : Anchor
  steps : List String
deriving DecidableEq, Repr

namespace Path

/-- The steps in a text. -/
def stepsOf (text : String) : List String :=
  ((Text.pieces '/' text.toList).map String.ofList).filter fun step => step != "" && step != "."

/-- The path that a text stands for. -/
def ofText (text : String) : Path :=
  let anchor :=
    match text.toList with
    | '/' :: '/' :: '/' :: _ => Anchor.root
    | '/' :: '/' :: _ => .doubleRoot
    | '/' :: _ => .root
    | _ => .here
  ⟨anchor, stepsOf text⟩

/-- The text of a path. -/
def text (path : Path) : String :=
  let joined := String.intercalate "/" path.steps
  match path.anchor with
  | .here => if path.steps.isEmpty then "." else joined
  | .root => "/" ++ joined
  | .doubleRoot => "//" ++ joined
  | .project => if path.steps.isEmpty then "<repo>" else "<repo>/" ++ joined
  | .package => if path.steps.isEmpty then "<package>" else "<package>/" ++ joined

/-- The path that a text stands for, seen from another path. -/
def child (path : Path) (text : String) : Path :=
  let further := ofText text
  match further.anchor with
  | .here => ⟨path.anchor, path.steps ++ further.steps⟩
  | _ => further

/-- The path without its last step. -/
def parent (path : Path) : Path := ⟨path.anchor, path.steps.dropLast⟩

end Path

end MarketSignal
