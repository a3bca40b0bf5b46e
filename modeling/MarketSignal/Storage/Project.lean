/-
A folder belongs to the project whose description is nearest above it.
-/
import MarketSignal.Storage.Disk

namespace MarketSignal

namespace Disk

/-- The name of the file that describes a project. -/
def descriptionName : String := "pyproject.toml"

/-- The nearest folder, going up so many steps, with a description in it. The root has none. -/
def projectAbove (disk : Disk) : Nat → Location → Except Fault (Option Location)
  | 0, _ => .ok none
  | height + 1, folder => do
    if folder.isEmpty then return none
    if ← disk.has ⟨.root, folder ++ [descriptionName]⟩ then return some folder
    disk.projectAbove height folder.dropLast

/-- The folder of the project that a path belongs to, or else the working directory. -/
def projectOf (disk : Disk) (path : Path) : Except Fault Location := do
  if path.text.toList.contains (Char.ofNat 0) then throw .zeroInPath
  let folder := settled (start path ++ path.steps)
  return (← disk.projectAbove folder.length folder).getD workingFolder

end Disk

end MarketSignal
