/-
This file proves what work on the disk leaves alone. Folders never vanish, so a path that could be
followed can be followed later and leads to the same place. Making folders and temporary files only
adds to the disk; writing and replacing a file change that file and no other.
-/
import MarketSignal.Proofs.Run
import MarketSignal.Proofs.Table
import MarketSignal.Storage.Disk

namespace MarketSignal

namespace Disk

/-! ### Places -/

@[simp] theorem node?_nil (disk : Disk) : disk.node? [] = some .folder := rfl

theorem node?_eq (disk : Disk) (location : Location) (below : location ≠ []) :
    disk.node? location = disk.nodes.get? (key location) := by
  cases location with
  | nil => exact absurd rfl below
  | cons step rest => rfl

theorem node?_put_self (disk : Disk) (location : Location) (node : Node) (below : location ≠ []) :
    (disk.put location node).node? location = some node := by
  rw [node?_eq _ _ below]
  exact Table.get?_put_self _ _ _

theorem node?_put_other (disk : Disk) (location other : Location) (node : Node)
    (apart : key location ≠ key other) :
    (disk.put location node).node? other = disk.node? other := by
  cases other with
  | nil => rfl
  | cons step rest => exact Table.get?_put_other _ _ _ _ apart

/-- Two names in one folder have two keys. -/
theorem key_append_injective (folder : Location) (left right : String)
    (same : key (folder ++ [left]) = key (folder ++ [right])) : left = right := by
  unfold key at same
  by_cases empty : folder = []
  · subst empty
    simpa only [List.nil_append, String.intercalate_singleton] using same
  · rw [String.intercalate_append_of_ne_nil empty (List.cons_ne_nil _ _),
      String.intercalate_append_of_ne_nil empty (List.cons_ne_nil _ _),
      String.intercalate_singleton, String.intercalate_singleton] at same
    exact String.append_right_inj _ |>.mp same

/-! ### Following paths -/

/-- Every folder is still there. -/
def KeepsFolders (before after : Disk) : Prop :=
  ∀ location, before.node? location = some .folder → after.node? location = some .folder

theorem walk_of_keepsFolders (before after : Disk) (keeps : before.KeepsFolders after)
    (folder location : Location) (steps : List String)
    (found : before.walk folder steps = .ok location) : after.walk folder steps = .ok location := by
  fun_induction before.walk folder steps with
  | case1 folder => exact found
  | case2 folder rest inductionHypothesis =>
    rw [walk]
    exact inductionHypothesis found
  | case3 => cases found
  | case4 folder step notUp next notLong =>
    simp only [walk, if_neg notLong]
    exact found
  | case5 folder step rest notUp next notLong isFolder notLast inductionHypothesis =>
    have there : after.node? (folder ++ [step]) = some .folder := keeps next isFolder
    simp only [walk, there, if_neg notLong]
    exact inductionHypothesis found
  | case6 => cases found
  | case7 => cases found

theorem locate_of_keepsFolders (before after : Disk) (keeps : before.KeepsFolders after)
    (path : Path) (location : Location) (found : before.locate path = .ok location) :
    after.locate path = .ok location := by
  unfold locate at found ⊢
  split at found
  case isTrue => cases found
  case isFalse noZero =>
    split at found
    case isTrue => cases found
    case isFalse notLong =>
      rw [if_neg noZero, if_neg notLong]
      split at found
      case h_1 reached isReached =>
        rw [walk_of_keepsFolders before after keeps _ _ _ isReached]
        exact found
      case h_2 => cases found

/-- Where steps lead, if they can be followed at all. -/
def destination (folder : Location) : List String → Location
  | [] => folder
  | ".." :: rest => destination folder.dropLast rest
  | step :: rest => destination (folder ++ [step]) rest

theorem eq_destination_of_walk (disk : Disk) (folder location : Location) (steps : List String)
    (found : disk.walk folder steps = .ok location) : location = destination folder steps := by
  fun_induction disk.walk folder steps with
  | case1 folder => exact (Except.ok.inj found).symm
  | case2 folder rest inductionHypothesis =>
    rw [destination]
    exact inductionHypothesis found
  | case3 => cases found
  | case4 folder step notUp next notLong =>
    simp only [destination]
    exact (Except.ok.inj found).symm
  | case5 folder step rest notUp next notLong isFolder notLast inductionHypothesis =>
    simp only [destination]
    exact inductionHypothesis found
  | case6 => cases found
  | case7 => cases found

/-- The place of a path does not depend on the disk. -/
theorem eq_destination (disk : Disk) (path : Path) (location : Location)
    (found : disk.locate path = .ok location) :
    location = destination (start path) path.steps := by
  unfold locate at found
  split at found
  case isTrue => cases found
  case isFalse =>
    split at found
    case isTrue => cases found
    case isFalse =>
      split at found
      case h_1 reached isReached =>
        cases found
        exact eq_destination_of_walk disk _ _ _ isReached
      case h_2 => cases found

theorem destination_cons (folder : Location) (step : String) (rest : List String)
    (notUp : step ≠ "..") :
    destination folder (step :: rest) = destination (folder ++ [step]) rest := by
  rw [destination]
  exact notUp

theorem destination_append (folder : Location) (steps more : List String) :
    destination folder (steps ++ more) = destination (destination folder steps) more := by
  fun_induction destination folder steps with
  | case1 folder => rfl
  | case2 folder rest inductionHypothesis =>
    rw [List.cons_append, destination]
    exact inductionHypothesis
  | case3 folder step rest notUp inductionHypothesis =>
    simp only [List.cons_append, destination]
    exact inductionHypothesis

/-- Steps that do not go up add to the place. -/
theorem destination_down (folder : Location) (names : List String) (down : ".." ∉ names) :
    destination folder names = folder ++ names := by
  induction names generalizing folder with
  | nil => exact (List.append_nil folder).symm
  | cons name rest inductionHypothesis =>
    rw [List.mem_cons, not_or] at down
    rw [destination_cons folder name rest (Ne.symm down.1), inductionHypothesis _ down.2,
      List.append_assoc, List.singleton_append]

theorem destination_concat (folder : Location) (steps : List String) (last : String)
    (notUp : last ≠ "..") :
    destination folder (steps ++ [last]) = destination folder steps ++ [last] := by
  rw [destination_append, destination_down _ _ (List.mem_singleton.not.mpr notUp.symm)]

/-! ### What work adds and what it changes -/

/-- Nothing on the disk is lost or changed. -/
def Extends (before after : Disk) : Prop :=
  ∀ location node, before.node? location = some node → after.node? location = some node

theorem Extends.refl (disk : Disk) : disk.Extends disk := fun _ _ here => here

theorem Extends.trans {first second third : Disk} (left : first.Extends second)
    (right : second.Extends third) : first.Extends third :=
  fun location node here => right location node (left location node here)

theorem Extends.keepsFolders {before after : Disk} (grows : before.Extends after) :
    before.KeepsFolders after :=
  fun location here => grows location .folder here

/-- Places with different things at them have different keys. -/
theorem key_ne (disk : Disk) (left right : Location) (leftBelow : left ≠ [])
    (rightBelow : right ≠ []) (differ : disk.node? left ≠ disk.node? right) :
    key left ≠ key right := by
  intro same
  rw [node?_eq disk left leftBelow, node?_eq disk right rightBelow, same] at differ
  exact differ rfl

theorem below_of_ne_folder (disk : Disk) (location : Location)
    (noFolder : disk.node? location ≠ some .folder) : location ≠ [] := by
  rintro rfl
  exact noFolder rfl

/-- What is put at a place leaves alone whatever differs from what was there. -/
theorem node?_put_of_differ (disk : Disk) (location other : Location) (node : Node)
    (noFolder : disk.node? location ≠ some .folder)
    (differ : disk.node? location ≠ disk.node? other) :
    (disk.put location node).node? other = disk.node? other := by
  cases other with
  | nil => rfl
  | cons step rest =>
    exact node?_put_other disk location _ node (key_ne disk location _
      (below_of_ne_folder disk location noFolder) (List.cons_ne_nil _ _) differ)

/-- What is put where nothing was does no harm. -/
theorem extends_put (disk : Disk) (location : Location) (node : Node)
    (free : disk.node? location = none) : disk.Extends (disk.put location node) := by
  intro other held here
  rw [node?_put_of_differ disk location other node (by simp [free]) (by simp [free, here])]
  exact here

/-- What is put in the place of a file harms no folder. -/
theorem keepsFolders_put (disk : Disk) (location : Location) (node : Node)
    (noFolder : disk.node? location ≠ some .folder) :
    disk.KeepsFolders (disk.put location node) := by
  intro other here
  rw [node?_put_of_differ disk location other node noFolder (by rwa [here])]
  exact here

/-- A file moved to another place. -/
def moved (disk : Disk) (origin location : Location) (node : Node) : Disk :=
  { disk with nodes := disk.nodes.erase (key origin) }.put location node

theorem node?_moved_other (disk : Disk) (origin location other : Location) (node : Node)
    (fromElsewhere : key origin ≠ key other) (toElsewhere : key location ≠ key other) :
    (disk.moved origin location node).node? other = disk.node? other := by
  rw [moved, node?_put_other _ location other node toElsewhere]
  cases other with
  | nil => rfl
  | cons step rest => exact Table.get?_erase_other _ _ _ fromElsewhere

theorem keepsFolders_moved (disk : Disk) (origin location : Location) (node : Node)
    (noFolder : disk.node? origin ≠ some .folder)
    (noFolderThere : disk.node? location ≠ some .folder) :
    disk.KeepsFolders (disk.moved origin location node) := by
  intro other here
  cases other with
  | nil => rfl
  | cons step rest =>
    have apart (place : Location) (noFolder : disk.node? place ≠ some .folder) :
        key place ≠ key (step :: rest) :=
      key_ne disk place _ (below_of_ne_folder disk place noFolder) (List.cons_ne_nil _ _)
        (by rwa [here])
    rw [node?_moved_other disk origin location _ node (apart origin noFolder)
      (apart location noFolderThere)]
    exact here

/-! ### Calls -/

theorem outcome_attempt (call : DiskCall) (path : Path) (disk : Disk) :
    (attempt call path).outcome disk =
      if disk.failing == some call then (.error (.file .device path.text), disk)
      else (.ok (), disk) := by
  unfold attempt
  rw [Run.outcome_bind, Run.outcome_get]
  show Run.outcome (if disk.failing == some call then _ else _) disk = _
  split <;> rfl

/-- A call that starts with an attempt fails with the disk as it is, or goes on. -/
theorem outcome_attempt_bind {Result : Type} (call : DiskCall) (path : Path)
    (next : Unit → Run Disk Result) (disk : Disk) :
    (disk.failing == some call) = true ∧ (attempt call path >>= next).outcome disk =
        (.error (.file .device path.text), disk) ∨
      (disk.failing == some call) = false ∧
        (attempt call path >>= next).outcome disk = (next ()).outcome disk := by
  rw [Run.outcome_bind, outcome_attempt]
  cases fails : disk.failing == some call
  · exact Or.inr ⟨rfl, rfl⟩
  · exact Or.inl ⟨rfl, rfl⟩

/-- A call on what is at the end of a path fails before it gets there, whatever it is to do there,
or does it. -/
theorem outcome_attempt_locate {Result : Type} (call : DiskCall) (path : Path) (disk : Disk) :
    (∃ fault, ∀ work : Disk → Location → Run Disk Result,
      (attempt call path >>= fun _ => get >>= fun now =>
        Run.ofExcept (now.locate path) >>= work now).outcome disk = (.error fault, disk)) ∨
      ∃ location, disk.locate path = .ok location ∧ ∀ work : Disk → Location → Run Disk Result,
        (attempt call path >>= fun _ => get >>= fun now =>
          Run.ofExcept (now.locate path) >>= work now).outcome disk =
            (work disk location).outcome disk := by
  have goesOn (working : (disk.failing == some call) = false)
      (work : Disk → Location → Run Disk Result) :
      (attempt call path >>= fun _ => get >>= fun now =>
        Run.ofExcept (now.locate path) >>= work now).outcome disk =
          Run.continued (work disk) (disk.locate path, disk) := by
    rw [Run.outcome_bind, outcome_attempt, working, if_neg Bool.false_ne_true, Run.continued,
      Run.outcome_bind, Run.outcome_get, Run.continued, Run.outcome_bind, Run.outcome_ofExcept]
  cases failing : disk.failing == some call with
  | true =>
    refine Or.inl ⟨.file .device path.text, fun work => ?_⟩
    rw [Run.outcome_bind, outcome_attempt, if_pos failing, Run.continued]
  | false =>
    cases found : disk.locate path with
    | error fault => exact Or.inl ⟨fault, fun work => by rw [goesOn failing, found, Run.continued]⟩
    | ok location =>
      exact Or.inr ⟨location, rfl, fun work => by rw [goesOn failing, found, Run.continued]⟩

/-- Making a folder fails or makes it where nothing was. -/
theorem outcome_makeFolder (path : Path) (disk : Disk) :
    (∃ fault, (makeFolder path).outcome disk = (.error fault, disk)) ∨
      ∃ location, disk.locate path = .ok location ∧ disk.node? location = none ∧
        (makeFolder path).outcome disk = (.ok (), disk.put location .folder) := by
  unfold makeFolder
  rcases outcome_attempt_locate .makeFolder path disk with
    ⟨fault, fails⟩ | ⟨location, found, goesOn⟩
  · exact Or.inl ⟨fault, fails _⟩
  · rw [goesOn]
    cases here : disk.node? location with
    | some node => exact Or.inl ⟨_, rfl⟩
    | none => exact Or.inr ⟨location, found, here, rfl⟩

/-- Writing a file fails or puts it where no folder is, and which of the two does not depend on the
bytes. -/
theorem outcome_writeBytes (path : Path) (disk : Disk) :
    (∃ fault, ∀ bytes, (writeBytes path bytes).outcome disk = (.error fault, disk)) ∨
      ∃ location, disk.locate path = .ok location ∧ disk.node? location ≠ some .folder ∧
        ∀ bytes, (writeBytes path bytes).outcome disk =
          (.ok (), disk.put location (.file bytes)) := by
  unfold writeBytes
  rcases outcome_attempt_locate .write path disk with ⟨fault, fails⟩ | ⟨location, found, goesOn⟩
  · exact Or.inl ⟨fault, fun bytes => fails _⟩
  · simp only [goesOn]
    cases here : disk.node? location with
    | none => exact Or.inr ⟨location, found, by simp [here], fun _ => rfl⟩
    | some node =>
      cases node with
      | folder => exact Or.inl ⟨_, fun _ => rfl⟩
      | file old => exact Or.inr ⟨location, found, by simp [here], fun _ => rfl⟩

/-- What it takes to put what is at one path in the place of another. -/
structure CanReplace (disk : Disk) (source target : Path) (origin location : Location)
    (node : Node) : Prop where
  working : (disk.failing == some .replace) = false
  isOrigin : disk.locate source = .ok origin
  isLocation : disk.locate target = .ok location
  held : disk.node? origin = some node
  noFolder : disk.node? location ≠ some .folder

theorem CanReplace.outcome {disk : Disk} {source target : Path} {origin location : Location}
    {node : Node} (can : disk.CanReplace source target origin location node) :
    (replaceFile source target).outcome disk = (.ok (), disk.moved origin location node) := by
  unfold replaceFile
  rcases outcome_attempt_bind .replace target _ disk with ⟨failing, -⟩ | ⟨-, goesOn⟩
  · rw [can.working] at failing
    cases failing
  · rw [goesOn, Run.outcome_bind, Run.outcome_get, Run.continued, Run.outcome_bind,
      Run.outcome_ofExcept, can.isOrigin, Run.continued, Run.outcome_bind, Run.outcome_ofExcept,
      can.isLocation, Run.continued, can.held]
    have noFolder := can.noFolder
    revert noFolder
    obtain _ | ⟨old | _⟩ := disk.node? location
    · exact fun _ => rfl
    · exact fun _ => rfl
    · exact fun isFolder => absurd rfl isFolder

/-- Replacing a file fails or moves one file to where no folder is. -/
theorem outcome_replaceFile (source target : Path) (disk : Disk) :
    (∃ fault, (replaceFile source target).outcome disk = (.error fault, disk)) ∨
      ∃ origin location node, disk.CanReplace source target origin location node := by
  unfold replaceFile
  rcases outcome_attempt_bind .replace target _ disk with ⟨-, fails⟩ | ⟨working, goesOn⟩
  · exact Or.inl ⟨_, fails⟩
  · rw [goesOn, Run.outcome_bind, Run.outcome_get, Run.continued, Run.outcome_bind,
      Run.outcome_ofExcept]
    cases isOrigin : disk.locate source with
    | error fault => exact Or.inl ⟨fault, rfl⟩
    | ok origin =>
      rw [Run.continued, Run.outcome_bind, Run.outcome_ofExcept]
      cases isLocation : disk.locate target with
      | error fault => exact Or.inl ⟨fault, rfl⟩
      | ok location =>
        rw [Run.continued]
        cases held : disk.node? origin with
        | none => exact Or.inl ⟨_, rfl⟩
        | some node =>
          by_cases isFolder : disk.node? location = some .folder
          · rw [isFolder]
            exact Or.inl ⟨_, rfl⟩
          · exact Or.inr ⟨origin, location, node, working, isOrigin, isLocation, held, isFolder⟩

/-- A temporary file is not made, or is made where nothing was. -/
theorem outcome_createTemporaryFrom (folder : Path) (record : String) (tries number : Nat)
    (disk : Disk) :
    (∃ fault, (createTemporaryFrom folder record tries number).outcome disk =
        (.error fault, disk)) ∨
      ∃ path location, (∃ free, path = temporaryPath folder record free) ∧
        disk.locate path = .ok location ∧ disk.node? location = none ∧
        (createTemporaryFrom folder record tries number).outcome disk =
          (.ok path, disk.put location (.file ByteArray.empty)) := by
  induction tries generalizing number with
  | zero => exact Or.inl ⟨_, rfl⟩
  | succ tries inductionHypothesis =>
    unfold createTemporaryFrom
    rcases outcome_attempt_locate .create (temporaryPath folder record number) disk with
      ⟨fault, fails⟩ | ⟨location, found, goesOn⟩
    · exact Or.inl ⟨fault, fails _⟩
    · rw [goesOn]
      cases here : disk.node? location with
      | some node => exact inductionHypothesis (number + 1)
      | none => exact Or.inr ⟨_, location, ⟨number, rfl⟩, found, here, rfl⟩

/-! ### Making folders -/

/-- A place on the way that a path takes. -/
def OnWay (path : Path) (location : Location) : Prop :=
  ∃ steps, steps <+: path.steps ∧ location = destination (start path) steps

/-- The way to what is above leads no further. -/
theorem OnWay.of_parent {path : Path} {location : Location} (onWay : OnWay path.parent location) :
    OnWay path location := by
  obtain ⟨steps, isPrefix, leads⟩ := onWay
  exact ⟨steps, isPrefix.trans (List.dropLast_prefix path.steps), leads⟩

section

variable {kept : Disk → Prop} {path : Path}
  (puts : ∀ disk location, OnWay path location → disk.node? location = none → kept disk →
    kept (disk.put location .folder))

include puts

theorem keeps_makeFolder : (makeFolder path).Keeps kept := by
  intro disk holds
  rcases outcome_makeFolder path disk with ⟨fault, fails⟩ | ⟨location, found, free, made⟩
  · rw [fails]
    exact holds
  · rw [made]
    exact puts disk location ⟨path.steps, List.prefix_rfl, eq_destination disk path location found⟩
      free holds

theorem keeps_makeFolderOr (ifAbsent : Fault → Run Disk Unit)
    (keeps : ∀ fault, (ifAbsent fault).Keeps kept) : (makeFolderOr path ifAbsent).Keeps kept := by
  refine Run.keeps_tryCatch (keeps_makeFolder puts) fun fault => ?_
  split
  · exact keeps _
  · refine Run.keeps_bind Run.keeps_get fun disk => ?_
    split
    · exact Run.keeps_pure _
    · exact Run.keeps_throw _
  · exact Run.keeps_throw _

omit puts in
theorem keeps_makeFoldersUpTo (height : Nat) (path : Path)
    (puts : ∀ disk location, OnWay path location → disk.node? location = none → kept disk →
      kept (disk.put location .folder)) : (makeFoldersUpTo height path).Keeps kept := by
  induction height generalizing path with
  | zero => exact keeps_makeFolderOr puts _ fun fault => Run.keeps_throw fault
  | succ height inductionHypothesis =>
    refine keeps_makeFolderOr puts _ fun fault => ?_
    have above : (makeFoldersUpTo height path.parent >>= fun _ =>
        makeFolderOr path fun fault => throw fault).Keeps kept :=
      Run.keeps_bind
        (inductionHypothesis path.parent fun disk location onWay =>
          puts disk location onWay.of_parent)
        fun _ => keeps_makeFolderOr puts _ fun fault => Run.keeps_throw fault
    dsimp only
    split
    · exact Run.keeps_bind (Run.keeps_throw _) fun _ => above
    · exact above

/-- Making folders keeps what putting a folder where nothing was, on the way to them, keeps. -/
theorem keeps_makeFolders : (makeFolders path).Keeps kept := keeps_makeFoldersUpTo _ path puts

end

/-- Where a folder cannot be made for another reason than that one above it is missing, none is made
at all; this is a failure unless the folder is there. -/
theorem outcome_makeFolders_fails (path : Path) (disk : Disk) {fault : Fault}
    (fails : (makeFolder path).outcome disk = (.error fault, disk))
    (present : ∀ text, fault ≠ .file .absent text) :
    (makeFolders path).outcome disk =
      (if fault.isFile && disk.hasFolder path then .ok () else .error fault, disk) := by
  have orElse (ifAbsent : Fault → Run Disk Unit) :
      (makeFolderOr path ifAbsent).outcome disk =
        (if fault.isFile && disk.hasFolder path then .ok () else .error fault, disk) := by
    rw [makeFolderOr, Run.outcome_tryCatch, fails, Run.handled]
    cases fault
    case file trouble text =>
      cases trouble
      case absent => exact absurd rfl (present text)
      all_goals
        dsimp only
        rw [Run.outcome_bind, Run.outcome_get, Run.continued]
        cases disk.hasFolder path <;> rfl
    all_goals rfl
  unfold makeFolders
  cases path.steps.length <;> exact orElse _

/-- Making folders loses nothing. -/
theorem extends_makeFolders (path : Path) (disk : Disk) :
    disk.Extends ((makeFolders path).outcome disk).2 := by
  have puts (grown : Disk) (location : Location) (_ : OnWay path location)
      (free : grown.node? location = none) (grows : disk.Extends grown) :
      disk.Extends (grown.put location .folder) :=
    grows.trans (extends_put grown location .folder free)
  exact keeps_makeFolders puts disk (Extends.refl disk)

end Disk

end MarketSignal
