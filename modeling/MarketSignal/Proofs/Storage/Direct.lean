/-
This file says how records are read when the folder of the store had to be made first. Where the way
to the folder goes straight down once it has come to where nothing is, the records in the folder are
missing before and, unless one is stored, still missing afterwards, however many of the folders were
made. So storing a record is not noticed when another one is read, and neither is a failed attempt
when the record itself is read, whether or not the folder is there.

A way that comes back up from a folder that is still to be made is another matter: making that
folder opens the way.
-/
import MarketSignal.Proofs.Storage.Persistence
import MarketSignal.Proofs.Storage.Reading

namespace MarketSignal

namespace Disk

/-! ### Disks in good order -/

/-- The folders where paths start are there, and whatever else is there lies in a folder. -/
structure Rooted (disk : Disk) : Prop where
  starts : ∀ path, disk.node? (start path) = some .folder
  parents : ∀ location name node, disk.node? (location ++ [name]) = some node →
    disk.node? location = some .folder

/-- So it is before any work. -/
theorem rooted_fresh : fresh.Rooted := by
  refine ⟨fun path => ?_, fun location name node held => ?_⟩
  · unfold start
    cases path.anchor <;> rfl
  · by_cases below : location = []
    · rw [below]
      rfl
    -- No other place has anything in it, since its key would hold a slash.
    have slash : '/' ∈ (key (location ++ [name])).toList := by
      rw [key, String.intercalate_append_of_ne_nil below (List.cons_ne_nil _ _),
        String.toList_append, String.toList_append]
      exact List.mem_append_left _ (List.mem_append_right _ (List.mem_singleton.mpr rfl))
    rw [node?_eq fresh _ (List.append_ne_nil_of_right_ne_nil _ (List.cons_ne_nil _ _)),
      ← Table.mem_entries] at held
    have clean : ∀ entry ∈ fresh.nodes.entries, '/' ∉ entry.1.toList := by decide
    exact absurd slash (clean _ held)

/-- The folder that holds a folder is there. -/
theorem Rooted.above {disk : Disk} (rooted : disk.Rooted) {location : Location}
    (isFolder : disk.node? location = some .folder) :
    disk.node? location.dropLast = some .folder := by
  rcases List.eq_nil_or_concat location with rfl | ⟨above, name, rfl⟩
  · rfl
  · rw [List.concat_eq_append] at isFolder ⊢
    rw [List.dropLast_concat]
    exact rooted.parents above name _ isFolder

/-- Beyond where nothing is there is nothing. -/
theorem Rooted.nothing_beyond {disk : Disk} (rooted : disk.Rooted) {location : Location}
    {name : String} (nothing : disk.node? (location ++ [name]) = none) (more : List String) :
    disk.node? (location ++ name :: more) = none := by
  induction more using List.reverseRecOn with
  | nil => exact nothing
  | append_singleton before last inductionHypothesis =>
    have split : location ++ name :: (before ++ [last]) =
        (location ++ name :: before) ++ [last] := by
      simp only [List.append_assoc, List.cons_append]
    rw [split]
    cases held : disk.node? ((location ++ name :: before) ++ [last]) with
    | none => rfl
    | some node => cases inductionHypothesis.symm.trans (rooted.parents _ last node held)

/-! ### Where a way comes to nothing -/

/-- Where a way comes to nothing: the last folder on it, the name that leads to nothing there, and
the steps beyond that name. -/
def missing? (disk : Disk) (folder : Location) :
    List String → Option (Location × String × List String)
  | [] => none
  | ".." :: rest => missing? disk folder.dropLast rest
  | step :: rest =>
    if nameLimit < step.utf8ByteSize then none
    else
      match disk.node? (folder ++ [step]) with
      | some .folder => missing? disk (folder ++ [step]) rest
      | some (.file _) => none
      | none => some (folder, step, rest)

/-- A step leads down, to a name of a proper length. -/
def LeadsDown (step : String) : Prop := step ≠ ".." ∧ step.utf8ByteSize ≤ nameLimit

/-- If the way along a path comes to where nothing is, it leads down from there. -/
def Direct (disk : Disk) (path : Path) : Prop :=
  ∀ folder step beyond, disk.missing? (start path) path.steps = some (folder, step, beyond) →
    ∀ name ∈ beyond, LeadsDown name

/-- Where a way comes to nothing, as walking goes. -/
structure ComesToNothing (disk : Disk) (folder : Location) (before : List String)
    (last : Location) (step : String) : Prop where
  walks : disk.walk folder before = .ok last
  isFolder : disk.node? last = some .folder
  leadsDown : LeadsDown step
  nothing : disk.node? (last ++ [step]) = none

theorem exists_of_missing {disk : Disk} (rooted : disk.Rooted) {folder last : Location}
    {steps beyond : List String} {step : String} (isFolder : disk.node? folder = some .folder)
    (isMissing : disk.missing? folder steps = some (last, step, beyond)) :
    ∃ before, steps = before ++ step :: beyond ∧
      disk.ComesToNothing folder before last step := by
  fun_induction disk.missing? folder steps with
  | case1 => cases isMissing
  | case2 folder rest inductionHypothesis =>
    obtain ⟨before, rfl, comes⟩ := inductionHypothesis (rooted.above isFolder) isMissing
    refine ⟨".." :: before, rfl, ?_, comes.isFolder, comes.leadsDown, comes.nothing⟩
    rw [walk]
    exact comes.walks
  | case3 => cases isMissing
  | case4 folder next rest notUp notLong isNext inductionHypothesis =>
    obtain ⟨before, rfl, comes⟩ := inductionHypothesis isNext isMissing
    refine ⟨next :: before, rfl, ?_, comes.isFolder, comes.leadsDown, comes.nothing⟩
    rw [walk_folder disk folder next before notUp notLong isNext]
    exact comes.walks
  | case5 => cases isMissing
  | case6 folder next rest notUp notLong nothing =>
    cases isMissing
    exact ⟨[], rfl, ⟨rfl, isFolder, ⟨notUp, not_lt.mp notLong⟩, nothing⟩⟩

/-- A way that does not come to nothing leads to a folder or a file, or is blocked. -/
theorem walk_of_not_missing {disk : Disk} (rooted : disk.Rooted) {folder : Location}
    {steps : List String} (isFolder : disk.node? folder = some .folder)
    (complete : disk.missing? folder steps = none) :
    (∃ location node, disk.walk folder steps = .ok location ∧ disk.node? location = some node) ∨
      ∃ trouble, disk.walk folder steps = .error trouble ∧ trouble ≠ .absent := by
  fun_induction disk.missing? folder steps with
  | case1 folder => exact Or.inl ⟨folder, _, rfl, isFolder⟩
  | case2 folder rest inductionHypothesis =>
    rw [walk]
    exact inductionHypothesis (rooted.above isFolder) complete
  | case3 folder step rest notUp isLong =>
    rw [walk_down disk folder step rest notUp, if_pos isLong]
    exact Or.inr ⟨.nameTooLong, rfl, by decide⟩
  | case4 folder step rest notUp notLong isNext inductionHypothesis =>
    rw [walk_folder disk folder step rest notUp notLong isNext]
    exact inductionHypothesis isNext complete
  | case5 folder step rest notUp notLong bytes isFile =>
    rw [walk_down disk folder step rest notUp, if_neg notLong, isFile]
    cases rest with
    | nil => exact Or.inl ⟨_, _, rfl, isFile⟩
    | cons => exact Or.inr ⟨.notFolder, rfl, by decide⟩
  | case6 => cases complete

/-! ### Making folders where the way is blocked -/

/-- Where the way to a folder does not come to nothing, and yet the folder is not there, it is not
made. -/
theorem outcome_makeFolders_of_not_missing {disk : Disk} (rooted : disk.Rooted) {path : Path}
    (complete : disk.missing? (start path) path.steps = none)
    (noFolder : disk.hasFolder path = false) :
    ∃ fault, (makeFolders path).outcome disk = (.error fault, disk) := by
  suffices refused : ∃ fault, (makeFolder path).outcome disk = (.error fault, disk) ∧
      ∀ text, fault ≠ .file .absent text by
    obtain ⟨fault, fails, present⟩ := refused
    refine ⟨fault, ?_⟩
    rw [outcome_makeFolders_fails path disk fails present, noFolder, Bool.and_false,
      if_neg Bool.false_ne_true]
  have other {trouble : FileTrouble} (present : trouble ≠ .absent) (text : String) :
      Fault.file trouble path.text ≠ .file .absent text :=
    fun same => present (Fault.file.inj same).1
  unfold makeFolder
  rcases outcome_attempt_bind .makeFolder path _ disk with ⟨-, fails⟩ | ⟨-, goesOn⟩
  · exact ⟨_, fails, other (by decide)⟩
  rw [goesOn, Run.outcome_bind, Run.outcome_get, Run.continued, Run.outcome_bind,
    Run.outcome_ofExcept]
  have ways := walk_of_not_missing rooted (rooted.starts path) complete
  cases located : disk.locate path with
  | error fault =>
    refine ⟨fault, rfl, ?_⟩
    rintro text rfl
    unfold locate at located
    split at located
    · cases located
    · split at located
      · cases located
      · rcases ways with ⟨location, node, found, -⟩ | ⟨trouble, blocked, present⟩
        · rw [found] at located
          cases located
        · rw [blocked] at located
          cases located
          exact present rfl
  | ok location =>
    rcases ways with ⟨place, node, found, held⟩ | ⟨trouble, blocked, -⟩
    · cases (walk_of_locate disk path location located).symm.trans found
      rw [Run.continued, held]
      exact ⟨_, rfl, other (by decide)⟩
    · cases (walk_of_locate disk path location located).symm.trans blocked

/-! ### Making the folders that are missing -/

theorem key_append_ne (location more : Location) (below : location ≠ []) (further : more ≠ []) :
    key (location ++ more) ≠ key location := by
  intro same
  have longer : (key location).length < (key (location ++ more)).length := by
    unfold key
    rw [String.intercalate_append_of_ne_nil below further, String.length_append,
      String.length_append]
    have : "/".length = 1 := rfl
    omega
  rw [same] at longer
  exact lt_irrefl _ longer

/-- From a folder, it takes a first step to get to where nothing is. -/
theorem exists_cons_of_free {disk : Disk} {folder : Location} {first : String}
    {rest made : List String} (isFolder : disk.node? folder = some .folder)
    (onWay : made <+: first :: rest) (free : disk.node? (destination folder made) = none) :
    ∃ more, made = first :: more ∧ more <+: rest := by
  rcases List.prefix_cons_iff.mp onWay with rfl | further
  · cases free.symm.trans isFolder
  · exact further

/-- What is not there on the way is where nothing is, or beyond. -/
theorem exists_of_free {disk : Disk} {folder last : Location} {steps beyond made : List String}
    {step : String} (rooted : disk.Rooted) (isFolder : disk.node? folder = some .folder)
    (isMissing : disk.missing? folder steps = some (last, step, beyond))
    (down : ∀ name ∈ beyond, LeadsDown name) (onWay : made <+: steps)
    (free : disk.node? (destination folder made) = none) :
    ∃ more, more <+: beyond ∧ destination folder made = last ++ step :: more := by
  fun_induction disk.missing? folder steps generalizing made with
  | case1 => cases isMissing
  | case2 folder rest inductionHypothesis =>
    obtain ⟨more, rfl, further⟩ := exists_cons_of_free isFolder onWay free
    exact inductionHypothesis (rooted.above isFolder) isMissing further free
  | case3 => cases isMissing
  | case4 folder next rest notUp notLong isNext inductionHypothesis =>
    obtain ⟨more, rfl, further⟩ := exists_cons_of_free isFolder onWay free
    rw [destination_cons folder next more notUp] at free ⊢
    exact inductionHypothesis isNext isMissing further free
  | case5 => cases isMissing
  | case6 folder next rest notUp notLong nothing =>
    cases isMissing
    obtain ⟨more, rfl, further⟩ := exists_cons_of_free isFolder onWay free
    refine ⟨more, further, ?_⟩
    refine destination_down _ (step :: more) ?_
    rw [List.mem_cons, not_or]
    exact ⟨fun up => notUp up.symm, fun up => (down ".." (further.subset up)).1 rfl⟩

/-- Making the folders of a way that leads down from where nothing is does not make what lies
further down. -/
theorem get?_makeFolders_below {disk : Disk} {path : Path} {last : Location} {step : String}
    {beyond : List String} (rooted : disk.Rooted)
    (isMissing : disk.missing? (start path) path.steps = some (last, step, beyond))
    (down : ∀ name ∈ beyond, LeadsDown name) (name : String) :
    ((makeFolders path).outcome disk).2.nodes.get? (key (last ++ step :: (beyond ++ [name]))) =
      disk.nodes.get? (key (last ++ step :: (beyond ++ [name]))) := by
  refine get?_makeFolders path disk _ ?_
  rintro location ⟨made, onWay, rfl⟩ free same
  obtain ⟨more, further, leads⟩ :=
    exists_of_free rooted (rooted.starts path) isMissing down onWay free
  obtain ⟨rest, rfl⟩ := further
  have split : last ++ step :: (more ++ rest ++ [name]) =
      (last ++ step :: more) ++ (rest ++ [name]) := by
    simp only [List.append_assoc, List.cons_append]
  rw [leads, split] at same
  exact key_append_ne _ _ (by simp) (by simp) same.symm

/-! ### Asking for what is not there -/

/-- Steps that lead down can be asked for. -/
theorem walk_down_ne (disk : Disk) (folder : Location) (names : List String)
    (down : ∀ name ∈ names, LeadsDown name) : disk.walk folder names ≠ .error .nameTooLong := by
  induction names generalizing folder with
  | nil => nofun
  | cons name rest inductionHypothesis =>
    obtain ⟨notUp, notLong⟩ := down name List.mem_cons_self
    have further := inductionHypothesis (folder ++ [name]) fun other member =>
      down other (List.mem_cons_of_mem _ member)
    rw [walk_down disk folder name rest notUp, if_neg (not_lt.mpr notLong)]
    split
    · nofun
    · exact further
    · nofun
    · nofun

/-- Whether there is something where nothing is depends on the text of the path alone. -/
theorem has_of_nothing (disk : Disk) (path : Path)
    (canAsk : disk.walk (start path) path.steps ≠ .error .nameTooLong)
    (nothing : disk.node? (place path) = none) :
    disk.has path =
      if path.text.toList.contains (Char.ofNat 0) then .ok false
      else if pathLimit < path.text.utf8ByteSize then .error (.file .nameTooLong path.text)
      else .ok false := by
  unfold has locate
  split_ifs
  · rfl
  · rfl
  · cases walked : disk.walk (start path) path.steps with
    | ok location =>
      have isPlace : location = place path := eq_destination_of_walk disk _ _ _ walked
      rw [isPlace]
      dsimp only
      rw [nothing]
      rfl
    | error trouble =>
      cases trouble
      case nameTooLong => exact absurd walked canAsk
      all_goals rfl

/-- Records that are found missing are read alike. -/
theorem readRecord_of_has (root : Path) (key : String) (before after : Disk)
    (same : after.has (recordPath root key) = before.has (recordPath root key))
    (nothing : before.has (recordPath root key) ≠ .ok true) :
    ((readRecord root key).outcome after).1 = ((readRecord root key).outcome before).1 := by
  rw [outcome_readRecord_eq, outcome_readRecord_eq, same]
  cases found : before.has (recordPath root key) with
  | error fault => rfl
  | ok there =>
    cases there with
    | false => rfl
    | true => exact absurd found nothing

/-! ### Reading a record after storing one -/

namespace ComesToNothing

variable {disk : Disk} {folder last : Location} {before : List String} {step : String}
  (comes : disk.ComesToNothing folder before last step) {more : List String}
  (down : ∀ name ∈ more, LeadsDown name)

include comes down

theorem destination_eq :
    destination folder (before ++ step :: more) = last ++ step :: more := by
  rw [destination_append, ← eq_destination_of_walk disk folder last before comes.walks]
  refine destination_down last (step :: more) ?_
  rw [List.mem_cons, not_or]
  exact ⟨comes.leadsDown.1.symm, fun up => (down ".." up).1 rfl⟩

theorem walk_ne {after : Disk} (keeps : disk.KeepsFolders after) :
    after.walk folder (before ++ step :: more) ≠ .error .nameTooLong := by
  rw [walk_append after folder last before _
    (walk_of_keepsFolders disk after keeps folder last before comes.walks)
    (keeps last comes.isFolder)]
  exact walk_down_ne after last (step :: more) (List.forall_mem_cons.mpr ⟨comes.leadsDown, down⟩)

end ComesToNothing

section

variable {disk : Disk} {root : Path} {last : Location} {before beyond : List String}
  {step other : String} (comes : disk.ComesToNothing (start root) before last step)
  (isWay : root.steps = before ++ step :: beyond) (plainOther : PlainKey other)
  (down : ∀ name ∈ beyond ++ [other ++ ".json"], LeadsDown name)

include comes isWay plainOther down

/-- The place of a record whose folder is missing. -/
theorem place_recordPath_beyond :
    place (recordPath root other) = last ++ step :: (beyond ++ [other ++ ".json"]) := by
  rw [place, plainOther.recordPath_eq]
  show destination (start root) (root.steps ++ [other ++ ".json"]) = _
  rw [isWay, List.append_assoc, List.cons_append]
  exact comes.destination_eq down

/-- As long as the record is not there, what is found does not depend on the folders. -/
theorem has_recordPath_beyond {now : Disk} (keeps : disk.KeepsFolders now)
    (nothing : now.node? (place (recordPath root other)) = none) :
    now.has (recordPath root other) =
      if (recordPath root other).text.toList.contains (Char.ofNat 0) then .ok false
      else if pathLimit < (recordPath root other).text.utf8ByteSize then
        .error (.file .nameTooLong (recordPath root other).text)
      else .ok false := by
  refine has_of_nothing now (recordPath root other) ?_ nothing
  rw [plainOther.recordPath_eq]
  show now.walk (start root) (root.steps ++ [other ++ ".json"]) ≠ _
  rw [isWay, List.append_assoc, List.cons_append]
  exact comes.walk_ne down keeps

end

/-- Where the folder of a record is missing, storing a record does not change how another one is
read, and neither does a failed attempt to store the record itself. -/
theorem readRecord_after_making {root : Path} {key other : String} (plain : PlainKey key)
    (plainOther : PlainKey other) (leadsDown : LeadsDown (other ++ ".json")) (value : Json)
    {disk : Disk} (rooted : disk.Rooted) (direct : disk.Direct root)
    {missing : Location × String × List String}
    (isMissing : disk.missing? (start root) root.steps = some missing)
    (spared : key ≠ other ∨ ((writeRecord root key value).outcome disk).1 ≠ .ok ()) :
    ((readRecord root other).outcome ((writeRecord root key value).outcome disk).2).1 =
      ((readRecord root other).outcome disk).1 := by
  obtain ⟨last, step, beyond⟩ := missing
  obtain ⟨before, isWay, comes⟩ := exists_of_missing rooted (rooted.starts root) isMissing
  have downToFolder := direct last step beyond isMissing
  have down : ∀ name ∈ beyond ++ [other ++ ".json"], LeadsDown name :=
    List.forall_mem_append.mpr ⟨downToFolder, List.forall_mem_singleton.mpr leadsDown⟩
  have isPlace := place_recordPath_beyond comes isWay plainOther down
  have made := get?_makeFolders_below rooted isMissing downToFolder (other ++ ".json")
  rw [← isPlace] at made
  have same := get?_writeRecord root key other plain plainOther value disk made spared
  have nothing : disk.node? (place (recordPath root other)) = none := by
    rw [isPlace]
    exact rooted.nothing_beyond comes.nothing _
  have before := has_recordPath_beyond comes isWay plainOther down (fun _ here => here) nothing
  have after := has_recordPath_beyond comes isWay plainOther down
    (keepsFolders_writeRecord root key value disk) ((node?_of_sameNode same).trans nothing)
  refine readRecord_of_has root other disk _ (after.trans before.symm) ?_
  rw [before]
  split_ifs <;> exact fun same => by cases same

/-- Storing a record does not change how another one is read, and a failed attempt does not change
how the record itself is read, whether or not the folder is there. -/
theorem readRecord_spared {root : Path} {key other : String} (plain : PlainKey key)
    (plainOther : PlainKey other) (leadsDown : LeadsDown (other ++ ".json")) (value : Json)
    {disk : Disk} (rooted : disk.Rooted) (direct : disk.Direct root)
    (spared : key ≠ other ∨ ((writeRecord root key value).outcome disk).1 ≠ .ok ()) :
    ((readRecord root other).outcome ((writeRecord root key value).outcome disk).2).1 =
      ((readRecord root other).outcome disk).1 := by
  cases present : disk.hasFolder root with
  | true =>
    have sameFailing : ((writeRecord root key value).outcome disk).2.failing = disk.failing :=
      keepsFailing_writeRecord root key value disk rfl
    have still : { ((writeRecord root key value).outcome disk).2 with failing := disk.failing } =
        ((writeRecord root key value).outcome disk).2 := by
      rw [← sameFailing]
    have spares := readRecord_after_write root key other plain plainOther value disk.failing disk
      present spared
    rw [still] at spares
    exact spares
  | false =>
    cases isMissing : disk.missing? (start root) root.steps with
    | some missing =>
      exact readRecord_after_making plain plainOther leadsDown value rooted direct isMissing spared
    | none =>
      obtain ⟨fault, fails⟩ := outcome_makeFolders_of_not_missing rooted isMissing present
      have unchanged : ((writeRecord root key value).outcome disk).2 = disk := by
        rw [(RecordStore.outcome_writeRecord root key value disk).1,
          storing_eq root key plain value, Run.outcome_bind, fails, Run.continued]
      rw [unchanged]

end Disk

end MarketSignal
