/-
This file says what becomes of the files and texts that a command line names. A text that is given
for values and a document that is restored are refused in one line if they are not what they should
be, with a few exceptions that nothing refuses: bytes that are of no text, whole numbers that are
too long to be read, and in a document whole numbers beyond the floating-point numbers. A file that
is to be written is not refused at all; whatever the file system says comes through.
-/
import MarketSignal.CommandLine.Run
import MarketSignal.Proofs.Document.Restoring
import MarketSignal.Proofs.Storage.Stalling

namespace MarketSignal

/-! ### Texts of files -/

namespace Disk

/-- The text of bytes, with one kind of line ends. -/
def textOf (bytes : ByteArray) : Except Fault String :=
  match Text.decode bytes with
  | .ok text => .ok (String.ofList (Text.unifyLineEnds text.toList))
  | .error damage => .error (.undecodable damage)

/-- The text at the end of a path. -/
def textAt (disk : Disk) (path : Path) : Except Fault String :=
  ((readBytes path).outcome disk).1 >>= textOf

/-- The path holds the character zero, or the bytes at its end are of no text. -/
inductive Unintelligible (path : Path) (disk : Disk) : Prop where
  | zero (zero : path.HasZero) (working : disk.failing ≠ some .read)
  | undecodable {bytes : ByteArray} {damage : Text.Damage}
    (isRead : ((readBytes path).outcome disk).1 = .ok bytes)
    (damaged : Text.decode bytes = .error damage)

variable (path : Path) (disk : Disk)

theorem outcome_readText_eq : (readText path).outcome disk = (disk.textAt path, disk) := by
  have keeps : (readBytes path).Keeps fun after => after = disk := keeps_readBytes path
  have same := keeps disk rfl
  unfold readText textAt
  rw [Run.outcome_bind]
  revert same
  obtain ⟨fault | bytes, after⟩ := (readBytes path).outcome disk
  · rintro rfl
    rfl
  · rintro rfl
    dsimp only [Run.continued]
    rw [ok_bind, textOf]
    cases Text.decode bytes <;> rfl

theorem readBytes_hasZero (zero : path.HasZero) :
    ((readBytes path).outcome disk).1 =
      .error (if disk.failing == some .read then .file .device path.text else .zeroInPath) := by
  rw [outcome_readBytes_eq, locate_hasZero disk path zero]
  split <;> rfl

theorem isFile_of_readBytes_clean (clean : ¬ path.HasZero) {fault : Fault}
    (fails : ((readBytes path).outcome disk).1 = .error fault) : fault.isFile = true := by
  rw [outcome_readBytes_eq] at fails
  split at fails
  · cases fails
    rfl
  · cases located : disk.locate path with
    | error other =>
      rw [located] at fails
      cases fails
      exact isFile_of_locate disk path clean fault located
    | ok location =>
      rw [located, ok_bind] at fails
      unfold bytesAt at fails
      split at fails
      · cases fails
      · cases fails
        rfl
      · cases fails
        rfl

/-- A text is not there only because the file system refuses it, unless it is unintelligible. -/
theorem textAt_ends :
    (disk.Unintelligible path →
        ∃ fault, disk.textAt path = .error fault ∧ fault.isFile = false ∧ fault.isOwn = false) ∧
      (¬ disk.Unintelligible path → ∀ fault, disk.textAt path = .error fault →
        fault.isFile = true) := by
  constructor
  · rintro (⟨zero, working⟩ | ⟨isRead, damaged⟩)
    · rw [textAt, readBytes_hasZero path disk zero, if_neg (by simpa using working)]
      exact ⟨_, rfl, rfl, rfl⟩
    · rw [textAt, isRead, ok_bind, textOf, damaged]
      exact ⟨_, rfl, rfl, rfl⟩
  · intro intelligible fault fails
    rw [textAt] at fails
    cases isRead : ((readBytes path).outcome disk).1 with
    | ok bytes =>
      rw [isRead, ok_bind, textOf] at fails
      cases damaged : Text.decode bytes with
      | ok text =>
        rw [damaged] at fails
        cases fails
      | error damage => exact absurd (.undecodable isRead damaged) intelligible
    | error other =>
      rw [isRead] at fails
      cases fails
      by_cases zero : path.HasZero
      · have failing : disk.failing = some .read := by
          by_contra working
          exact intelligible (.zero zero working)
        rw [readBytes_hasZero path disk zero, failing] at isRead
        cases isRead
        rfl
      · exact isFile_of_readBytes_clean path disk zero isRead

end Disk

/-! ### Files to be written -/

/-- The folder of a file cannot be made, or the file cannot be written in it. -/
inductive Disk.Repels (path : Path) (disk : Disk) : Prop where
  | noFolder {fault : Fault} (fails : ((makeFolders path.parent).outcome disk).1 = .error fault)
  | noFile {fault : Fault} (made : ((makeFolders path.parent).outcome disk).1 = .ok ())
    (fails : ∀ bytes, ((writeBytes path bytes).outcome
      ((makeFolders path.parent).outcome disk).2).1 = .error fault)

namespace Disk

variable (path : Path) (disk : Disk)

theorem foreign_makeFolders {fault : Fault}
    (fails : ((makeFolders path).outcome disk).1 = .error fault) : fault.isOwn = false := by
  by_cases zero : path.HasZero
  · rw [outcome_makeFolders_hasZero path zero disk] at fails
    cases fails
    split <;> rfl
  · exact isOwn_of_isFile (fileRefuses_makeFolders path zero disk fault fails)

theorem foreign_writeBytes {bytes : ByteArray} {fault : Fault}
    (fails : ((writeBytes path bytes).outcome disk).1 = .error fault) : fault.isOwn = false := by
  by_cases zero : path.HasZero
  · rw [outcome_writeBytes_hasZero path bytes disk zero] at fails
    cases fails
    split <;> rfl
  · exact isOwn_of_isFile (fileRefuses_writeBytes path zero bytes disk fault fails)

/-- Nobody refuses to write a file but the file system. -/
theorem derails_writeFile_iff (bytes : ByteArray) :
    (makeFolders path.parent >>= fun _ => writeBytes path bytes).Derails disk ↔
      disk.Repels path := by
  have foreign := @foreign_makeFolders path.parent disk
  have noFolder := @Repels.noFolder path disk
  have noFile := @Repels.noFile path disk
  have only : disk.Repels path → ((makeFolders path.parent).outcome disk).1 = .ok () →
      ∃ fault, ((writeBytes path bytes).outcome
        ((makeFolders path.parent).outcome disk).2).1 = .error fault := by
    rintro (fails | ⟨-, fails⟩) made
    · rw [made] at fails
      cases fails
    · exact ⟨_, fails bytes⟩
  rw [Run.Derails, Run.outcome_bind]
  revert foreign noFolder noFile only
  obtain ⟨fault | _, after⟩ := (makeFolders path.parent).outcome disk
  · intro foreign noFolder _ _
    exact iff_of_true ⟨fault, rfl, foreign rfl⟩ (noFolder rfl)
  · intro _ _ noFile only
    refine ⟨?_, fun repels => ?_⟩
    · rintro ⟨fault, fails, -⟩
      rcases outcome_writeBytes path after with ⟨other, always⟩ | ⟨location, -, -, writes⟩
      · exact noFile rfl fun bytes => congrArg Prod.fst (always bytes)
      · cases (congrArg Prod.fst (writes bytes)).symm.trans fails
    · obtain ⟨fault, fails⟩ := only repels rfl
      exact ⟨fault, fails, foreign_writeBytes path after fails⟩

end Disk

/-! ### What a command line names -/

namespace Command

/-- The text of a file that a command line names. -/
def textNamed (name : String) (path : Path) (disk : Disk) : Except Fault String :=
  match disk.textAt path with
  | .ok text => .ok text
  | .error fault => .error (unreadable name fault)

/-- The text that an argument stands for. -/
def textGiven (argument : String) (disk : Disk) : Except Fault String :=
  if disk.hasFile argument then textNamed (Path.ofText argument).text (Path.ofText argument) disk
  else .ok argument

/-- The value of a text that is given. -/
def valueOf (text : String) : Except Fault Json :=
  match Json.read text with
  | .ok value => .ok value
  | .error (.malformed complaint _ _ _) =>
    .error (.malformed "$" ("Invalid JSON for --values: " ++ complaint.message))
  | .error misread => .error (.misread misread)

/-- The value that is given. -/
def valueGiven (values : Option String) (disk : Disk) : Except Fault Json :=
  match values with
  | none => .ok (.obj [])
  | some argument => textGiven argument disk >>= valueOf

/-- The book in the file of the given name. -/
def bookNamed (name : String) (disk : Disk) : Except Fault Book :=
  textNamed name (Path.ofText name) disk >>= Book.restore

theorem outcome_readNamed (name : String) (path : Path) (world : World) :
    (tryCatch (World.onDisk (Disk.readText path)) fun fault =>
      throw (unreadable name fault)).outcome world = (textNamed name path world.disk, world) := by
  rw [Run.outcome_tryCatch, World.onDisk, Run.outcome_within, Disk.outcome_readText_eq, textNamed]
  cases world.disk.textAt path <;> rfl

theorem outcome_argumentText (argument : String) (world : World) :
    (argumentText argument).outcome world = (textGiven argument world.disk, world) := by
  have named := outcome_readNamed (Path.ofText argument).text (Path.ofText argument) world
  unfold argumentText textGiven
  rw [Run.outcome_bind, Run.outcome_get, Run.continued]
  split
  · exact named
  · rfl

theorem outcome_argumentValue (values : Option String) (world : World) :
    (argumentValue values).outcome world = (valueGiven values world.disk, world) := by
  cases values with
  | none => rfl
  | some argument =>
    unfold argumentValue valueGiven
    dsimp only
    rw [Run.outcome_bind, outcome_argumentText]
    cases textGiven argument world.disk with
    | error fault => rfl
    | ok text =>
      rw [ok_bind, Run.continued, valueOf]
      cases Json.read text with
      | ok value => rfl
      | error misread => cases misread <;> rfl

theorem outcome_bookInFile (name : String) (world : World) :
    (bookInFile name).outcome world = (bookNamed name world.disk, world) := by
  unfold bookInFile bookNamed
  rw [Run.outcome_bind, outcome_readNamed]
  cases textNamed name (Path.ofText name) world.disk with
  | error fault => rfl
  | ok text => exact Run.outcome_ofExcept _ world

theorem foreign_textNamed_iff (name : String) (path : Path) (disk : Disk) :
    Foreign (textNamed name path disk) ↔ disk.Unintelligible path := by
  obtain ⟨fails, refuses⟩ := Disk.textAt_ends path disk
  constructor
  · intro foreign
    by_contra intelligible
    unfold textNamed at foreign
    cases isText : disk.textAt path with
    | ok text =>
      rw [isText] at foreign
      exact not_foreign_ok text foreign
    | error fault =>
      rw [isText] at foreign
      dsimp only at foreign
      rw [unreadable, if_pos (refuses intelligible fault isText)] at foreign
      exact nomatch (foreign_error_iff _).mp foreign
  · intro unintelligible
    obtain ⟨fault, isText, noFile, isForeign⟩ := fails unintelligible
    rw [textNamed, isText]
    dsimp only
    rw [unreadable, noFile]
    exact ⟨fault, rfl, isForeign⟩

/-! ### Values -/

/-- A value that is given so that nothing refuses it and nobody can use it. -/
inductive Unusable (disk : Disk) : Option String → Prop where
  | unintelligible {argument : String} (isFile : disk.hasFile argument = true)
    (unintelligible : disk.Unintelligible (Path.ofText argument)) :
    Unusable disk (some argument)
  | overlong {argument text : String} {digits : Nat}
    (isText : textGiven argument disk = .ok text)
    (overlong : Json.read text = .error (.tooManyDigits digits)) : Unusable disk (some argument)

/-- A value that is refused: its file cannot be read, or its text is not the text of a value. -/
inductive Illegible (disk : Disk) : Option String → Prop where
  | unreadable {argument path : String} {trouble : FileTrouble}
    (isFile : disk.hasFile argument = true)
    (refused : disk.textAt (Path.ofText argument) = .error (.file trouble path)) :
    Illegible disk (some argument)
  | notJson {argument text : String} {complaint : Json.Complaint} {position line column : Nat}
    (isText : textGiven argument disk = .ok text)
    (malformed : Json.read text = .error (.malformed complaint position line column)) :
    Illegible disk (some argument)

theorem foreign_valueOf_iff (text : String) :
    Foreign (valueOf text) ↔ ∃ digits, Json.read text = .error (.tooManyDigits digits) := by
  unfold valueOf
  cases Json.read text with
  | ok value => exact iff_of_false (not_foreign_ok value) nofun
  | error misread =>
    cases misread with
    | malformed complaint position line column =>
      exact iff_of_false (fun foreign => nomatch (foreign_error_iff _).mp foreign) nofun
    | tooManyDigits digits => exact iff_of_true ⟨_, rfl, rfl⟩ ⟨digits, rfl⟩

theorem foreign_valueGiven_iff (values : Option String) (disk : Disk) :
    Foreign (valueGiven values disk) ↔ Unusable disk values := by
  cases values with
  | none => exact iff_of_false (not_foreign_ok _) nofun
  | some argument =>
    unfold valueGiven
    dsimp only
    constructor
    · intro foreign
      cases isText : textGiven argument disk with
      | ok text =>
        rw [isText, ok_bind, foreign_valueOf_iff] at foreign
        obtain ⟨digits, overlong⟩ := foreign
        exact .overlong isText overlong
      | error fault =>
        rw [isText] at foreign
        have isForeign := (foreign_error_iff fault).mp foreign
        unfold textGiven at isText
        split at isText
        case isTrue isFile =>
          exact .unintelligible isFile
            ((foreign_textNamed_iff _ _ disk).mp ⟨fault, isText, isForeign⟩)
        case isFalse => cases isText
    · rintro (⟨isFile, unintelligible⟩ | ⟨isText, overlong⟩)
      · obtain ⟨fault, isText, isForeign⟩ :=
          (foreign_textNamed_iff (Path.ofText argument).text _ disk).mpr unintelligible
        rw [textGiven, if_pos isFile, isText]
        exact ⟨fault, rfl, isForeign⟩
      · rw [isText, ok_bind, foreign_valueOf_iff]
        exact ⟨_, overlong⟩

theorem valueGiven_illegible {values : Option String} {disk : Disk}
    (illegible : Illegible disk values) : ∃ fault, valueGiven values disk = .error fault := by
  rcases illegible with ⟨isFile, refused⟩ | ⟨isText, malformed⟩
  · rw [valueGiven, textGiven, if_pos isFile, textNamed, refused]
    exact ⟨_, rfl⟩
  · rw [valueGiven, isText, ok_bind, valueOf, malformed]
    exact ⟨_, rfl⟩

theorem short_valueGiven {values : Option String} {disk : Disk} {given : Json}
    (isGiven : valueGiven values disk = .ok given) : given.hasLongNumber = false := by
  cases values with
  | none =>
    cases isGiven
    rfl
  | some argument =>
    obtain ⟨text, -, isValue⟩ := bind_eq_ok isGiven
    unfold valueOf at isValue
    split at isValue
    case h_1 isRead =>
      cases isValue
      exact (Json.faithful_of_read isRead).short
    case h_2 => cases isValue
    case h_3 => cases isValue

/-! ### Documents -/

/-- A file that is restored so that nothing refuses it and nobody can use it. -/
inductive Unrestorable (name : String) (disk : Disk) : Prop where
  | unintelligible (unintelligible : disk.Unintelligible (Path.ofText name))
  | unmanageable {text : String} (isText : disk.textAt (Path.ofText name) = .ok text)
    (unmanageable : Unmanageable text)

/-- A file that is refused: it cannot be read, or its text is no backup. -/
inductive Invalid (name : String) (disk : Disk) : Prop where
  | unreadable {path : String} {trouble : FileTrouble}
    (refused : disk.textAt (Path.ofText name) = .error (.file trouble path))
  | unacceptable {text : String} (isText : disk.textAt (Path.ofText name) = .ok text)
    (unacceptable : Unacceptable text)

theorem foreign_bookNamed_iff (name : String) (disk : Disk) :
    Foreign (bookNamed name disk) ↔ Unrestorable name disk := by
  have named := foreign_textNamed_iff name (Path.ofText name) disk
  have fails := (Disk.textAt_ends (Path.ofText name) disk).1
  unfold bookNamed
  revert named
  unfold textNamed
  cases isText : disk.textAt (Path.ofText name) with
  | error fault =>
    dsimp only
    intro named
    have same : Foreign ((.error (Command.unreadable name fault) : Except Fault String) >>=
        Book.restore) ↔ disk.Unintelligible (Path.ofText name) :=
      (foreign_error_iff _).trans ((foreign_error_iff _).symm.trans named)
    rw [same]
    constructor
    · exact .unintelligible
    · rintro (unintelligible | ⟨isOther, -⟩)
      · exact unintelligible
      · cases isText.symm.trans isOther
  | ok text =>
    intro _
    dsimp only
    rw [ok_bind, Book.foreign_restore_iff]
    constructor
    · exact .unmanageable isText
    · rintro (unintelligible | ⟨isOther, unmanageable⟩)
      · obtain ⟨fault, isError, -⟩ := fails unintelligible
        cases isText.symm.trans isError
      · cases isText.symm.trans isOther
        exact unmanageable

theorem bookNamed_invalid {name : String} {disk : Disk} (invalid : Invalid name disk) :
    ∃ fault, bookNamed name disk = .error fault := by
  rcases invalid with refused | ⟨isText, unacceptable⟩
  · rw [bookNamed, textNamed, refused]
    exact ⟨_, rfl⟩
  · obtain ⟨fault, isFault, -⟩ := Book.restore_unacceptable unacceptable
    rw [bookNamed, textNamed, isText]
    exact ⟨fault, isFault⟩

theorem typed_bookNamed {name : String} {disk : Disk} {book : Book}
    (isBook : bookNamed name disk = .ok book) : Book.Typed book := by
  obtain ⟨text, -, restored⟩ := bind_eq_ok isBook
  exact Book.typed_of_restore restored

/-! ### Backups -/

/-- A backup is written unless the file system keeps it from being written. -/
theorem derails_writeBackup_iff {book : Book} (typed : Book.Typed book) (path : Path)
    (world : World) : (writeBackup book path).Derails world ↔ world.disk.Repels path := by
  have isText := Book.backupText_eq book typed.textual
  have steps : (do
      Disk.makeFolders path.parent
      Disk.writeBytes path (← Run.ofExcept book.backupText).toUTF8 : Run Disk Unit) =
        (Disk.makeFolders path.parent >>= fun _ =>
          Disk.writeBytes path book.backup.page.toUTF8) := by
    rw [isText]
    rfl
  rw [writeBackup, steps, Run.derails_bind_iff, ← Disk.derails_writeFile_iff]
  refine or_iff_left ?_
  rintro ⟨_, _, -, derails⟩
  exact not_foreign_ok _ derails

end Command

end MarketSignal
