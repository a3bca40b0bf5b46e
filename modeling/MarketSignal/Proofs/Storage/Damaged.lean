/-
This file says what becomes of a record file whatever bytes are in it. Bytes that spell a value are
answered as the value, and all others are refused by the store as damaged, with one exception: a
whole number with more digits than the limit is passed on as a fault of the reader. The list of
assignments follows suit. It consists of the members of an object and is empty for everything else,
and only the exception keeps it from being answered.
-/
import MarketSignal.Proofs.Json.Overlong
import MarketSignal.Proofs.Storage.Derailing

namespace MarketSignal

/-! ### Bytes of a record -/

/-- The file of a record is there, with the bytes in it. -/
def Disk.HasRecord (disk : Disk) (root : Path) (key : String) (bytes : ByteArray) : Prop :=
  ∃ location, disk.locate (recordPath root key) = .ok location ∧
    disk.node? location = some (.file bytes)

/-- The bytes are those of a text that is read as the value. -/
def ReadsAs (bytes : ByteArray) (value : Json) : Prop :=
  ∃ text, Text.decode bytes = .ok text ∧ Json.read text = .ok value

/-- What bytes are answered with: their value, or the refusal of a damaged record, or the fault of
the reader at a number that is too long. -/
inductive AnsweredBy (key : String) (bytes : ByteArray) : Except Fault Json → Prop where
  | value {value : Json} (isRead : ReadsAs bytes value) : AnsweredBy key bytes (.ok value)
  | damaged (unread : ∀ value, ¬ ReadsAs bytes value) (short : ¬ Overlong bytes) :
    AnsweredBy key bytes (.error (.storage ("Record '" ++ key ++ "' is not valid JSON.")))
  | overlong {text : String} {digits : Nat} (isText : Text.decode bytes = .ok text)
    (refused : Json.read text = .error (.tooManyDigits digits)) :
    AnsweredBy key bytes (.error (.misread (.tooManyDigits digits)))

theorem answeredBy_recordOfBytes (key : String) (bytes : ByteArray) :
    AnsweredBy key bytes (recordOfBytes key bytes) := by
  unfold recordOfBytes
  cases isText : Text.decode bytes with
  | error damage =>
    refine .damaged ?_ ?_
    · rintro value ⟨text, same, -⟩
      cases isText.symm.trans same
    · rintro ⟨text, digits, same, -⟩
      cases isText.symm.trans same
  | ok text =>
    dsimp only
    cases isRead : Json.read text with
    | ok value => exact .value ⟨text, isText, isRead⟩
    | error misread =>
      cases misread with
      | tooManyDigits digits => exact .overlong isText isRead
      | malformed complaint position line column =>
        refine .damaged ?_ ?_
        · rintro value ⟨other, same, finds⟩
          cases isText.symm.trans same
          cases isRead.symm.trans finds
        · rintro ⟨other, digits, same, refused⟩
          cases isText.symm.trans same
          cases isRead.symm.trans refused

/-- Bytes that spell a value spell no other one, and have no number that is too long. -/
theorem ReadsAs.unique {bytes : ByteArray} {value : Json} (isRead : ReadsAs bytes value) :
    ¬ Overlong bytes ∧ ∀ other, ReadsAs bytes other → other = value := by
  obtain ⟨text, isText, finds⟩ := isRead
  constructor
  · rintro ⟨other, digits, same, refused⟩
    cases isText.symm.trans same
    cases finds.symm.trans refused
  · rintro other ⟨again, same, alsoFinds⟩
    cases isText.symm.trans same
    exact Except.ok.inj (alsoFinds.symm.trans finds)

/-- Bytes with a number that is too long are those of a text with so many digits side by side. -/
theorem Overlong.hasRun {bytes : ByteArray} (overlong : Overlong bytes) :
    ∃ text digits, Text.decode bytes = .ok text ∧ digitLimit < digits ∧
      Json.HasRun text.toList digits := by
  obtain ⟨text, digits, isText, refused⟩ := overlong
  exact ⟨text, digits, isText, Json.hasRun_of_readCharacters refused⟩

/-! ### Assignments in a record -/

/-- The members of an object, each with its value as a text, and nothing for any other value. -/
def listedMembers : Json → List (String × String)
  | .obj members => members.map fun entry => (entry.1, String.ofList entry.2.shown)
  | _ => []

/-- The assignments in a value that was read are its members; of a value that has none, null apart,
there are no assignments to be told. -/
theorem Library.assignmentsOf_listed {value : Json} (faithful : value.Faithful) :
    (∃ table, assignmentsOf value = .ok table ∧ table.entries = listedMembers value) ∨
      ∃ fault, assignmentsOf value = .error fault ∧ fault.isFormat = true ∧
        listedMembers value = [] := by
  cases value
  case null => exact Or.inl ⟨Table.empty, rfl, rfl⟩
  case obj members =>
    refine Or.inl ⟨Table.map (fun value => String.ofList value.shown)
      ⟨members, faithful.differ.1⟩, ?_, rfl⟩
    have short := (Json.anyLongMember_eq_false_iff members).mp faithful.short
    have same : Table.map id (⟨members, faithful.differ.1⟩ : Table Json) =
        ⟨members, faithful.differ.1⟩ := by
      simp only [Table.map, id_eq, List.map_id']
    have shown := readMembers_map id (fun _ value => value.display)
      (fun value => String.ofList value.shown) ⟨members, faithful.differ.1⟩ fun entry present => by
        rw [id_eq, Json.display, Json.shown?, short entry present]
        rfl
    rwa [same] at shown
  all_goals exact Or.inr ⟨_, rfl, rfl, rfl⟩

/-! ### Reading what is there -/

namespace RecordStore

section

variable {root : Path} {key : String} {bytes : ByteArray} {world : World}
  (there : world.disk.HasRecord root key bytes)

include there

/-- A record that is there is refused if reading fails, and otherwise answered by its bytes. -/
theorem read_there :
    world.disk.failing = some .read ∧
        (∃ text, (((folder root).read key).outcome world).1 = .error (.storage text)) ∨
      world.disk.failing ≠ some .read ∧
        AnsweredBy key bytes (((folder root).read key).outcome world).1 := by
  obtain ⟨location, located, here⟩ := there
  rw [read, World.onDisk, Run.outcome_within,
    Disk.outcome_readRecord root key location bytes world.disk located here]
  by_cases failing : world.disk.failing = some .read
  · rw [if_pos (beq_iff_eq.mpr failing)]
    exact Or.inl ⟨failing, _, rfl⟩
  · rw [if_neg (mt beq_iff_eq.mp failing)]
    exact Or.inr ⟨failing, answeredBy_recordOfBytes key bytes⟩

theorem read_there_eq_ok_iff (value : Json) :
    (((folder root).read key).outcome world).1 = .ok value ↔
      world.disk.failing ≠ some .read ∧ ReadsAs bytes value := by
  rcases read_there there with ⟨failing, text, refused⟩ | ⟨working, answered⟩
  · rw [refused]
    exact iff_of_false nofun fun reads => reads.1 failing
  · generalize (((folder root).read key).outcome world).1 = record at answered
    cases answered with
    | @value other isRead =>
      constructor
      · rintro ⟨⟩
        exact ⟨working, isRead⟩
      · exact fun reads => congrArg Except.ok (isRead.unique.2 value reads.2).symm
    | damaged unread short => exact iff_of_false nofun fun reads => unread value reads.2
    | overlong isText refused =>
      exact iff_of_false nofun fun reads => reads.2.unique.1 ⟨_, _, isText, refused⟩

theorem storage_of_read_there (allowed : ¬ (world.disk.failing ≠ some .read ∧ Overlong bytes))
    {fault : Fault} (fails : (((folder root).read key).outcome world).1 = .error fault) :
    ∃ text, fault = .storage text := by
  rcases read_there there with ⟨-, text, refused⟩ | ⟨working, answered⟩
  · cases refused.symm.trans fails
    exact ⟨text, rfl⟩
  · rw [fails] at answered
    cases answered with
    | damaged unread short => exact ⟨_, rfl⟩
    | overlong isText refused => exact absurd ⟨working, _, _, isText, refused⟩ allowed

theorem misread_of_read_there (working : world.disk.failing ≠ some .read)
    (overlong : Overlong bytes) :
    ∃ digits, (((folder root).read key).outcome world).1 =
      .error (.misread (.tooManyDigits digits)) := by
  rcases read_there there with ⟨failing, -⟩ | ⟨-, answered⟩
  · exact absurd failing working
  · generalize (((folder root).read key).outcome world).1 = record at answered ⊢
    cases answered with
    | value isRead => exact absurd overlong isRead.unique.1
    | damaged unread short => exact absurd overlong short
    | overlong isText refused => exact ⟨_, rfl⟩

end

end RecordStore

/-! ### Listing what is there -/

namespace Library

section

variable {library : Library} {store : RecordStore} (isPrimary : library.primary = some store)
  {world : World}

include isPrimary

theorem assignments_of_refused {text : String}
    (refused : ((store.read assignmentsKey).outcome world).1 = .error (.storage text)) :
    (library.assignments.outcome world).1 = .ok Table.empty := by
  rw [assignments_eq, outcome_readAssignments library store isPrimary, refused]
  rfl

theorem assignments_of_misread {misread : Json.Misread}
    (fails : ((store.read assignmentsKey).outcome world).1 = .error (.misread misread)) :
    (library.assignments.outcome world).1 = .error (.misread misread) := by
  rw [assignments_eq, outcome_readAssignments library store isPrimary, fails]
  rfl

theorem assignments_of_value {value : Json} (faithful : value.Faithful)
    (answers : ((store.read assignmentsKey).outcome world).1 = .ok value) :
    ∃ table, (library.assignments.outcome world).1 = .ok table ∧
      table.entries = listedMembers value := by
  rw [assignments_eq, outcome_readAssignments library store isPrimary, answers, ok_bind]
  rcases assignmentsOf_listed faithful with
    ⟨table, isTable, entries⟩ | ⟨fault, fails, isFormat, nothing⟩
  · rw [isTable]
    exact ⟨table, rfl, entries⟩
  · rw [fails, nothing]
    refine ⟨Table.empty, if_pos ?_, rfl⟩
    rw [isFormat, Bool.or_true]

end

/-- The members of the record, or none if there is no record to be had. -/
def listedOf : Except Fault Json → List (String × String)
  | .ok value => listedMembers value
  | .error _ => []

/-- Whatever the bytes of a record file are, they are answered as the value that they spell, and
all others are refused by the store, unless a number has more digits than the limit; the text then
does hold so many digits side by side. The assignments in the record are listed, or none if it has
none, and only such a number keeps the list from being answered. -/
theorem damaged_record (root : Path) (key : String) (bytes : ByteArray) (world : World)
    (there : world.disk.HasRecord root key bytes) :
    let record := (((RecordStore.folder root).read key).outcome world).1
    let barred := world.disk.failing ≠ some .read ∧ Overlong bytes
    (∀ value, record = .ok value ↔ world.disk.failing ≠ some .read ∧ ReadsAs bytes value) ∧
      (¬ barred → ∀ fault, record = .error fault → ∃ text, fault = .storage text) ∧
      (barred → (∃ digits, record = .error (.misread (.tooManyDigits digits))) ∧
        ∃ text digits, Text.decode bytes = .ok text ∧ digitLimit < digits ∧
          Json.HasRun text.toList digits) ∧
      ∀ library : Library, library.primary = some (.folder root) → key = assignmentsKey →
        (¬ barred → ∃ table, (library.assignments.outcome world).1 = .ok table ∧
          table.entries = listedOf record) ∧
        (barred → ∃ digits, (library.assignments.outcome world).1 =
          .error (.misread (.tooManyDigits digits))) := by
  intro record barred
  have isValue := RecordStore.read_there_eq_ok_iff there
  refine ⟨isValue, fun allowed fault => RecordStore.storage_of_read_there there allowed,
    fun bars => ⟨RecordStore.misread_of_read_there there bars.1 bars.2, bars.2.hasRun⟩, ?_⟩
  rintro library isPrimary rfl
  refine ⟨fun allowed => ?_, fun bars => ?_⟩
  · cases found : record with
    | ok value =>
      obtain ⟨-, text, -, isRead⟩ := (isValue value).mp found
      exact assignments_of_value isPrimary (Json.faithful_of_readCharacters isRead) found
    | error fault =>
      obtain ⟨text, rfl⟩ := RecordStore.storage_of_read_there there allowed found
      exact ⟨Table.empty, assignments_of_refused isPrimary found, rfl⟩
  · obtain ⟨digits, fails⟩ := RecordStore.misread_of_read_there there bars.1 bars.2
    exact ⟨digits, assignments_of_misread isPrimary fails⟩

/-! ### A record that is fit and one that is not -/

/-- The world with nothing but the record of the assignments, in a folder. -/
def worldWith (bytes : ByteArray) : World :=
  { World.fresh with
    disk := ⟨Table.ofEntries (Disk.fresh.nodes.entries ++
      [("work/data", .folder), ("work/data/marketAssignments.json", .file bytes)]), none⟩ }

theorem hasRecord_worldWith (bytes : ByteArray) :
    (worldWith bytes).disk.HasRecord ⟨.here, ["data"]⟩ assignmentsKey bytes :=
  ⟨["work", "data", "marketAssignments.json"], rfl, rfl⟩

/-- An assignment of a scenario to one market. -/
def goldRecord : Json := .obj [("gold", .str "s")]

theorem readsAs_goldRecord : ReadsAs goldRecord.page.toUTF8 goldRecord := by
  have faithful : goldRecord.Faithful :=
    Json.faithful_obj _ (List.nodup_singleton _)
      (List.forall_mem_singleton.mpr (Json.faithful_str _))
  exact ⟨goldRecord.page, Text.decode_toUTF8 _, Json.read_page goldRecord faithful⟩

/-- The record of one assignment is answered, and the assignment is listed. -/
theorem damaged_record_gold :
    let world := worldWith goldRecord.page.toUTF8
    let library : Library := ⟨some (.folder ⟨.here, ["data"]⟩), none, none⟩
    world.disk.HasRecord ⟨.here, ["data"]⟩ assignmentsKey goldRecord.page.toUTF8 ∧
      (((RecordStore.folder ⟨.here, ["data"]⟩).read assignmentsKey).outcome world).1 =
        .ok goldRecord ∧
      ∃ table, (library.assignments.outcome world).1 = .ok table ∧
        table.entries = [("gold", "s")] := by
  intro world library
  have there := hasRecord_worldWith goldRecord.page.toUTF8
  obtain ⟨isValue, -, -, lists⟩ := damaged_record _ _ _ _ there
  have answers := (isValue goldRecord).mpr ⟨nofun, readsAs_goldRecord⟩
  obtain ⟨table, isTable, entries⟩ := (lists library rfl rfl).1 fun bars =>
    readsAs_goldRecord.unique.1 bars.2
  refine ⟨there, answers, table, isTable, ?_⟩
  rw [entries, answers]
  decide +kernel

/-- A record with a number of so many digits. -/
def onesRecord (count : Nat) : ByteArray := (String.ofList (List.replicate count '1')).toUTF8

/-- A number that is too long is passed on as it is. -/
theorem read_onesRecord {count : Nat} (long : digitLimit < count) :
    (((RecordStore.folder ⟨.here, ["data"]⟩).read assignmentsKey).outcome
      (worldWith (onesRecord count))).1 = .error (.misread (.tooManyDigits count)) := by
  obtain ⟨location, located, here⟩ := hasRecord_worldWith (onesRecord count)
  have working : ¬ ((worldWith (onesRecord count)).disk.failing == some .read) = true :=
    Bool.false_ne_true
  rw [RecordStore.read, World.onDisk, Run.outcome_within,
    Disk.outcome_readRecord _ _ location _ _ located here, if_neg working, recordOfBytes,
    onesRecord, Text.decode_toUTF8]
  dsimp only
  rw [Json.read_ones long]

/-- With one digit more than the limit the record is neither answered nor refused by the store, and
no assignments are listed, not even none. -/
theorem damaged_record_overlong :
    let world := worldWith (onesRecord 4301)
    let library : Library := ⟨some (.folder ⟨.here, ["data"]⟩), none, none⟩
    world.disk.HasRecord ⟨.here, ["data"]⟩ assignmentsKey (onesRecord 4301) ∧
      (((RecordStore.folder ⟨.here, ["data"]⟩).read assignmentsKey).outcome world).1 =
        .error (.misread (.tooManyDigits 4301)) ∧
      (library.assignments.outcome world).1 = .error (.misread (.tooManyDigits 4301)) := by
  intro world library
  have fails := read_onesRecord (show digitLimit < 4301 by decide)
  exact ⟨hasRecord_worldWith _, fails, assignments_of_misread rfl fails⟩

end Library

end MarketSignal
