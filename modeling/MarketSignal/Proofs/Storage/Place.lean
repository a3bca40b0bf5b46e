/-
This file says where a folder keeps the files of its records and the temporary files beside them.
Where a path leads does not depend on the disk; the file of a record and a temporary file are told
apart by how their names end, whatever the keys of the records are. Of a path with the character
zero nothing can be asked, and only the steps of a path can hold it.
-/
import MarketSignal.Proofs.Storage.Disk
import MarketSignal.Storage.Library

namespace MarketSignal

/-! ### Pieces of texts -/

namespace Text

theorem pieces_of_not_mem (separator : Char) (text : List Char) (absent : separator ∉ text) :
    pieces separator text = [text] := by
  induction text with
  | nil => rfl
  | cons c rest inductionHypothesis =>
    rw [List.mem_cons, not_or] at absent
    rw [pieces, if_neg (Ne.symm absent.1), inductionHypothesis absent.2]

/-- What holds no separator and ends a text ends the last piece of the text. -/
theorem pieces_append (separator : Char) (text ending : List Char) (absent : separator ∉ ending) :
    ∃ before last, pieces separator (text ++ ending) = before ++ [last ++ ending] := by
  induction text with
  | nil => exact ⟨[], [], pieces_of_not_mem separator ending absent⟩
  | cons c rest inductionHypothesis =>
    obtain ⟨before, last, split⟩ := inductionHypothesis
    rw [List.cons_append, pieces, split]
    by_cases separates : c = separator
    · rw [if_pos separates]
      exact ⟨[] :: before, last, rfl⟩
    · rw [if_neg separates]
      cases before with
      | nil => exact ⟨[], c :: last, rfl⟩
      | cons piece others => exact ⟨(c :: piece) :: others, last, rfl⟩

/-- Texts with different last characters are different. -/
theorem endings_differ (left right first second : String) (some_ : first.toList ≠ [])
    (someOther : second.toList ≠ []) (differ : first.toList.getLast? ≠ second.toList.getLast?) :
    left ++ first ≠ right ++ second := by
  intro same
  have lasts := congrArg (fun text => text.toList.getLast?) same
  rw [String.toList_append, String.toList_append, List.getLast?_append_of_ne_nil _ some_,
    List.getLast?_append_of_ne_nil _ someOther] at lasts
  exact differ lasts

end Text

/-! ### Paths of names -/

namespace Path

/-- A name leads somewhere unless it is empty or a single dot. -/
theorem ofText_name (name : String) (noSlash : '/' ∉ name.toList) (some_ : name ≠ "")
    (noDot : name ≠ ".") : ofText name = ⟨.here, [name]⟩ := by
  have steps : stepsOf name = [name] := by
    rw [stepsOf, Text.pieces_of_not_mem _ _ noSlash, List.map_singleton, String.ofList_toList]
    simp [some_, noDot]
  unfold ofText
  rw [steps]
  split
  case h_1 same => simp [same] at noSlash
  case h_2 same => simp [same] at noSlash
  case h_3 same => simp [same] at noSlash
  case h_4 => rfl

/-- What holds no slash, is longer than a dot and ends a text ends its last step. -/
theorem stepsOf_append (text ending : String) (noSlash : '/' ∉ ending.toList)
    (long : 2 ≤ ending.length) :
    ∃ before last, stepsOf (text ++ ending) = before ++ [last ++ ending] := by
  obtain ⟨before, last, split⟩ := Text.pieces_append '/' text.toList ending.toList noSlash
  have longer (short : String) (isShort : short.length < 2) :
      String.ofList last ++ ending ≠ short := by
    rintro rfl
    rw [String.length_append] at isShort
    omega
  refine ⟨(before.map String.ofList).filter fun step => step != "" && step != ".",
    String.ofList last, ?_⟩
  rw [stepsOf, String.toList_append, split, List.map_append, List.filter_append, List.map_singleton,
    String.ofList_append, String.ofList_toList]
  simp [longer "" (by decide), longer "." (by decide)]

/-! ### The character zero -/

/-- Some step holds the character zero. -/
def HasZero (path : Path) : Prop := ∃ step ∈ path.steps, Char.ofNat 0 ∈ step.toList

theorem mem_intercalate (c : Char) (separator : String) (texts : List String)
    (apart : c ∉ separator.toList) :
    c ∈ (separator.intercalate texts).toList ↔ ∃ text ∈ texts, c ∈ text.toList := by
  induction texts with
  | nil => simp
  | cons text rest inductionHypothesis =>
    cases rest with
    | nil => simp
    | cons next others =>
      rw [String.intercalate_cons_cons, String.toList_append, String.toList_append, List.mem_append,
        List.mem_append, inductionHypothesis, or_iff_left apart]
      simp only [List.mem_cons, exists_eq_or_imp]

/-- The text of a path holds the character zero if a step does. -/
theorem contains_zero_iff (path : Path) :
    path.text.toList.contains (Char.ofNat 0) = true ↔ path.HasZero := by
  have joined : Char.ofNat 0 ∈ (String.intercalate "/" path.steps).toList ↔ path.HasZero :=
    mem_intercalate _ _ _ (by decide)
  have led (lead : String) (clean : Char.ofNat 0 ∉ lead.toList) :
      Char.ofNat 0 ∈ (lead ++ String.intercalate "/" path.steps).toList ↔ path.HasZero := by
    rw [String.toList_append, List.mem_append, or_iff_right clean, joined]
  have bare (only : String) (clean : Char.ofNat 0 ∉ only.toList)
      (noSteps : path.steps.isEmpty = true) : Char.ofNat 0 ∈ only.toList ↔ path.HasZero := by
    refine iff_of_false clean ?_
    rintro ⟨step, member, -⟩
    rw [List.isEmpty_iff.mp noSteps] at member
    exact absurd member List.not_mem_nil
  rw [List.contains_iff_mem, text]
  cases path.anchor with
  | here =>
    dsimp only
    split
    · exact bare "." (by decide) ‹_›
    · exact joined
  | root => exact led "/" (by decide)
  | doubleRoot => exact led "//" (by decide)
  | project =>
    dsimp only
    split
    · exact bare "<repo>" (by decide) ‹_›
    · exact led "<repo>/" (by decide)
  | package =>
    dsimp only
    split
    · exact bare "<package>" (by decide) ‹_›
    · exact led "<package>/" (by decide)

end Path

namespace Disk

/-- Of a path with the character zero nothing can be asked. -/
theorem locate_hasZero (disk : Disk) (path : Path) (zero : path.HasZero) :
    disk.locate path = .error .zeroInPath := by
  rw [locate, if_pos ((path.contains_zero_iff).mpr zero)]

/-- Any other path leads somewhere, or the file system refuses it. -/
theorem isFile_of_locate (disk : Disk) (path : Path) (noZero : ¬ path.HasZero) (fault : Fault)
    (fails : disk.locate path = .error fault) : fault.isFile = true := by
  rw [locate, if_neg (mt (path.contains_zero_iff).mp noZero)] at fails
  split at fails
  case isTrue =>
    cases fails
    rfl
  case isFalse =>
    split at fails
    case h_1 => cases fails
    case h_2 =>
      cases fails
      rfl

/-! ### Files of records and temporary files -/

/-- The place of a path. -/
def place (path : Path) : Location := destination (start path) path.steps

/-- The key of what is at the end of a path. -/
def placeKey (path : Path) : String := key (place path)

theorem key_of_locate (disk : Disk) (path : Path) (location : Location)
    (found : disk.locate path = .ok location) : key location = placeKey path := by
  rw [eq_destination disk path location found]
  rfl

/-- The key of a path ends as its last step does. -/
theorem placeKey_ends (path : Path) (before : List String) (front ending : String)
    (isLast : path.steps = before ++ [front ++ ending]) (notUp : front ++ ending ≠ "..") :
    ∃ lead, placeKey path = lead ++ ending := by
  rw [placeKey, place, isLast, destination_concat _ _ _ notUp]
  generalize destination (start path) before = folder
  unfold key
  by_cases isRoot : folder = []
  · subst isRoot
    exact ⟨front, by rw [List.nil_append, String.intercalate_singleton]⟩
  · refine ⟨String.intercalate "/" folder ++ "/" ++ front, ?_⟩
    rw [String.intercalate_append_of_ne_nil isRoot (List.cons_ne_nil _ _),
      String.intercalate_singleton]
    simp only [String.append_assoc]

theorem settled_mem (steps : List String) : ∀ step ∈ settled steps, step ∈ steps := by
  have grows (rest before : List String) : ∀ step ∈ rest.foldl
      (fun before step => if step = ".." then before.dropLast else before ++ [step]) before,
      step ∈ before ∨ step ∈ rest := by
    induction rest generalizing before with
    | nil => exact fun step member => Or.inl member
    | cons first others inductionHypothesis =>
      intro step member
      rcases inductionHypothesis _ step member with earlier | later
      · dsimp only at earlier
        split at earlier
        · exact Or.inl (List.mem_of_mem_dropLast earlier)
        · rcases List.mem_append.mp earlier with before | isFirst
          · exact Or.inl before
          · exact Or.inr (List.mem_cons.mpr (Or.inl (List.mem_singleton.mp isFirst)))
      · exact Or.inr (List.mem_cons_of_mem _ later)
  exact fun step member => (grows steps [] step member).resolve_left List.not_mem_nil

/-- The name of a temporary file. -/
def temporaryName (record : String) (number : Nat) : String :=
  "." ++ record ++ "." ++ serial number ++ ".tmp"

/-- A character of the name of a temporary file is one of the record's, a digit, or one of those
around them. -/
theorem mem_temporaryName (record : String) (number : Nat) (c : Char)
    (member : c ∈ (temporaryName record number).toList) :
    c ∈ record.toList ∨ c.isDigit = true ∨ c ∈ ".tmp".toList := by
  have digits (isSerial : c ∈ (serial number).toList) : c.isDigit = true := by
    rw [serial, String.toList_ofList, List.mem_append] at isSerial
    rcases isSerial with padding | digit
    · rw [List.eq_of_mem_replicate padding]
      rfl
    · exact Nat.isDigit_of_mem_toDigits (by decide) (by decide) digit
  simp only [temporaryName, String.toList_append, List.mem_append] at member
  rcases member with (((dot | isRecord) | dot) | isSerial) | ending
  · exact Or.inr (Or.inr (List.mem_of_mem_take (i := 1) dot))
  · exact Or.inl isRecord
  · exact Or.inr (Or.inr (List.mem_of_mem_take (i := 1) dot))
  · exact Or.inr (Or.inl (digits isSerial))
  · exact Or.inr (Or.inr ending)

/-- A temporary file is in the folder of the record, under a name of its own. -/
theorem temporaryPath_eq (folder : Path) (record : String) (number : Nat)
    (noSlash : '/' ∉ record.toList) :
    temporaryPath folder record number =
      ⟨.root, settled (start folder ++ folder.steps) ++ [temporaryName record number]⟩ := by
  have isName : Path.ofText (temporaryName record number) =
      ⟨.here, [temporaryName record number]⟩ := by
    have long : 5 ≤ (temporaryName record number).length := by
      simp only [temporaryName, String.length_append]
      have : ".tmp".length = 4 := rfl
      have : ".".length = 1 := rfl
      omega
    refine Path.ofText_name _ (fun slash => ?_) ?_ ?_
    · rcases mem_temporaryName record number '/' slash with isRecord | digit | ending
      · exact noSlash isRecord
      · exact absurd digit (by decide)
      · exact absurd ending (by decide)
    · intro empty
      rw [empty] at long
      exact absurd long (by decide)
    · intro dot
      rw [dot] at long
      exact absurd long (by decide)
  show Path.child ⟨.root, _⟩ (temporaryName record number) = _
  rw [Path.child, isName]

/-- A temporary file is the file of no record, of whatever folder. -/
theorem temporary_not_record (folder root : Path) (record key : String) (number : Nat)
    (noSlash : '/' ∉ record.toList) :
    placeKey (temporaryPath folder record number) ≠ placeKey (recordPath root key) := by
  obtain ⟨lead, temporaryEnds⟩ : ∃ lead,
      placeKey (temporaryPath folder record number) = lead ++ ".tmp" := by
    refine placeKey_ends _ (settled (start folder ++ folder.steps))
      ("." ++ record ++ "." ++ serial number) ".tmp" ?_ ?_
    · rw [temporaryPath_eq folder record number noSlash]
      rfl
    · exact Text.endings_differ _ "" ".tmp" ".." (by decide) (by decide) (by decide)
  obtain ⟨before, last, isLast⟩ := Path.stepsOf_append key ".json" (by decide) (by decide)
  obtain ⟨front, recordEnds⟩ : ∃ front, placeKey (recordPath root key) = front ++ ".json" := by
    have steps : ∃ before, (recordPath root key).steps = before ++ [last ++ ".json"] := by
      unfold recordPath Path.child
      dsimp only
      split
      · exact ⟨root.steps ++ before, by
          show root.steps ++ Path.stepsOf _ = _
          rw [isLast, List.append_assoc]⟩
      · exact ⟨before, isLast⟩
    obtain ⟨before, isLast⟩ := steps
    exact placeKey_ends _ before last ".json" isLast
      (Text.endings_differ last "" ".json" ".." (by decide) (by decide) (by decide))
  rw [temporaryEnds, recordEnds]
  exact Text.endings_differ lead front ".tmp" ".json" (by decide) (by decide) (by decide)

end Disk

end MarketSignal
