/-
This file says which keys a store can tell apart. A plain name has a slot of its own in every store:
the file of the record is under it in the folder, and the blob under it in the bucket. Other keys
may share a slot, since blanks before the name of a blob do not count, and neither do empty steps of
a path. So storing a record under a plain key leaves in place what is held under another one.
-/
import MarketSignal.Proofs.Storage.Footprint

namespace MarketSignal

/-! ### Plain keys -/

/-- A key is a plain name: it holds neither a slash nor a blank. -/
structure PlainKey (key : String) : Prop where
  noSlash : '/' ∉ key.toList
  noBlank : ∀ c ∈ key.toList, Text.isBlank c = false

/-- Letters, digits and underscores make a plain name. -/
theorem plainKey_of_word (key : String)
    (word : (key.toList.all fun c => c.isAlphanum || c == '_') = true) : PlainKey key := by
  simp only [List.all_eq_true, Bool.or_eq_true, beq_iff_eq] at word
  constructor
  · intro slash
    exact absurd (word '/' slash) (by decide)
  · intro c member
    rcases word c member with letter | rfl
    · have between : 0x21 ≤ c.val.toNat ∧ c.val.toNat ≤ 0x7A := by
        simp only [Char.isAlphanum, Char.isAlpha, Char.isUpper, Char.isLower, Char.isDigit,
          Bool.or_eq_true, Bool.and_eq_true, decide_eq_true_eq, ge_iff_le, UInt32.le_iff_toNat_le,
          Char.reduceVal, UInt32.reduceToNat] at letter
        omega
      show Text.Ranges.has Text.blankRanges c.val.toNat = false
      simp only [Text.blankRanges, Text.Ranges.has]
      rw [if_neg (by omega), if_neg (by omega), if_pos (by omega)]
      exact decide_eq_false (by omega)
    · decide

theorem Text.trim_of_noBlank (text : String) (noBlank : ∀ c ∈ text.toList, isBlank c = false) :
    trim text = text := by
  have kept (characters : List Char) (noBlank : ∀ c ∈ characters, isBlank c = false) :
      characters.dropWhile isBlank = characters := by
    refine List.dropWhile_eq_self_iff.mpr fun some_ => ?_
    rw [noBlank _ (List.getElem_mem some_)]
    exact Bool.false_ne_true
  rw [trim, trimBy, kept _ noBlank, kept _ fun c member => noBlank c (List.mem_reverse.mp member),
    List.reverse_reverse, String.ofList_toList]

namespace PlainKey

variable {key other : String}

/-! ### Slots of plain keys -/

/-- The name of the file or blob of a record is plain as well. -/
theorem file (plain : PlainKey key) : PlainKey (key ++ ".json") := by
  have ending : ∀ c ∈ ".json".toList, c ≠ '/' ∧ Text.isBlank c = false := by
    intro c member
    have clean : (".json".toList.all fun c => c != '/' && !Text.isBlank c) = true := by decide
    simpa using List.all_eq_true.mp clean c member
  constructor
  · rw [String.toList_append, List.mem_append, not_or]
    exact ⟨plain.noSlash, fun slash => (ending '/' slash).1 rfl⟩
  · intro c member
    rw [String.toList_append, List.mem_append] at member
    exact member.elim (plain.noBlank c) fun isEnding => (ending c isEnding).2

theorem recordPath_eq (plain : PlainKey key) (root : Path) :
    recordPath root key = ⟨root.anchor, root.steps ++ [key ++ ".json"]⟩ := by
  have isName : Path.ofText (key ++ ".json") = ⟨.here, [key ++ ".json"]⟩ := by
    refine Path.ofText_name _ plain.file.noSlash (fun empty => ?_) ?_
    · rw [String.append_eq_empty_iff] at empty
      exact absurd empty.2 (by decide)
    · exact Text.endings_differ key "" ".json" "." (by decide) (by decide) (by decide)
  rw [recordPath, Path.child, isName]

theorem placeKey_eq (plain : PlainKey key) (root : Path) :
    Disk.placeKey (recordPath root key) =
      Disk.key (Disk.destination (Disk.start root) root.steps ++ [key ++ ".json"]) := by
  rw [Disk.placeKey, Disk.place, plain.recordPath_eq, Disk.destination_concat]
  · rfl
  · exact Text.endings_differ key "" ".json" ".." (by decide) (by decide) (by decide)

theorem joinStem_eq (plain : PlainKey key) (stem : String) :
    joinStem stem (key ++ ".json") =
      if stem.isEmpty then key ++ ".json" else stem ++ "/" ++ (key ++ ".json") := by
  have clean : String.ofList ((Text.trim (key ++ ".json")).toList.dropWhile fun c => c == '/') =
      key ++ ".json" := by
    have led : (key ++ ".json").toList.dropWhile (fun c => c == '/') = (key ++ ".json").toList := by
      refine List.dropWhile_eq_self_iff.mpr fun some_ isSlash => plain.file.noSlash ?_
      exact beq_iff_eq.mp isSlash ▸ List.getElem_mem some_
    rw [Text.trim_of_noBlank _ plain.file.noBlank, led, String.ofList_toList]
  have some_ : (key ++ ".json").isEmpty = false := by
    rw [← Bool.not_eq_true, String.isEmpty_iff, String.append_eq_empty_iff]
    exact fun empty => absurd empty.2 (by decide)
  rw [joinStem, clean, some_]
  rfl

/-- Two plain keys have two slots. -/
theorem slot_injective (plain : PlainKey key) (plainOther : PlainKey other) (store : RecordStore)
    (same : store.slot key = store.slot other) : key = other := by
  have sameFile (isFile : key ++ ".json" = other ++ ".json") : key = other :=
    (String.append_left_inj ".json").mp isFile
  cases store with
  | memory => exact Slot.memory.inj same
  | folder root =>
    have samePlace := Slot.file.inj same
    rw [plain.placeKey_eq, plainOther.placeKey_eq] at samePlace
    exact sameFile (Disk.key_append_injective _ _ _ samePlace)
  | bucket name stem =>
    have sameBlob := (String.append_right_inj _).mp (Slot.blob.inj same)
    rw [plain.joinStem_eq, plainOther.joinStem_eq] at sameBlob
    split at sameBlob
    · exact sameFile sameBlob
    · exact sameFile ((String.append_right_inj _).mp sameBlob)
  | database url table => exact Slot.row.inj same

end PlainKey

/-! ### The keys of a library -/

theorem plainKey_bookKey : PlainKey bookKey := plainKey_of_word bookKey (by decide)

theorem plainKey_assignmentsKey : PlainKey assignmentsKey :=
  plainKey_of_word assignmentsKey (by decide)

/-- The records of the book and of the assignments have two slots. -/
theorem slot_assignmentsKey_ne (store : RecordStore) :
    store.slot assignmentsKey ≠ store.slot bookKey := fun same =>
  absurd (plainKey_assignmentsKey.slot_injective plainKey_bookKey store same) (by decide)

end MarketSignal
