/-
This file says what is restored from a text. A text that is not the text of a value, a value with
another version and a value that is no document are refused. What is left is restored, but for two
kinds of whole numbers that are not refused: one with more digits than the limit keeps the text from
being read, and one beyond the floating-point numbers keeps a weight or a threshold from being read.
-/
import MarketSignal.Proofs.Derailing
import MarketSignal.Proofs.Document.Verdict
import MarketSignal.Proofs.Json.Overlong

namespace MarketSignal

/-! ### Versions -/

/-- The document has no version but the one that backups are written with. -/
def Json.Current (document : Json) : Prop :=
  ∀ members version, document = .obj members → Entries.get? members "version" = some version →
    version.same (.str documentVersion) = true

theorem checkVersion_current {document : Json} (current : document.Current) :
    checkVersion document = .ok () := by
  unfold checkVersion
  cases document
  case obj members =>
    dsimp only
    cases found : Entries.get? members "version" with
    | none => rfl
    | some version =>
      dsimp only
      rw [if_pos (current members version rfl found)]
  all_goals rfl

theorem checkVersion_outdated {document : Json} (short : document.hasLongNumber = false)
    (outdated : ¬ document.Current) :
    ∃ detail, checkVersion document = .error (.malformed "$.version" detail) := by
  unfold Json.Current at outdated
  push Not at outdated
  obtain ⟨members, version, rfl, found, differs⟩ := outdated
  have shortVersion : version.hasLongNumber = false :=
    (Json.anyLongMember_eq_false_iff members).mp short _ (Entries.mem_of_get? _ _ _ found)
  obtain ⟨text, isText⟩ := version.spell_failsExactly.succeeds
    (by rw [shortVersion]; exact Bool.false_ne_true)
  unfold checkVersion
  dsimp only
  rw [found]
  dsimp only
  rw [if_neg differs, isText]
  exact ⟨_, rfl⟩

/-! ### Texts that are refused and texts that are not -/

/-- A text that is refused as a backup: it is not the text of a value, or the value has another
version or is no document. -/
inductive Unacceptable (text : String) : Prop where
  | notJson {complaint : Json.Complaint} {position line column : Nat}
    (malformed : Json.read text = .error (.malformed complaint position line column))
  | outdated {document : Json} (isRead : Json.read text = .ok document)
    (outdated : ¬ document.Current)
  | noDocument {document : Json} (isRead : Json.read text = .ok document)
    (noDocument : ¬ document.IsDocument)

/-- A text of which the reader of backups cannot make anything, not even refuse it. -/
inductive Unmanageable (text : String) : Prop where
  | overlong {digits : Nat} (overlong : Json.read text = .error (.tooManyDigits digits))
  | beyondRange {document : Json} (isRead : Json.read text = .ok document)
    (current : document.Current) (isDocument : document.IsDocument)
    (beyond : ∃ number ∈ bookNumbers (document.member "scenarios"), number.BeyondRange)

/-! ### Putting into words what is wrong -/

/-- No part of a document is longer than the whole. -/
theorem Json.Reaches.short {document part : Json} {place : Place} {role : Role}
    (reaches : document.Reaches place role part) (short : document.hasLongNumber = false) :
    part.hasLongNumber = false := by
  induction reaches with
  | root => exact short
  | step before holds inductionHypothesis =>
    cases holds with
    | named listed found =>
      exact (anyLongMember_eq_false_iff _).mp inductionHypothesis _
        (Entries.mem_of_get? _ _ _ found)
    | member every present =>
      exact (anyLongMember_eq_false_iff _).mp inductionHypothesis _ present
    | item every found =>
      exact (anyLongItem_eq_false_iff _).mp inductionHypothesis _ (List.mem_of_getElem? found)

/-- So whatever is wrong with a value that was read can be put into words. -/
theorem Json.speakable_of_short {document : Json} (short : document.hasLongNumber = false) :
    ¬ ∃ flaw ∈ documentFlaws document, flaw.Unspeakable := by
  rintro ⟨flaw, member, long, -⟩
  obtain ⟨role, reaches, -⟩ := (mem_documentFlaws_iff flaw).mp member
  rw [reaches.short short] at long
  cases long

/-! ### Restoring -/

namespace Book

variable {text : String}

theorem restore_of_read {document : Json} (isRead : Json.read text = .ok document) :
    Book.restore text = checkVersion document >>= fun _ => Book.ofDocument document := by
  unfold Book.restore
  rw [isRead]
  rfl

theorem restore_overlong {digits : Nat}
    (overlong : Json.read text = .error (.tooManyDigits digits)) :
    Book.restore text = .error (.misread (.tooManyDigits digits)) := by
  unfold Book.restore
  rw [overlong]
  rfl

/-- An unacceptable text is refused. -/
theorem restore_unacceptable (unacceptable : Unacceptable text) :
    ∃ fault, Book.restore text = .error fault ∧ fault.isFormat = true := by
  rcases unacceptable with malformed | ⟨isRead, outdated⟩ | @⟨document, isRead, noDocument⟩
  · unfold Book.restore
    rw [malformed]
    exact ⟨_, rfl, rfl⟩
  · obtain ⟨detail, refused⟩ :=
      checkVersion_outdated (Json.faithful_of_read isRead).short outdated
    rw [restore_of_read isRead, refused]
    exact ⟨_, rfl, rfl⟩
  · have short := (Json.faithful_of_read isRead).short
    by_cases current : document.Current
    · obtain ⟨flaw, detail, -, isFault⟩ := checkDocument_flawed grammarName document
        (mt (documentFlaws_eq_nil_iff document).mp noDocument) (Json.speakable_of_short short)
      rw [restore_of_read isRead, checkVersion_current current, ok_bind, Book.ofDocument, isFault]
      exact ⟨_, rfl, rfl⟩
    · obtain ⟨detail, refused⟩ := checkVersion_outdated short current
      rw [restore_of_read isRead, refused]
      exact ⟨_, rfl, rfl⟩

theorem typed_of_restore {book : Book} (restored : Book.restore text = .ok book) :
    Book.Typed book := by
  cases isRead : Json.read text with
  | error misread =>
    unfold Book.restore at restored
    rw [isRead] at restored
    cases misread <;> cases restored
  | ok document =>
    rw [restore_of_read isRead] at restored
    obtain ⟨_, -, isBook⟩ := bind_eq_ok restored
    exact Book.typed_of_ofDocument document book isBook

end Book

/-! ### Texts of documents -/

theorem Json.same_str_iff (value : Json) (known : String) :
    value.same (.str known) = true ↔ value = .str known := by
  cases value
  case str text => rw [Json.same, beq_iff_eq, Json.str.injEq]
  all_goals
    refine ⟨fun same => ?_, nofun⟩
    simp [Json.same, Json.wholeNumber?] at same

/-- The text is that of a value that the check of documents passes, and the value has no version but
the one that backups are written with. -/
structure Importable (text : String) (document : Json) : Prop where
  isRead : Json.read text = .ok document
  version : ∀ members version, document = .obj members →
    Entries.get? members "version" = some version → version = .str documentVersion
  passes : checkAgainst grammarName document = .ok ()

/-- A weight or a threshold of the document lies beyond the floating-point numbers. -/
def Json.Oversized (document : Json) : Prop :=
  ∃ number ∈ bookNumbers (document.member "scenarios"), number.BeyondRange

theorem Json.current_iff (document : Json) :
    document.Current ↔ ∀ members version, document = .obj members →
      Entries.get? members "version" = some version → version = .str documentVersion := by
  simp only [Json.Current, Json.same_str_iff]

section

variable {text : String} {document : Json}

theorem unacceptable_of_not_importable (isRead : Json.read text = .ok document)
    (differs : ¬ Importable text document) : Unacceptable text := by
  by_cases current : document.Current
  · refine .noDocument isRead fun isDocument => differs ⟨isRead, ?_, ?_⟩
    · exact document.current_iff.mp current
    · exact (checkAgainst_eq_ok_iff document).mpr isDocument
  · exact .outdated isRead current

variable (importable : Importable text document)

include importable

theorem Importable.restore_eq : Book.restore text = Book.ofDocument document := by
  rw [Book.restore_of_read importable.isRead,
    checkVersion_current (document.current_iff.mpr importable.version), ok_bind]

/-- An importable text is restored, unless a weight or a threshold is beyond the range. -/
theorem Importable.restore_failsExactly :
    FailsExactly .tooLarge document.Oversized (Book.restore text) := by
  have isDocument := (checkAgainst_eq_ok_iff document).mp importable.passes
  rw [importable.restore_eq]
  exact Book.ofDocument_flawless ((documentFlaws_eq_nil_iff document).mpr isDocument)

end

/-- How the restoring of a text ends: with a book, or at a number beyond the range, or at a number
that is too long, or with a refusal. -/
inductive Restores (text : String) : Except Fault Book → Prop where
  | book {document : Json} {book : Book} (importable : Importable text document)
    (fits : ¬ document.Oversized) : Restores text (.ok book)
  | tooLarge {document : Json} (importable : Importable text document)
    (oversized : document.Oversized) : Restores text (.error .tooLarge)
  | overlong {digits : Nat} (overlong : Json.read text = .error (.tooManyDigits digits)) :
    Restores text (.error (.misread (.tooManyDigits digits)))
  | refused {fault : Fault} (isFormat : fault.isFormat = true)
    (noDocument : ∀ document, ¬ Importable text document)
    (short : ∀ digits, Json.read text ≠ .error (.tooManyDigits digits)) :
    Restores text (.error fault)

namespace Book

/-- Without a number that is too long, a text that is not importable is refused. -/
theorem exists_refusal {text : String} (noDocument : ∀ document, ¬ Importable text document)
    (short : ∀ digits, Json.read text ≠ .error (.tooManyDigits digits)) :
    ∃ fault, Book.restore text = .error fault ∧ fault.isFormat = true := by
  cases isRead : Json.read text with
  | error misread =>
    cases misread with
    | malformed complaint position line column => exact restore_unacceptable (.notJson isRead)
    | tooManyDigits digits => exact absurd isRead (short digits)
  | ok document =>
    exact restore_unacceptable (unacceptable_of_not_importable isRead (noDocument document))

theorem restores_restore (text : String) : Restores text (Book.restore text) := by
  by_cases long : ∃ digits, Json.read text = .error (.tooManyDigits digits)
  · obtain ⟨digits, overlong⟩ := long
    rw [restore_overlong overlong]
    exact .overlong overlong
  by_cases hasDocument : ∃ document, Importable text document
  · obtain ⟨document, importable⟩ := hasDocument
    by_cases oversized : document.Oversized
    · rw [importable.restore_failsExactly.fails oversized]
      exact .tooLarge importable oversized
    · obtain ⟨book, isBook⟩ := importable.restore_failsExactly.succeeds oversized
      rw [isBook]
      exact .book importable oversized
  · have noDocument : ∀ document, ¬ Importable text document := not_exists.mp hasDocument
    have short := not_exists.mp long
    obtain ⟨fault, refused, isFormat⟩ := exists_refusal noDocument short
    rw [refused]
    exact .refused isFormat noDocument short

/-- A text is neither restored nor refused exactly if it is unmanageable. -/
theorem foreign_restore_iff {text : String} :
    Foreign (Book.restore text) ↔ Unmanageable text := by
  constructor
  · rintro ⟨fault, fails, isForeign⟩
    have ends := restores_restore text
    rw [fails] at ends
    cases ends with
    | @tooLarge document importable oversized =>
      exact .beyondRange importable.isRead (document.current_iff.mpr importable.version)
        ((checkAgainst_eq_ok_iff document).mp importable.passes) oversized
    | overlong overlong => exact .overlong overlong
    | refused isFormat =>
      rw [isOwn_of_isFormat isFormat] at isForeign
      cases isForeign
  · rintro (overlong | @⟨document, isRead, current, isDocument, oversized⟩)
    · exact ⟨_, restore_overlong overlong, rfl⟩
    · have importable : Importable text document :=
        ⟨isRead, document.current_iff.mp current, (checkAgainst_eq_ok_iff document).mpr isDocument⟩
      exact ⟨_, importable.restore_failsExactly.fails oversized, rfl⟩

/-- A text is restored exactly if it is that of a document whose weights and thresholds fit, and
refused exactly if it is that of no document and has no number that is too long. Numbers make two
exceptions: with one that has more digits than the limit the text is not read, and with one beyond
the floating-point numbers the document is not, and neither is a refusal. -/
theorem restore_exactly (text : String) :
    ((∃ book, Book.restore text = .ok book) ↔
        ∃ document, Importable text document ∧ ¬ document.Oversized) ∧
      ((∃ fault, Book.restore text = .error fault ∧ fault.isFormat = true) ↔
        (∀ document, ¬ Importable text document) ∧
          ∀ digits, Json.read text ≠ .error (.tooManyDigits digits)) ∧
      (Book.restore text = .error .tooLarge ↔
        ∃ document, Importable text document ∧ document.Oversized) ∧
      ∀ digits, Book.restore text = .error (.misread (.tooManyDigits digits)) ↔
        Json.read text = .error (.tooManyDigits digits) ∧ digitLimit < digits ∧
          Json.HasRun text.toList digits := by
  have ends := restores_restore text
  refine ⟨⟨?_, ?_⟩, ⟨?_, ?_⟩, ⟨?_, ?_⟩, fun digits => ⟨?_, ?_⟩⟩
  · rintro ⟨book, restored⟩
    rw [restored] at ends
    cases ends with
    | book importable fits => exact ⟨_, importable, fits⟩
  · rintro ⟨document, importable, fits⟩
    exact importable.restore_failsExactly.succeeds fits
  · rintro ⟨fault, restored, isFormat⟩
    rw [restored] at ends
    cases ends with
    | tooLarge => cases isFormat
    | overlong => cases isFormat
    | refused _ noDocument short => exact ⟨noDocument, short⟩
  · exact fun ⟨noDocument, short⟩ => exists_refusal noDocument short
  · intro restored
    rw [restored] at ends
    cases ends with
    | tooLarge importable oversized => exact ⟨_, importable, oversized⟩
    | refused isFormat => cases isFormat
  · rintro ⟨document, importable, oversized⟩
    exact importable.restore_failsExactly.fails oversized
  · intro restored
    rw [restored] at ends
    cases ends with
    | overlong overlong => exact ⟨overlong, Json.hasRun_of_readCharacters overlong⟩
    | refused isFormat => cases isFormat
  · exact fun ⟨overlong, _⟩ => restore_overlong overlong

/-! ### Two texts that are not restored and not refused -/

/-- The document of a scenario with one condition of the given weight. -/
def weighed (weight : Int) : Json :=
  documentOf (.obj [("s", .obj [("conditions", .obj
    [("c", .obj [("type", .str "text"), ("weight", .int weight)])])])])

theorem faithful_weighed {weight : Int} (short : exceedsDigitLimit weight = false) :
    (weighed weight).Faithful := by
  have entry {name : String} {value : Json} (faithful : value.Faithful) :
      (Json.obj [(name, value)]).Faithful :=
    Json.faithful_obj _ (List.nodup_singleton _) (List.forall_mem_singleton.mpr faithful)
  refine entry (entry (entry (entry (Json.faithful_obj _
    (show List.Nodup ["type", "weight"] by decide) ?_))))
  rw [List.forall_mem_cons, List.forall_mem_singleton]
  exact ⟨Json.faithful_str _, trivial, short⟩

/-- The document passes the check, but its weight is beyond the range. -/
theorem restore_weighed {weight : Int} (short : exceedsDigitLimit weight = false)
    (beyond : floatOfInt? weight = none) :
    Book.restore (weighed weight).page = .error .tooLarge := by
  have importable : Importable (weighed weight).page (weighed weight) := by
    refine ⟨Json.read_page _ (faithful_weighed short), ?_, ?_⟩
    · rintro members version ⟨⟩ found
      cases found
    · exact (checkAgainst_eq_ok_iff _).mpr ((documentFlaws_eq_nil_iff _).mp rfl)
  exact importable.restore_failsExactly.fails
    ⟨.int weight, List.mem_cons_self, weight, rfl, beyond⟩

/-- A number of 4301 digits alone and a document with a weight of 401 digits are neither restored
nor refused. -/
theorem restore_unrefused :
    Book.restore (String.ofList (List.replicate 4301 '1')) =
        .error (.misread (.tooManyDigits 4301)) ∧
      Book.restore (weighed (10 ^ 200 * 10 ^ 200)).page = .error .tooLarge :=
  ⟨restore_overlong (Json.read_ones (by decide)),
    restore_weighed (by decide +kernel) (by decide +kernel)⟩

end Book

end MarketSignal
