/-
This file proves that the text of a value holds nothing but common characters and line feeds. So it
survives the way to a file and back: its bytes decode, and reading a text file leaves its line ends
alone.
-/
import MarketSignal.Proofs.Json.RoundTrip
import MarketSignal.Storage.RecordStore

namespace MarketSignal

namespace Json

/-! ### Common characters -/

/-- A line feed or one of the common characters that print. -/
def IsPlain (c : Char) : Prop := c = '\n' ∨ 0x20 ≤ c.toNat ∧ c.toNat ≤ 0x7E

theorem isPlain_of_digit (c : Char) (digit : isCommonDigit c = true) : IsPlain c := by
  have range : 0x30 ≤ c.toNat ∧ c.toNat ≤ 0x39 := by simpa [isCommonDigit] using digit
  exact Or.inr (by omega)

theorem isPlain_digits (value : Nat) : ∀ c ∈ digitsOfNat value, IsPlain c :=
  fun c member => isPlain_of_digit c (digitsOfNat_common value c member)

theorem isPlain_hexDigit (value : Nat) : IsPlain (Text.hexDigit (value % 16)) := by
  have small : value % 16 < 16 := Nat.mod_lt _ (by decide)
  interval_cases value % 16 <;> simp [IsPlain, Text.hexDigit]

theorem isPlain_unicodeEscape (unit : Nat) : ∀ c ∈ unicodeEscape unit, IsPlain c := by
  rw [unicodeEscape, hexDigits_four]
  simp only [List.forall_mem_cons, isPlain_hexDigit, true_and]
  exact ⟨by simp [IsPlain], by simp [IsPlain], fun c member => absurd member List.not_mem_nil⟩

theorem isPlain_writtenCharacter (c : Char) : ∀ written ∈ writtenCharacter c, IsPlain written := by
  unfold writtenCharacter
  dsimp only
  split_ifs with _ _ _ _ _ _ _ plain
  rotate_left 7
  · exact List.forall_mem_singleton.mpr (Or.inr plain)
  · exact isPlain_unicodeEscape _
  · exact List.forall_mem_append.mpr ⟨isPlain_unicodeEscape _, isPlain_unicodeEscape _⟩
  -- The seven characters with a letter of their own.
  all_goals simp [IsPlain]

theorem isPlain_writtenText (text : String) : ∀ c ∈ writtenText text, IsPlain c := by
  rw [writtenText, List.cons_append, List.forall_mem_cons, List.forall_mem_append]
  refine ⟨by simp [IsPlain], ?_, by simp [IsPlain]⟩
  intro c member
  obtain ⟨of, -, written⟩ := List.mem_flatMap.mp member
  exact isPlain_writtenCharacter of c written

/-! ### Numbers -/

theorem isPlain_digitsOfInt (value : Int) : ∀ c ∈ digitsOfInt value, IsPlain c := by
  unfold digitsOfInt
  split
  · exact List.forall_mem_cons.mpr ⟨by simp [IsPlain], isPlain_digits _⟩
  · exact isPlain_digits _

theorem isPlain_power (power : Option Int) : ∀ c ∈ powerText power, IsPlain c := by
  cases power with
  | none => exact fun c member => absurd member List.not_mem_nil
  | some place =>
    obtain ⟨digits, common, -, -, written⟩ := splitSign_power place []
    rw [List.append_nil, List.append_nil] at written
    rw [powerText, written, List.forall_mem_cons, List.forall_mem_cons]
    refine ⟨by simp [IsPlain], ?_, fun c member => isPlain_of_digit c (common c member)⟩
    split <;> simp [IsPlain]

theorem isPlain_magnitudeText (magnitude : Binary) (canonical : magnitude.Canonical) :
    ∀ c ∈ magnitudeText magnitude, IsPlain c := by
  obtain ⟨decimal, whole, decimals, power, spells, written, -⟩ :=
    magnitudeText_spells magnitude canonical
  rw [written]
  simp only [List.forall_mem_append]
  refine ⟨fun c member => isPlain_of_digit c (spells.isWhole.common c member), ?_,
    isPlain_power power⟩
  unfold fractionText
  split
  · exact fun c member => absurd member List.not_mem_nil
  · exact List.forall_mem_cons.mpr ⟨by simp [IsPlain],
      fun c member => isPlain_of_digit c (spells.common c member)⟩

theorem isPlain_writtenFloat (value : Float) : ∀ c ∈ writtenFloat value, IsPlain c := by
  cases shape : Shape.ofFloat value with
  | notANumber =>
    rw [writtenFloat, Layout.write, shape]
    simp [IsPlain, Layout.document]
  | infinite negative =>
    rw [writtenFloat, Layout.write, shape]
    cases negative <;> simp [IsPlain, Layout.document]
  | finite negative magnitude =>
    obtain ⟨-, canonical⟩ := eq_of_shape_finite value negative magnitude shape
    rw [writtenFloat_eq value negative magnitude shape, List.forall_mem_append]
    refine ⟨?_, isPlain_magnitudeText magnitude canonical⟩
    cases negative <;> simp [signText, IsPlain]

/-! ### Values -/

theorem isPlain_lineStart (count : Nat) : ∀ c ∈ '\n' :: List.replicate count ' ', IsPlain c := by
  intro c member
  rcases List.mem_cons.mp member with rfl | blank
  · exact Or.inl rfl
  · rw [(List.mem_replicate.mp blank).2]
    simp [IsPlain]

theorem Spread.isPlain (spread : Spread) :
    (∀ c ∈ spread.lead, IsPlain c) ∧ (∀ c ∈ spread.between, IsPlain c) ∧
      ∀ c ∈ spread.tail, IsPlain c := by
  cases spread with
  | line => simp [lead, between, tail, IsPlain]
  | levels level =>
    refine ⟨isPlain_lineStart _, ?_, isPlain_lineStart _⟩
    exact List.forall_mem_cons.mpr ⟨by simp [IsPlain], isPlain_lineStart _⟩

theorem isPlain_writtenItems (spread : Spread) (items : List Json)
    (parts : ∀ item ∈ items, ∀ c ∈ written spread.inner item, IsPlain c) :
    ∀ c ∈ writtenItems spread items, IsPlain c := by
  induction items with
  | nil => exact fun c member => absurd member List.not_mem_nil
  | cons item rest inductionHypothesis =>
    simp only [writtenItems, List.forall_mem_append]
    exact ⟨⟨spread.isPlain.2.1, parts item List.mem_cons_self⟩,
      inductionHypothesis fun other member => parts other (List.mem_cons_of_mem _ member)⟩

theorem isPlain_writtenMembers (spread : Spread) (members : List (String × Json))
    (parts : ∀ member ∈ members, ∀ c ∈ written spread.inner member.2, IsPlain c) :
    ∀ c ∈ writtenMembers spread members, IsPlain c := by
  induction members with
  | nil => exact fun c member => absurd member List.not_mem_nil
  | cons member rest inductionHypothesis =>
    obtain ⟨name, value⟩ := member
    simp only [writtenMembers, List.forall_mem_append, List.forall_mem_cons]
    exact ⟨⟨⟨spread.isPlain.2.1, isPlain_writtenText name⟩, by simp [IsPlain], by simp [IsPlain],
      parts (name, value) List.mem_cons_self⟩,
      inductionHypothesis fun other present => parts other (List.mem_cons_of_mem _ present)⟩

/-- The text of a value holds nothing but common characters and line feeds. -/
theorem isPlain_written (spread : Spread) (value : Json) :
    ∀ c ∈ written spread value, IsPlain c := by
  induction value using inductionOnParts generalizing spread with
  | null => simp [written, IsPlain]
  | bool truth => cases truth <;> simp [written, IsPlain]
  | int whole =>
    rw [written]
    exact isPlain_digitsOfInt whole
  | float number =>
    rw [written]
    exact isPlain_writtenFloat number
  | str text =>
    rw [written]
    exact isPlain_writtenText text
  | arr items parts =>
    cases items with
    | nil => simp [written, IsPlain]
    | cons first others =>
      simp only [written, List.forall_mem_append, List.forall_mem_cons]
      refine ⟨⟨⟨⟨⟨?_, spread.isPlain.1⟩, parts first List.mem_cons_self spread.inner⟩,
        isPlain_writtenItems spread others fun item member =>
          parts item (List.mem_cons_of_mem _ member) spread.inner⟩, spread.isPlain.2.2⟩,
        ?_, fun c member => absurd member List.not_mem_nil⟩ <;> simp [IsPlain]
  | obj members parts =>
    cases members with
    | nil => simp [written, IsPlain]
    | cons member others =>
      obtain ⟨name, first⟩ := member
      simp only [written, List.forall_mem_append, List.forall_mem_cons]
      refine ⟨⟨⟨⟨⟨⟨?_, spread.isPlain.1⟩, isPlain_writtenText name⟩, ?_, ?_,
        parts (name, first) List.mem_cons_self spread.inner⟩,
        isPlain_writtenMembers spread others fun member present =>
          parts member (List.mem_cons_of_mem _ present) spread.inner⟩, spread.isPlain.2.2⟩,
        ?_, fun c member => absurd member List.not_mem_nil⟩ <;> simp [IsPlain]

end Json

/-! ### The way to a file and back -/

namespace Text

theorem unifyLineEnds_of_noReturn (text : List Char) (noReturn : ∀ c ∈ text, c ≠ '\r') :
    unifyLineEnds text = text := by
  induction text with
  | nil => rfl
  | cons c rest inductionHypothesis =>
    have proper := noReturn c List.mem_cons_self
    rw [unifyLineEnds, inductionHypothesis fun other member =>
      noReturn other (List.mem_cons_of_mem _ member)]
    · exact fun _ same _ => proper same
    · exact fun same => proper same

theorem decode_toUTF8 (text : String) : decode text.toUTF8 = .ok text := by
  have whole : String.fromUTF8? text.toUTF8 = some text := dif_pos text.isValidUTF8
  rw [decode, whole]

end Text

/-- The bytes that are written for a record are read as that record. -/
theorem recordOfBytes_recordBytes (key : String) (value : Json) (bytes : ByteArray)
    (differ : value.NamesDiffer) (written : recordBytes value = .ok bytes) :
    recordOfBytes key bytes = .ok value := by
  obtain ⟨text, isText, isBytes⟩ := bind_eq_ok written
  injection isBytes with isBytes
  unfold Json.writePage at isText
  split at isText
  case isTrue long => cases isText
  case isFalse short =>
    injection isText with isText
    subst isText isBytes
    rw [recordOfBytes, Text.decode_toUTF8]
    simp only [Json.read_page value ⟨differ, by simpa using short⟩]

theorem recordBytes_eq (value : Json) (short : value.hasLongNumber = false) :
    recordBytes value = .ok value.page.toUTF8 := by
  rw [recordBytes, Json.writePage, short, if_neg Bool.false_ne_true, ok_bind]
  rfl

/-- The text of a document goes to a file and back. -/
theorem load_unifyLineEnds (value : Json) (faithful : value.Faithful) :
    Json.load (String.ofList (Text.unifyLineEnds value.page.toList)) = .ok value := by
  have noReturn (c : Char) (member : c ∈ value.page.toList) : c ≠ '\r' := by
    rintro rfl
    rw [Json.page, String.toList_ofList] at member
    rcases Json.isPlain_written _ value _ member with same | ⟨low, -⟩
    · cases same
    · exact absurd low (by decide)
  rw [Text.unifyLineEnds_of_noReturn _ noReturn, String.ofList_toList, Json.load,
    Json.read_page value faithful]

end MarketSignal
