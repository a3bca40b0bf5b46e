/-
This file proves that a value reads back from its text, on one line as well as over several lines.
Two things are asked of the value: its whole numbers are short enough to be written at all, and the
names within each of its objects differ, since reading an object settles repeated names.

The induction follows the value; the items and the members behind the first one are taken together
with the blanks and the bracket that close them. The bound of the reader is twice the length of
what is still to be read, as everywhere in the reader.
-/
import MarketSignal.Proofs.Json.Number
import MarketSignal.Proofs.Json.Parts
import MarketSignal.Proofs.Json.Quoted
import MarketSignal.Proofs.Outcome
import MarketSignal.Proofs.Table

namespace MarketSignal

namespace Json

/-! ### Blanks -/

theorem skipFiller_append (blanks rest : List Char) (all : ∀ c ∈ blanks, isFiller c = true) :
    skipFiller (blanks ++ rest) = skipFiller rest :=
  List.dropWhile_append_of_pos all

theorem skipFiller_cons (c : Char) (rest : List Char) (noFiller : isFiller c = false) :
    skipFiller (c :: rest) = c :: rest := by
  rw [skipFiller, List.dropWhile_cons, noFiller, if_neg Bool.false_ne_true]

theorem skipFiller_blank (rest : List Char) : skipFiller (' ' :: rest) = skipFiller rest := rfl

/-- A name stands where blanks are passed over. -/
theorem skipFiller_name (name : String) (rest : List Char) :
    skipFiller (writtenText name ++ rest) = writtenText name ++ rest := rfl

theorem isFiller_lineStart (count : Nat) :
    ∀ c ∈ '\n' :: List.replicate count ' ', isFiller c = true := by
  intro c member
  rcases List.mem_cons.mp member with rfl | blank
  · rfl
  · rw [(List.mem_replicate.mp blank).2]
    rfl

namespace Spread

theorem lead_filler (spread : Spread) : ∀ c ∈ spread.lead, isFiller c = true := by
  cases spread with
  | line => exact fun c member => nomatch member
  | levels level => exact isFiller_lineStart _

theorem tail_filler (spread : Spread) : ∀ c ∈ spread.tail, isFiller c = true := by
  cases spread with
  | line => exact fun c member => nomatch member
  | levels level => exact isFiller_lineStart _

theorem between_filler (spread : Spread) :
    ∃ blanks, spread.between = ',' :: blanks ∧ ∀ c ∈ blanks, isFiller c = true := by
  cases spread with
  | line => exact ⟨[' '], rfl, fun c member => by rw [List.mem_singleton.mp member]; rfl⟩
  | levels level => exact ⟨_, rfl, isFiller_lineStart _⟩

end Spread

/-! ### How a value begins -/

/-- The first character of a value: no blank, no closing bracket, and no byte order mark. -/
def Opens (text : List Char) : Prop :=
  ∃ c others, text = c :: others ∧ isFiller c = false ∧ c ≠ ']' ∧ c ≠ '\x7d' ∧ c.toNat ≠ 0xFEFF

/-- A digit, perhaps with a minus sign before it. -/
def OpensNumber (text : List Char) : Prop :=
  ∃ negative digit others, text = signText negative ++ digit :: others ∧
    isCommonDigit digit = true

theorem opens_of_digit (c : Char) (digit : isCommonDigit c = true) :
    isFiller c = false ∧ c ≠ ']' ∧ c ≠ '\x7d' ∧ c.toNat ≠ 0xFEFF := by
  have range : 0x30 ≤ c.toNat ∧ c.toNat ≤ 0x39 := by simpa [isCommonDigit] using digit
  have differs (other : Char) (outside : other.toNat < 0x30 ∨ 0x39 < other.toNat) : c ≠ other := by
    rintro rfl
    omega
  refine ⟨?_, differs ']' (by decide), differs '\x7d' (by decide), by omega⟩
  simp only [isFiller, Bool.or_eq_false_iff, beq_eq_false_iff_ne]
  exact ⟨⟨⟨differs ' ' (by decide), differs '\n' (by decide)⟩, differs '\r' (by decide)⟩,
    differs '\t' (by decide)⟩

theorem OpensNumber.opens {text : List Char} (number : OpensNumber text) : Opens text := by
  obtain ⟨negative, digit, others, rfl, common⟩ := number
  cases negative with
  | true => exact ⟨'-', digit :: others, rfl, rfl, by decide, by decide, by decide⟩
  | false => exact ⟨digit, others, rfl, opens_of_digit digit common⟩

theorem OpensNumber.append {text : List Char} (number : OpensNumber text) (rest : List Char) :
    OpensNumber (text ++ rest) := by
  obtain ⟨negative, digit, others, rfl, common⟩ := number
  exact ⟨negative, digit, others ++ rest, by rw [List.append_assoc, List.cons_append], common⟩

theorem opensNumber_int (value : Int) : OpensNumber (digitsOfInt value) := by
  obtain ⟨first, others, written⟩ :=
    List.exists_cons_of_ne_nil (digitsOfNat_ne_nil value.natAbs)
  have common : isCommonDigit first = true :=
    digitsOfNat_common value.natAbs first (written ▸ List.mem_cons_self)
  refine ⟨decide (value < 0), first, others, ?_, common⟩
  unfold digitsOfInt signText
  rw [written]
  by_cases negative : value < 0 <;> simp [negative]

theorem opensNumber_float (value : Float) (negative : Bool) (magnitude : Binary)
    (shape : Shape.ofFloat value = .finite negative magnitude) :
    OpensNumber (writtenFloat value) := by
  obtain ⟨-, canonical⟩ := eq_of_shape_finite value negative magnitude shape
  obtain ⟨decimal, whole, decimals, power, spells, written, -⟩ :=
    magnitudeText_spells magnitude canonical
  obtain ⟨first, others, rfl, common⟩ := spells.isWhole.head
  refine ⟨negative, first, others ++ (fractionText decimals ++ powerText power), ?_, common⟩
  rw [writtenFloat_eq value negative magnitude shape, written, List.cons_append]

theorem opens_written (spread : Spread) (value : Json) : Opens (written spread value) := by
  cases value with
  | null => exact ⟨'n', _, rfl, rfl, by decide, by decide, by decide⟩
  | bool value =>
    cases value with
    | true => exact ⟨'t', _, rfl, rfl, by decide, by decide, by decide⟩
    | false => exact ⟨'f', _, rfl, rfl, by decide, by decide, by decide⟩
  | int value => rw [written]; exact (opensNumber_int value).opens
  | float value =>
    rw [written]
    cases shape : Shape.ofFloat value with
    | notANumber =>
      rw [writtenFloat, Layout.write, shape]
      exact ⟨'N', _, rfl, rfl, by decide, by decide, by decide⟩
    | infinite negative =>
      rw [writtenFloat, Layout.write, shape]
      cases negative with
      | true => exact ⟨'-', _, rfl, rfl, by decide, by decide, by decide⟩
      | false => exact ⟨'I', _, rfl, rfl, by decide, by decide, by decide⟩
    | finite negative magnitude => exact (opensNumber_float value negative magnitude shape).opens
  | str text => exact ⟨'"', _, rfl, rfl, by decide, by decide, by decide⟩
  | arr items => cases items <;> exact ⟨'[', _, rfl, rfl, by decide, by decide, by decide⟩
  | obj members =>
    cases members with
    | nil => exact ⟨'\x7b', _, rfl, rfl, by decide, by decide, by decide⟩
    | cons member rest => exact ⟨'\x7b', _, rfl, rfl, by decide, by decide, by decide⟩

/-- A value stands where blanks are passed over. -/
theorem skipFiller_written (spread : Spread) (value : Json) (rest : List Char) :
    skipFiller (written spread value ++ rest) = written spread value ++ rest := by
  obtain ⟨c, others, opens, noFiller, -⟩ := opens_written spread value
  rw [opens, List.cons_append, skipFiller_cons c _ noFiller]

/-! ### Reading one value -/

theorem readValue_number (limit : Option Nat) (bound : Nat) (text : List Char)
    (opens : OpensNumber text) : readValue limit (bound + 1) text = number limit text := by
  obtain ⟨negative, digit, others, rfl, common⟩ := opens
  have differs (other : Char) (outside : isCommonDigit other = false) : digit ≠ other := by
    rintro rfl
    rw [common] at outside
    cases outside
  unfold readValue
  cases negative with
  | true =>
    simp only [signText, if_true, List.cons_append, List.nil_append]
    split
    case h_9 equal =>
      injection equal with _ behind
      injection behind with same
      exact absurd same (differs 'I' rfl)
    case h_10 => rfl
    all_goals
      rename_i equal
      simp at equal
  | false =>
    simp only [signText, Bool.false_eq_true, if_false, List.nil_append]
    split
    case h_10 => rfl
    all_goals
      rename_i equal
      injection equal with same
      exact absurd same (differs _ rfl)

theorem readValue_float (limit : Option Nat) (bound : Nat) (value : Float) (rest : List Char)
    (ends : EndsNumber rest) :
    readValue limit (bound + 1) (writtenFloat value ++ rest) = .ok (.float value, rest) := by
  cases shape : Shape.ofFloat value with
  | notANumber =>
    rw [eq_of_shape_notANumber value shape]
    rfl
  | infinite negative =>
    rw [writtenFloat, Layout.write, shape, eq_of_shape_infinite value negative shape]
    cases negative <;> rfl
  | finite negative magnitude =>
    rw [readValue_number limit bound _
        ((opensNumber_float value negative magnitude shape).append rest),
      number_writtenFloat limit value negative magnitude shape rest ends]

theorem readValue_int (bound : Nat) (value : Int) (rest : List Char) (ends : EndsNumber rest)
    (short : exceedsDigitLimit value = false) :
    readValue (some digitLimit) (bound + 1) (digitsOfInt value ++ rest) =
      .ok (.int value, rest) := by
  rw [readValue_number _ bound _ ((opensNumber_int value).append rest)]
  refine number_int digitLimit value rest ends (digitsOfNat_length_le _ ?_)
  simpa [exceedsDigitLimit] using short

theorem readValue_str (limit : Option Nat) (bound : Nat) (text : String) (rest : List Char)
    (enough : (writtenText text).length ≤ bound + 1) :
    readValue limit (bound + 1) (writtenText text ++ rest) = .ok (.str text, rest) := by
  have written : writtenText text ++ rest =
      '"' :: (text.toList.flatMap writtenCharacter ++ '"' :: rest) := by
    simp only [writtenText, List.cons_append, List.append_assoc, List.nil_append]
  have room : text.toList.length < bound := by
    have least := length_le_written text.toList
    simp only [writtenText, List.length_cons, List.length_append, List.length_nil] at enough
    omega
  rw [written, readValue, quotedText_written _ text.toList rest bound room]
  show Except.ok _ = _
  rw [String.ofList_toList]

/-! ### What stands behind a value -/

theorem endsNumber_tail (spread : Spread) (bracket : Char) (rest : List Char)
    (closes : bracket = ']' ∨ bracket = '\x7d') : EndsNumber (spread.tail ++ bracket :: rest) := by
  cases spread with
  | line => exact endsNumber_cons _ _ (by rcases closes with rfl | rfl <;> decide)
  | levels level => exact endsNumber_cons _ _ (by decide)

theorem endsNumber_items (spread : Spread) (items : List Json) (closing : List Char)
    (ends : EndsNumber closing) : EndsNumber (writtenItems spread items ++ closing) := by
  cases items with
  | nil => exact ends
  | cons item others =>
    obtain ⟨blanks, isBetween, -⟩ := spread.between_filler
    rw [writtenItems, isBetween]
    exact endsNumber_cons _ _ (by decide)

theorem endsNumber_members (spread : Spread) (members : List (String × Json))
    (closing : List Char) (ends : EndsNumber closing) :
    EndsNumber (writtenMembers spread members ++ closing) := by
  cases members with
  | nil => exact ends
  | cons member others =>
    obtain ⟨blanks, isBetween, -⟩ := spread.between_filler
    rw [writtenMembers, isBetween]
    exact endsNumber_cons _ _ (by decide)

theorem skipFiller_tail (spread : Spread) (bracket : Char) (rest : List Char)
    (closes : bracket = ']' ∨ bracket = '\x7d') :
    skipFiller (spread.tail ++ bracket :: rest) = bracket :: rest := by
  rw [skipFiller_append _ _ spread.tail_filler]
  exact skipFiller_cons _ _ (by rcases closes with rfl | rfl <;> rfl)

/-! ### Lists and objects -/

/-- One step of the reader at an opening bracket and at an opening brace. -/
theorem readValue_bracket (limit : Option Nat) (bound : Nat) (rest : List Char) :
    readValue limit (bound + 1) ('[' :: rest) =
      (match skipFiller rest with
      | ']' :: left => .ok (.arr [], left)
      | first => do
        let (items, left) ← readItems limit bound first
        pure (.arr items, left)) := rfl

theorem readValue_brace (limit : Option Nat) (bound : Nat) (rest : List Char) :
    readValue limit (bound + 1) ('\x7b' :: rest) =
      (match skipFiller rest with
      | '\x7d' :: left => .ok (.obj [], left)
      | first => do
        let (members, left) ← readMembers limit bound first
        pure (.obj (Entries.settle members), left)) := rfl

/-- A list is read from its items on. -/
theorem readValue_arr (limit : Option Nat) (bound : Nat) (spread : Spread) (first : Json)
    (rest : List Char) :
    readValue limit (bound + 1) ('[' :: (spread.lead ++ (written spread.inner first ++ rest))) =
      (readItems limit bound (written spread.inner first ++ rest)).map
        fun (items, left) => (.arr items, left) := by
  obtain ⟨c, others, opens, noFiller, noBracket, -⟩ := opens_written spread.inner first
  rw [readValue_bracket, skipFiller_append _ _ spread.lead_filler, skipFiller_written, opens,
    List.cons_append]
  split
  case h_1 equal =>
    injection equal with same
    exact absurd same noBracket
  case h_2 => cases readItems limit bound (c :: (others ++ rest)) <;> rfl

/-- An object is read from its first name on. -/
theorem readValue_obj (limit : Option Nat) (bound : Nat) (spread : Spread) (name : String)
    (rest : List Char) :
    readValue limit (bound + 1) ('\x7b' :: (spread.lead ++ (writtenText name ++ rest))) =
      (readMembers limit bound (writtenText name ++ rest)).map
        fun (members, left) => (.obj (Entries.settle members), left) := by
  rw [readValue_brace, skipFiller_append _ _ spread.lead_filler, writtenText, List.cons_append,
    List.cons_append, skipFiller_cons '"' _ rfl]
  split
  case h_1 equal => simp at equal
  case h_2 =>
    cases readMembers limit bound
      ('"' :: (name.toList.flatMap writtenCharacter ++ ['"'] ++ rest)) <;> rfl

/-- Reading members starts with a name, which takes the quotes and the colon with it. -/
theorem readMembers_name (limit : Option Nat) (bound : Nat) (name : String) (first : Json)
    (text behind left : List Char) (members : List (String × Json))
    (room : (writtenText name).length ≤ bound + 1) (start : skipFiller text = text)
    (value : readValue limit bound text = .ok (first, behind))
    (closes : skipFiller behind = '\x7d' :: left ∧ members = [] ∨
      ∃ following, skipFiller behind = ',' :: following ∧
        readMembers limit bound (skipFiller following) = .ok (members, left)) :
    readMembers limit (bound + 1) (writtenText name ++ ':' :: ' ' :: text) =
      .ok ((name, first) :: members, left) := by
  have enough : name.toList.length < bound := by
    have least := length_le_written name.toList
    simp only [writtenText, List.length_cons, List.length_append, List.length_nil] at room
    omega
  have quoted : writtenText name ++ ':' :: ' ' :: text =
      '"' :: (name.toList.flatMap writtenCharacter ++ '"' :: ':' :: ' ' :: text) := by
    simp only [writtenText, List.cons_append, List.append_assoc, List.nil_append]
  rw [quoted, readMembers, quotedText_written _ name.toList _ bound enough, ok_bind]
  simp only [skipFiller_cons ':' _ rfl, skipFiller_blank, start, String.ofList_toList]
  rw [value, ok_bind]
  rcases closes with ⟨brace, rfl⟩ | ⟨following, comma, others⟩
  · simp only [brace]
    rfl
  · simp only [comma, others]
    rfl

/-! ### The round trip -/

/-- A bound that suffices for anything is at least two. -/
theorem exists_bound (bound : Nat) (text : List Char) (enough : 2 * text.length ≤ bound)
    (some : text ≠ []) : ∃ fuel, bound = fuel + 2 := by
  have positive := List.length_pos_of_ne_nil some
  exact ⟨bound - 2, by omega⟩

/-- A value is read back from its text, whatever follows, if the reader is given room. -/
def ReadsBack (value : Json) : Prop :=
  ∀ (spread : Spread) (bound : Nat) (rest : List Char), EndsNumber rest →
    2 * (written spread value).length ≤ bound + 1 →
    readValue (some digitLimit) (bound + 1) (written spread value ++ rest) = .ok (value, rest)

/-- The items of a list read back, and its closing bracket is taken. -/
theorem readItems_written (spread : Spread) (first : Json) (items : List Json) (bound : Nat)
    (rest : List Char) (parts : ∀ item ∈ first :: items, ReadsBack item)
    (enough : 2 * (written spread.inner first ++
      (writtenItems spread items ++ (spread.tail ++ [']']))).length ≤ bound) :
    readItems (some digitLimit) bound (written spread.inner first ++
      (writtenItems spread items ++ (spread.tail ++ ']' :: rest))) =
      .ok (first :: items, rest) := by
  induction items generalizing first bound with
  | nil =>
    obtain ⟨fuel, rfl⟩ := exists_bound bound _ enough (by simp)
    simp only [writtenItems, List.nil_append, List.length_append, List.length_cons,
      List.length_nil] at enough
    have ends := endsNumber_tail spread ']' rest (Or.inl rfl)
    rw [writtenItems, List.nil_append, readItems,
      parts first List.mem_cons_self spread.inner fuel _ ends (by omega), ok_bind]
    simp only [skipFiller_tail spread ']' rest (Or.inl rfl)]
    rfl
  | cons second others inductionHypothesis =>
    obtain ⟨fuel, rfl⟩ := exists_bound bound _ enough (by simp)
    obtain ⟨blanks, isBetween, allBlank⟩ := spread.between_filler
    have ends := endsNumber_items spread (second :: others) _
      (endsNumber_tail spread ']' rest (Or.inl rfl))
    simp only [List.length_append, List.length_cons, List.length_nil] at enough
    rw [readItems, parts first List.mem_cons_self spread.inner fuel _ ends (by omega), ok_bind]
    simp only [writtenItems, isBetween, List.cons_append, List.append_assoc, List.length_cons,
      List.length_append] at enough ⊢
    simp only [skipFiller_cons ',' _ rfl, skipFiller_append blanks _ allBlank, skipFiller_written]
    rw [inductionHypothesis second (fuel + 1) (fun item member => parts item
      (List.mem_cons_of_mem _ member))
      (by simp only [List.length_append, List.length_cons, List.length_nil]; omega)]
    rfl

/-- The members of an object read back, and its closing brace is taken. -/
theorem readMembers_written (spread : Spread) (name : String) (first : Json)
    (members : List (String × Json)) (bound : Nat) (rest : List Char)
    (parts : ∀ member ∈ (name, first) :: members, ReadsBack member.2)
    (enough : 2 * (writtenText name ++ ':' :: ' ' :: (written spread.inner first ++
      (writtenMembers spread members ++ (spread.tail ++ ['\x7d'])))).length ≤ bound) :
    readMembers (some digitLimit) bound (writtenText name ++
      ':' :: ' ' :: (written spread.inner first ++
        (writtenMembers spread members ++ (spread.tail ++ '\x7d' :: rest)))) =
      .ok ((name, first) :: members, rest) := by
  induction members generalizing name first bound with
  | nil =>
    obtain ⟨fuel, rfl⟩ := exists_bound bound _ enough (by simp)
    have ends := endsNumber_tail spread '\x7d' rest (Or.inr rfl)
    have closes := skipFiller_tail spread '\x7d' rest (Or.inr rfl)
    simp only [writtenMembers, List.nil_append, List.length_append, List.length_cons,
      List.length_nil] at enough ⊢
    exact readMembers_name _ (fuel + 1) name first _ _ rest [] (by omega)
      (skipFiller_written _ _ _)
      (parts (name, first) List.mem_cons_self spread.inner fuel _ ends (by dsimp only; omega))
      (Or.inl ⟨closes, rfl⟩)
  | cons second others inductionHypothesis =>
    obtain ⟨fuel, rfl⟩ := exists_bound bound _ enough (by simp)
    obtain ⟨secondName, secondValue⟩ := second
    obtain ⟨blanks, isBetween, allBlank⟩ := spread.between_filler
    have ends := endsNumber_members spread ((secondName, secondValue) :: others) _
      (endsNumber_tail spread '\x7d' rest (Or.inr rfl))
    simp only [writtenMembers, isBetween, List.cons_append, List.append_assoc, List.length_cons,
      List.length_append, List.length_nil] at enough ends ⊢
    refine readMembers_name _ (fuel + 1) name first _ _ rest _ (by omega)
      (skipFiller_written _ _ _)
      (parts (name, first) List.mem_cons_self spread.inner fuel _ ends (by dsimp only; omega))
      (Or.inr ⟨_, skipFiller_cons ',' _ rfl, ?_⟩)
    rw [skipFiller_append blanks _ allBlank, skipFiller_name]
    exact inductionHypothesis secondName secondValue (fuel + 1)
      (fun member present => parts member (List.mem_cons_of_mem _ present))
      (by simp only [List.length_append, List.length_cons, List.length_nil]; omega)

/-- A value whose objects are settled and whose numbers are short reads back from its text. -/
theorem readsBack (value : Json) (differ : NamesDiffer value)
    (short : hasLongNumber value = false) : ReadsBack value := by
  induction value using inductionOnParts with
  | null => exact fun _ _ _ _ _ => rfl
  | bool truth =>
    intro spread bound rest _ _
    cases truth <;> rfl
  | int whole =>
    intro spread bound rest ends _
    simp only [written]
    exact readValue_int bound whole rest ends short
  | float number =>
    intro spread bound rest ends _
    simp only [written]
    exact readValue_float _ bound number rest ends
  | str text =>
    intro spread bound rest _ enough
    simp only [written] at enough ⊢
    exact readValue_str _ bound text rest (by omega)
  | arr items parts =>
    intro spread bound rest _ enough
    cases items with
    | nil => rfl
    | cons first others =>
      have itemsRead (item : Json) (member : item ∈ first :: others) : ReadsBack item :=
        parts item member ((itemNamesDiffer_iff _).mp differ item member)
          ((anyLongItem_eq_false_iff _).mp short item member)
      simp only [written, List.cons_append, List.append_assoc, List.nil_append, List.length_cons,
        List.length_append, List.length_nil] at enough ⊢
      rw [readValue_arr, readItems_written spread first others bound rest itemsRead
        (by simp only [List.length_append, List.length_cons, List.length_nil]; omega)]
      rfl
  | obj members parts =>
    intro spread bound rest _ enough
    cases members with
    | nil => rfl
    | cons member others =>
      obtain ⟨name, first⟩ := member
      have membersRead (member : String × Json) (present : member ∈ (name, first) :: others) :
          ReadsBack member.2 :=
        parts member present ((memberNamesDiffer_iff _).mp differ.2 member present)
          ((anyLongMember_eq_false_iff _).mp short member present)
      simp only [written, List.cons_append, List.append_assoc, List.nil_append, List.length_cons,
        List.length_append, List.length_nil] at enough ⊢
      rw [readValue_obj, readMembers_written spread name first others bound rest membersRead
        (by simp only [List.length_append, List.length_cons, List.length_nil]; omega)]
      show Except.ok (obj (Entries.settle _), rest) = _
      rw [Entries.settle_of_distinct _ differ.1]

/-! ### Whole texts -/

theorem readCharacters_written (spread : Spread) (value : Json) (faithful : Faithful value) :
    readCharacters (some digitLimit) (written spread value) = .ok value := by
  obtain ⟨c, others, opens, noFiller, -, -, noMark⟩ := opens_written spread value
  have whole := readsBack value faithful.differ faithful.short spread
    (2 * (written spread value).length + 1) [] endsNumber_nil (by omega)
  have go : readCharacters.go (some digitLimit) (written spread value) = .ok value := by
    have skipped := skipFiller_written spread value []
    rw [List.append_nil] at skipped whole
    rw [readCharacters.go, skipped, whole]
    rfl
  rw [opens] at go ⊢
  rw [readCharacters, if_neg noMark, go]

/-- The text on one line reads back. -/
theorem read_line (value : Json) (faithful : Faithful value) : read value.line = .ok value := by
  rw [read, line, String.toList_ofList, readCharacters_written .line value faithful]

/-- The text over several lines reads back. -/
theorem read_page (value : Json) (faithful : Faithful value) : read value.page = .ok value := by
  rw [read, page, String.toList_ofList, readCharacters_written (.levels 0) value faithful]

end Json

end MarketSignal
