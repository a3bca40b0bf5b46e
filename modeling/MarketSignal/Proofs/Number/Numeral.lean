/-
This file proves what a text of digits is read as, once as a whole number and once as a
floating-point one. Such a text has no blank, sign, underscore or letter to it, so its characters
are its digits, those of other scripts turned into common ones. It is a number exactly if they are
all common then; a character that only looks like a digit is left, and no number has one. A text of
letters is no number either, apart from the three words for numbers that have no digits.
-/
import MarketSignal.Proofs.Number.Digits
import MarketSignal.Proofs.Number.Word

namespace MarketSignal

/-! ### Classes of characters that stay apart -/

namespace Text

theorem Ranges.exists_of_has {ranges : Ranges} {point : Nat} (inside : ranges.has point = true) :
    ∃ range ∈ ranges, range.1 ≤ point ∧ point ≤ range.2 := by
  induction ranges with
  | nil => exact absurd inside Bool.false_ne_true
  | cons range rest inductionHypothesis =>
    rw [Ranges.has] at inside
    split at inside
    case isTrue below => exact ⟨range, List.mem_cons_self, of_decide_eq_true inside, below⟩
    case isFalse =>
      obtain ⟨other, member, bounds⟩ := inductionHypothesis inside
      exact ⟨other, List.mem_cons_of_mem range member, bounds⟩

/-- A character of one class is in no class whose ranges are apart from those of the first. -/
theorem Ranges.has_eq_false {ranges others : Ranges} {point : Nat}
    (inside : ranges.has point = true)
    (apart : ∀ range ∈ ranges, ∀ other ∈ others, range.2 < other.1 ∨ other.2 < range.1) :
    others.has point = false := by
  obtain ⟨range, member, low, high⟩ := exists_of_has inside
  rw [← Bool.not_eq_true]
  intro alsoInside
  obtain ⟨other, otherMember, otherLow, otherHigh⟩ := exists_of_has alsoInside
  rcases apart range member other otherMember with below | above <;> omega

/-- Whether all ranges are apart from the points between two. -/
def Ranges.apartFrom (ranges : Ranges) (first last : Nat) : Bool :=
  ranges.all fun range => Nat.blt range.2 first || Nat.blt last range.1

/-- A digit does not lie between two points from between which the digits are apart. -/
theorem not_within_of_digit {c : Char} {first last : Nat} (digit : isDigitCharacter c = true)
    (apart : digitRanges.apartFrom first last = true) : ¬ (first ≤ c.toNat ∧ c.toNat ≤ last) := by
  obtain ⟨range, member, low, high⟩ := Ranges.exists_of_has digit
  have oneApart := List.all_eq_true.mp apart range member
  rw [Bool.or_eq_true, Nat.blt_eq, Nat.blt_eq] at oneApart
  omega

theorem isWhiteSpace_of_digit {c : Char} (digit : isDigitCharacter c = true) :
    isWhiteSpace c = false :=
  Ranges.has_eq_false digit (by decide +kernel)

theorem isBlank_of_digit {c : Char} (digit : isDigitCharacter c = true) : isBlank c = false :=
  Ranges.has_eq_false digit (by decide +kernel)

/-- Trimming leaves a text alone that has nothing to be dropped. -/
theorem trimBy_of_forall {drop : Char → Bool} {text : List Char}
    (kept : ∀ c ∈ text, drop c = false) : trimBy drop text = text := by
  have nothingDropped (list : List Char) (kept : ∀ c ∈ list, drop c = false) :
      list.dropWhile drop = list := by
    cases list with
    | nil => rfl
    | cons c rest => rw [List.dropWhile_cons, kept c List.mem_cons_self, if_neg Bool.false_ne_true]
  rw [trimBy, nothingDropped _ kept,
    nothingDropped _ fun c member => kept c (List.mem_reverse.mp member), List.reverse_reverse]

theorem digits_iff (text : String) :
    isDigits text = true ↔
      (∀ c ∈ text.toList, isDigitCharacter c = true) ∧ text.toList ≠ [] := by
  rw [isDigits, Bool.and_eq_true, List.all_eq_true, Bool.not_eq_true', List.isEmpty_eq_false_iff]

end Text

/-! ### Common digits -/

theorem isDigitCharacter_of_common {c : Char} (common : isCommonDigit c = true) :
    Text.isDigitCharacter c = true := by
  obtain ⟨low, high⟩ := of_decide_eq_true common
  show Text.Ranges.has Text.digitRanges c.toNat = true
  rw [Text.digitRanges, Text.Ranges.has, if_pos high, decide_eq_true_iff]
  exact low

theorem digitValue?_le {c : Char} {value : Nat} (isValue : Text.digitValue? c = some value) :
    value ≤ 9 := by
  unfold Text.digitValue? at isValue
  dsimp only at isValue
  split at isValue
  · split at isValue
    · cases isValue
      omega
    · cases isValue
  · obtain ⟨first, found, rfl⟩ := Option.map_eq_some_iff.mp isValue
    have near := List.find?_some found
    rw [decide_eq_true_iff] at near
    omega

theorem isCommonDigit_ofNat {value : Nat} (small : value ≤ 9) :
    isCommonDigit (Char.ofNat (0x30 + value)) = true := by
  interval_cases value <;> rfl

namespace Numeral

/-- The digits of a text, those of other scripts turned into common ones, are digits still. -/
theorem commonDigits_digits {text : List Char}
    (digits : ∀ c ∈ text, Text.isDigitCharacter c = true) :
    ∀ c ∈ commonDigits text, Text.isDigitCharacter c = true := by
  intro c member
  obtain ⟨written, isWritten, rfl⟩ := List.mem_map.mp member
  split
  case h_1 value isValue =>
    exact isDigitCharacter_of_common (isCommonDigit_ofNat (digitValue?_le isValue))
  case h_2 => exact digits written isWritten

theorem withoutUnderscores?_of_forall {text : List Char} (before : Option Char)
    (notBefore : before ≠ some '_') (none_ : ∀ c ∈ text, c ≠ '_') :
    withoutUnderscores? before text = some text := by
  induction text generalizing before with
  | nil => rw [withoutUnderscores?, if_neg notBefore]
  | cons c rest inductionHypothesis =>
    have notThis : c ≠ '_' := none_ c List.mem_cons_self
    have isOther : ¬ (before = some '_' && !isCommonDigit c) = true := by
      rw [decide_eq_false notBefore, Bool.false_and]
      exact Bool.false_ne_true
    rw [withoutUnderscores?, if_neg notThis, if_neg isOther, inductionHypothesis (some c)
      (fun same => notThis (Option.some.inj same))
      fun other member => none_ other (List.mem_cons_of_mem c member)]
    rfl

variable {text : String} (digits : Text.isDigits text = true)

include digits

/-- The characters of a text of digits are its digits. -/
theorem bare?_digits : bare? text = some (commonDigits text.toList) := by
  obtain ⟨each, -⟩ := (Text.digits_iff text).mp digits
  rw [bare?, Text.trimBy_of_forall fun c member => Text.isWhiteSpace_of_digit (each c member)]
  refine withoutUnderscores?_of_forall none nofun fun c member => ?_
  rintro rfl
  exact absurd (commonDigits_digits each '_' member) (by decide)

theorem splitSign_digits :
    splitSign (commonDigits text.toList) = (false, commonDigits text.toList) := by
  obtain ⟨each, -⟩ := (Text.digits_iff text).mp digits
  have common := commonDigits_digits each
  unfold splitSign
  split
  case h_1 written =>
    rw [written] at common
    exact absurd (common '-' List.mem_cons_self) (by decide)
  case h_2 written =>
    rw [written] at common
    exact absurd (common '+' List.mem_cons_self) (by decide)
  case h_3 => rfl

theorem commonDigits_isEmpty : (commonDigits text.toList).isEmpty = false := by
  obtain ⟨-, someDigits⟩ := (Text.digits_iff text).mp digits
  rw [List.isEmpty_eq_false_iff]
  exact fun nothing => someDigits (List.map_eq_nil_iff.mp nothing)

omit digits in
/-- A run of common digits is a number with nothing behind the point and no power of ten. -/
theorem unsigned?_common {characters : List Char} (notEmpty : characters.isEmpty = false)
    (common : ∀ c ∈ characters, isCommonDigit c = true) :
    unsigned? false characters = some (floatOfDecimal false (digitsValue 0 characters) 0) := by
  have split : spanDigits characters = (characters, []) := by
    have whole := spanDigits_append characters [] common nofun
    rwa [List.append_nil] at whole
  rw [unsigned?, split]
  dsimp only
  rw [notEmpty, Bool.false_and, if_neg Bool.false_ne_true, List.append_nil]
  rfl

omit digits in
/-- A digit without a value ends a number before the end of the text. -/
theorem unsigned?_uncommon {characters : List Char}
    (digits : ∀ c ∈ characters, Text.isDigitCharacter c = true)
    (uncommon : ¬ ∀ c ∈ characters, isCommonDigit c = true) :
    unsigned? false characters = none := by
  have joined := List.takeWhile_append_dropWhile (p := isCommonDigit) (l := characters)
  cases left : characters.dropWhile isCommonDigit with
  | nil =>
    rw [left, List.append_nil] at joined
    refine absurd (fun c member => ?_) uncommon
    rw [← joined] at member
    exact List.mem_takeWhile_imp member
  | cons c rest =>
    have digit : Text.isDigitCharacter c = true :=
      digits c (joined ▸ left ▸ List.mem_append_right _ List.mem_cons_self)
    have notPoint : c ≠ '.' := fun isPoint => absurd (isPoint ▸ digit) (by decide)
    have notPower : ¬ (c = 'e' ∨ c = 'E') := by
      rintro (isPower | isPower) <;> exact absurd (isPower ▸ digit) (by decide)
    have noPower : exponent? (c :: rest) = none := by rw [exponent?, if_neg notPower]
    simp [unsigned?, spanDigits, left, notPoint, noPower]

end Numeral

/-! ### Reading digits -/

section

open Numeral

theorem smallLetter_digit {c : Char} (digit : Text.isDigitCharacter c = true) :
    smallLetter c = c :=
  if_neg (Text.not_within_of_digit digit (by decide +kernel))

variable {text : String} (digits : Text.isDigits text = true)

include digits

/-- A text of digits is read as a whole number if they all have a value and are not too many. -/
theorem intOfText?_digits :
    intOfText? text =
      if (commonDigits text.toList).all isCommonDigit = true ∧ text.toList.length ≤ digitLimit then
        some ((digitsValue 0 (commonDigits text.toList) : Nat) : Int)
      else none := by
  have count : (commonDigits text.toList).length = text.toList.length := List.length_map _
  have refuses : (!(commonDigits text.toList).all isCommonDigit ||
        decide (digitLimit < text.toList.length)) = true ↔
      ¬ ((commonDigits text.toList).all isCommonDigit = true ∧
        text.toList.length ≤ digitLimit) := by
    rw [Bool.or_eq_true, Bool.not_eq_true', decide_eq_true_iff, not_and_or, Bool.not_eq_true,
      not_le]
  rw [intOfText?, bare?_digits digits]
  dsimp only [Option.bind_some]
  rw [splitSign_digits digits]
  dsimp only
  rw [commonDigits_isEmpty digits, count, Bool.false_or, if_congr refuses rfl rfl, ite_not]
  rfl

/-- A text of digits is read as a floating-point number if they all have a value, and then as the
nearest one to theirs. -/
theorem floatOfText?_digits :
    floatOfText? text =
      if (commonDigits text.toList).all isCommonDigit = true then
        some (floatOfDecimal false (digitsValue 0 (commonDigits text.toList)) 0)
      else none := by
  obtain ⟨each, -⟩ := (Text.digits_iff text).mp digits
  have areDigits := commonDigits_digits each
  have notEmpty := commonDigits_isEmpty digits
  rw [floatOfText?, bare?_digits digits]
  dsimp only [Option.bind_some]
  rw [splitSign_digits digits]
  dsimp only
  generalize commonDigits text.toList = characters at areDigits notEmpty ⊢
  have small : characters.map smallLetter = characters :=
    (List.map_congr_left fun c member => smallLetter_digit (areDigits c member)).trans
      (List.map_id' characters)
  have noWord {word : List Char} {c : Char} (inside : c ∈ word)
      (letter : Text.isDigitCharacter c = false) : characters ≠ word := by
    rintro rfl
    rw [areDigits c inside] at letter
    cases letter
  rw [small, if_neg, if_neg]
  · by_cases common : ∀ c ∈ characters, isCommonDigit c = true
    · rw [unsigned?_common notEmpty common, if_pos (List.all_eq_true.mpr common)]
    · rw [unsigned?_uncommon areDigits common, if_neg (mt List.all_eq_true.mp common)]
  · exact noWord (c := 'n') (by decide) (by decide)
  · rintro (isWord | isWord)
    · exact noWord (c := 'i') (by decide) (by decide) isWord
    · exact noWord (c := 'i') (by decide) (by decide) isWord

omit digits in
/-- The number nearest to a whole one, infinity if that lies beyond all finite numbers. -/
theorem nearestWordOfDecimal_whole (value : Nat) :
    nearestWordOfDecimal value 0 = min Binary.infinityWord (nearestWord value 1) := by
  unfold nearestWordOfDecimal
  by_cases zero : value = 0
  · rw [if_pos zero, zero]
    rfl
  · have near : ¬ (0 : Int) < -400 - (value.log2 : Int) := by omega
    rw [if_neg zero, if_neg (by decide), if_neg near]
    show min Binary.infinityWord (nearestWord (value * 10 ^ 0) (10 ^ 0)) = _
    rw [pow_zero, Nat.mul_one]

/-- What digits are read as is a number. -/
theorem isNotANumber_of_digits {value : Float} (isValue : floatOfText? text = some value) :
    isNotANumber value = false := by
  rw [floatOfText?_digits digits] at isValue
  split at isValue
  · cases isValue
    exact isNotANumber_floatOfWord _ _ (nearestWordOfDecimal_whole _ ▸ min_le_left _ _)
  · cases isValue

end

/-! ### Reading letters -/

/-- A common letter, small or capital. -/
def IsCommonLetter (c : Char) : Prop :=
  (0x41 ≤ c.toNat ∧ c.toNat ≤ 0x5A) ∨ (0x61 ≤ c.toNat ∧ c.toNat ≤ 0x7A)

theorem isWhiteSpace_of_letter {c : Char} (letter : IsCommonLetter c) :
    Text.isWhiteSpace c = false := by
  have inside : Text.Ranges.has [(0x41, 0x5A), (0x61, 0x7A)] c.toNat = true := by
    unfold IsCommonLetter at letter
    rw [Text.Ranges.has, Text.Ranges.has, Text.Ranges.has]
    split_ifs with capital small
    · exact decide_eq_true (by omega)
    · exact decide_eq_true (by omega)
    · omega
  exact Text.Ranges.has_eq_false inside (by decide +kernel)

section

open Numeral

variable {text : String} (letters : ∀ c ∈ text.toList, IsCommonLetter c)

include letters

theorem Numeral.bare?_letters : bare? text = some text.toList := by
  have noDigits : commonDigits text.toList = text.toList := by
    refine (List.map_congr_left fun c member => ?_).trans (List.map_id' text.toList)
    have noDigit : Text.digitValue? c = none := by
      have letter := letters c member
      unfold IsCommonLetter at letter
      rw [Text.digitValue?, if_pos (by omega), if_neg (by omega)]
    rw [noDigit]
  rw [bare?, Text.trimBy_of_forall fun c member => isWhiteSpace_of_letter (letters c member),
    noDigits]
  refine withoutUnderscores?_of_forall none nofun fun c member => ?_
  rintro rfl
  exact absurd (letters '_' member) (by simp [IsCommonLetter])

theorem Numeral.splitSign_letters : splitSign text.toList = (false, text.toList) := by
  unfold splitSign
  split
  case h_1 written =>
    exact absurd (letters '-' (written ▸ List.mem_cons_self)) (by simp [IsCommonLetter])
  case h_2 written =>
    exact absurd (letters '+' (written ▸ List.mem_cons_self)) (by simp [IsCommonLetter])
  case h_3 => rfl

/-- A text of letters is read as no whole number. -/
theorem intOfText?_letters : intOfText? text = none := by
  have refuses : (text.toList.isEmpty || !text.toList.all isCommonDigit ||
      decide (digitLimit < text.toList.length)) = true := by
    cases same : text.toList with
    | nil => rfl
    | cons c rest =>
      have letter := letters c (same ▸ List.mem_cons_self)
      unfold IsCommonLetter at letter
      have notDigit : isCommonDigit c = false := decide_eq_false (by omega)
      rw [List.all_cons, notDigit]
      rfl
  rw [intOfText?, bare?_letters letters]
  dsimp only [Option.bind_some]
  rw [splitSign_letters letters]
  dsimp only
  rw [if_pos refuses]

/-- A text of letters is read as no floating-point number unless it is one of three words. -/
theorem floatOfText?_letters
    (noWord : text.toList.map smallLetter ∉
      ["inf".toList, "infinity".toList, "nan".toList]) : floatOfText? text = none := by
  rw [List.mem_cons, List.mem_cons, List.mem_singleton] at noWord
  have noDigits : spanDigits text.toList = ([], text.toList) := by
    refine spanDigits_append [] text.toList nofun fun c isFirst => ?_
    have letter := letters c (List.mem_of_mem_head? isFirst)
    unfold IsCommonLetter at letter
    exact decide_eq_false (by omega)
  have noNumber : unsigned? false text.toList = none := by
    rw [unsigned?, noDigits]
    dsimp only
    split
    case h_1 written =>
      exact absurd (letters '.' (written ▸ List.mem_cons_self)) (by simp [IsCommonLetter])
    case h_2 => rfl
  rw [floatOfText?, bare?_letters letters]
  dsimp only [Option.bind_some]
  rw [splitSign_letters letters]
  dsimp only
  rw [if_neg fun isWord => noWord (isWord.elim Or.inl fun same => Or.inr (Or.inl same)),
    if_neg fun isWord => noWord (Or.inr (Or.inr isWord)), noNumber]

end

end MarketSignal
