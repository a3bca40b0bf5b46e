/-
This file proves what the two mappings between capital and small letters make of digits and of
words. Digits have no case in any script. A word of common letters is the small form of its own
spellings only, if it is written without the letters i and k: each of these two is also the small
form of an uncommon character, the capital i with a dot and the sign of the kelvin.
-/
import MarketSignal.Proofs.Number.Numeral
import MarketSignal.Text.LetterCase

namespace MarketSignal.Text

namespace LetterCase

theorem moved?_eq_none {runs : List Run} {point : Nat}
    (outside : ∀ run ∈ runs, ¬ (run.first ≤ point ∧ point ≤ run.last)) :
    moved? runs point = none := by
  refine Option.map_eq_none_iff.mpr (List.find?_eq_none.mpr fun run member found => ?_)
  rw [Bool.and_eq_true, decide_eq_true_iff] at found
  exact outside run member found.1

/-! ### Digits -/

theorem moved?_digit {runs : List Run} {c : Char} (digit : isDigitCharacter c = true)
    (apart : (runs.all fun run => digitRanges.apartFrom run.first run.last) = true) :
    moved? runs c.toNat = none :=
  moved?_eq_none fun run member =>
    not_within_of_digit digit (List.all_eq_true.mp apart run member)

theorem capital_digit {c : Char} (digit : isDigitCharacter c = true) : capital c = [c] := by
  have notLong : (longCapitals.find? fun entry => entry.1 == c.toNat) = none := by
    have apart : (longCapitals.all fun entry => digitRanges.apartFrom entry.1 entry.1) = true := by
      decide +kernel
    refine List.find?_eq_none.mpr fun entry member found => ?_
    exact not_within_of_digit digit (List.all_eq_true.mp apart entry member)
      ⟨(beq_iff_eq.mp found).le, (beq_iff_eq.mp found).ge⟩
  have notMoved : moved? capitalRuns c.toNat = none := moved?_digit digit (by decide +kernel)
  unfold capital
  dsimp only
  rw [if_neg (not_within_of_digit digit (by decide +kernel)), notLong, notMoved]
  exact ite_self _

theorem smallAfter_digits (before : List Char) {text : List Char}
    (digits : ∀ c ∈ text, isDigitCharacter c = true) : smallAfter before text = text := by
  induction text generalizing before with
  | nil => rfl
  | cons c rest inductionHypothesis =>
    have digit := digits c List.mem_cons_self
    have other {point : Nat} (apart : digitRanges.apartFrom point point = true) : c.toNat ≠ point :=
      fun same => not_within_of_digit digit apart ⟨same.ge, same.le⟩
    have notMoved : moved? smallRuns c.toNat = none := moved?_digit digit (by decide +kernel)
    rw [smallAfter, inductionHypothesis (c :: before) fun other member =>
      digits other (List.mem_cons_of_mem c member),
      if_neg (not_within_of_digit digit (by decide +kernel)), if_neg (other (by decide +kernel)),
      if_neg (other (by decide +kernel)), notMoved]
    exact congrArg (· ++ rest) (ite_self _)

end LetterCase

section

variable {text : String} (digits : isDigits text = true)

include digits

theorem capitals_digits : capitals text = text := by
  obtain ⟨each, -⟩ := (digits_iff text).mp digits
  have alone : text.toList.flatMap LetterCase.capital = text.toList.flatMap fun c => [c] :=
    List.flatMap_congr fun c member => LetterCase.capital_digit (each c member)
  rw [capitals, alone, List.flatMap_singleton', String.ofList_toList]

theorem smallLetters_digits : smallLetters text = text := by
  obtain ⟨each, -⟩ := (digits_iff text).mp digits
  rw [smallLetters, LetterCase.smallAfter_digits [] each, String.ofList_toList]

end

/-! ### Words -/

/-- A character is a form of a common small letter: the letter itself or the capital of it. -/
def IsForm (letter c : Char) : Prop := c.toNat = letter.toNat ∨ c.toNat + 0x20 = letter.toNat

/-- A common small letter that is the small form of itself and of its capital only. -/
def IsPlainLetter (letter : Char) : Prop :=
  (0x61 ≤ letter.toNat ∧ letter.toNat ≤ 0x7A) ∧ letter ≠ 'i' ∧ letter ≠ 'k'

namespace LetterCase

/-- No uncommon character is moved among the common ones except to the letter k. -/
theorem uncommon_of_moved {point image : Nat} (isMoved : moved? smallRuns point = some image)
    (uncommon : 0x80 ≤ point) : 0x80 ≤ image ∨ image = 0x6B := by
  obtain ⟨run, found, rfl⟩ := Option.map_eq_some_iff.mp isMoved
  have within := List.find?_some found
  have member := List.mem_of_find?_eq_some found
  rw [Bool.and_eq_true, decide_eq_true_iff] at within
  have bounds : ∀ run ∈ smallRuns, run.last < 0x80 ∨ 0x80 ≤ (run.first : Int) + run.distance ∨
      run.first = run.last ∧ (run.first : Int) + run.distance = 0x6B := by decide +kernel
  rcases bounds run member with common | uncommon | single <;> omega

theorem toNat_ofNat_of_common {point : Nat} (common : point < 0x80) :
    (Char.ofNat point).toNat = point := by
  rw [Char.toNat_ofNat, if_pos (Or.inl (by omega))]

/-- A plain letter comes first in the small form of a text only if a form of it comes first in the
text. -/
theorem isForm_of_smallAfter {before rest others : List Char} {c letter : Char}
    (small : smallAfter before (c :: rest) = letter :: others) (plain : IsPlainLetter letter) :
    IsForm letter c ∧ smallAfter (c :: before) rest = others := by
  obtain ⟨⟨low, high⟩, notI, notK⟩ := plain
  rw [smallAfter] at small
  split_ifs at small with common capital sigma dotted final
  · obtain ⟨rfl, same⟩ := List.cons.inj small
    refine ⟨Or.inr ?_, same⟩
    rw [toNat_ofNat_of_common (by omega)]
  · obtain ⟨rfl, same⟩ := List.cons.inj small
    exact ⟨Or.inl rfl, same⟩
  · obtain ⟨rfl, -⟩ := List.cons.inj small
    exact absurd high (by decide)
  · obtain ⟨rfl, -⟩ := List.cons.inj small
    exact absurd high (by decide)
  · obtain ⟨rfl, -⟩ := List.cons.inj small
    exact absurd rfl notI
  · obtain ⟨isLetter, -⟩ := List.cons.inj small
    cases isMoved : moved? smallRuns c.toNat with
    | none =>
      rw [isMoved] at isLetter
      subst isLetter
      exact absurd high (by simpa using by omega)
    | some image =>
      rw [isMoved] at isLetter
      subst isLetter
      rcases uncommon_of_moved isMoved (by omega) with uncommon | rfl
      · rw [Option.map_some, Option.getD_some, Char.toNat_ofNat] at low high
        split_ifs at low high <;> omega
      · exact absurd rfl notK

/-- A word of plain letters is the small form of its own spellings only. -/
theorem forms_of_smallAfter {before text word : List Char}
    (plain : ∀ letter ∈ word, IsPlainLetter letter) (small : smallAfter before text = word) :
    List.Forall₂ IsForm word text := by
  induction text generalizing before word with
  | nil =>
    subst small
    exact .nil
  | cons c rest inductionHypothesis =>
    cases word with
    | nil =>
      rw [smallAfter] at small
      split_ifs at small <;> cases small
    | cons letter others =>
      obtain ⟨isForm, behind⟩ := isForm_of_smallAfter small (plain letter List.mem_cons_self)
      exact .cons isForm (inductionHypothesis
        (fun other member => plain other (List.mem_cons_of_mem letter member)) behind)

theorem capital_of_isForm {letter c : Char} (isForm : IsForm letter c)
    (plain : IsPlainLetter letter) : capital c = capital letter := by
  obtain ⟨bounds, -⟩ := plain
  rcases isForm with same | isCapital
  · rw [Char.toNat_inj.mp same]
  · have back : letter.toNat - 0x20 = c.toNat := by omega
    unfold capital
    dsimp only
    rw [if_pos (by omega), if_neg (by omega), if_pos (by omega), if_pos bounds, back,
      Char.ofNat_toNat]

end LetterCase

section

variable {text word : String} (plain : ∀ letter ∈ word.toList, IsPlainLetter letter)
  (small : smallLetters text = word)

include plain small

theorem forms_of_smallLetters : List.Forall₂ IsForm word.toList text.toList := by
  have isSmall : LetterCase.smallAfter [] text.toList = word.toList := by
    rw [← small, smallLetters, String.toList_ofList]
  exact LetterCase.forms_of_smallAfter plain isSmall

/-- What is the same for all forms of a letter is the same for a spelling as for the word. -/
theorem map_of_smallLetters {Image : Type} {ofForm ofLetter : Char → Image}
    (each : ∀ letter c, IsPlainLetter letter → IsForm letter c → ofForm c = ofLetter letter) :
    text.toList.map ofForm = word.toList.map ofLetter := by
  have forms := forms_of_smallLetters plain small
  generalize word.toList = letters, text.toList = characters at plain forms
  induction forms with
  | nil => rfl
  | cons isForm _ inductionHypothesis =>
    rw [List.map_cons, List.map_cons, each _ _ (plain _ List.mem_cons_self) isForm,
      inductionHypothesis fun letter member => plain letter (List.mem_cons_of_mem _ member)]

theorem capitals_of_smallLetters : capitals text = capitals word := by
  have same := map_of_smallLetters plain small fun _ _ plain isForm =>
    LetterCase.capital_of_isForm isForm plain
  rw [capitals, capitals, List.flatMap_def, List.flatMap_def, same]

theorem smallLetter_of_smallLetters : text.toList.map Numeral.smallLetter = word.toList := by
  refine (map_of_smallLetters plain small fun letter c plain isForm => ?_).trans
    (List.map_id word.toList)
  obtain ⟨bounds, -⟩ := plain
  rw [Numeral.smallLetter]
  rcases isForm with same | isCapital
  · rw [if_neg (by omega)]
    exact Char.toNat_inj.mp same
  · rw [if_pos (by omega), isCapital, Char.ofNat_toNat]
    rfl

theorem letters_of_smallLetters : ∀ c ∈ text.toList, IsCommonLetter c := by
  intro c member
  have inWord : Numeral.smallLetter c ∈ word.toList :=
    smallLetter_of_smallLetters plain small ▸ List.mem_map_of_mem member
  obtain ⟨bounds, -⟩ := plain _ inWord
  rw [Numeral.smallLetter] at bounds
  split_ifs at bounds with capital
  · exact Or.inl capital
  · exact Or.inr bounds

end

end MarketSignal.Text
