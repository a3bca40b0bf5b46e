/-
This file says when the reader refuses a text for the length of a whole number: only if the text
holds a run of more digits than the limit, and always if it is nothing but such a run. Each step of
the reader leaves an end of the text that it was given, so what a later step meets was in the text
from the start.
-/
import MarketSignal.Proofs.Json.Limit
import MarketSignal.Proofs.Json.RoundTrip

namespace MarketSignal

namespace Json

/-- Some digits stand side by side in a text. -/
def HasRun (text : List Char) (count : Nat) : Prop :=
  ∃ digits, digits <:+: text ∧ digits.length = count ∧ ∀ c ∈ digits, isCommonDigit c = true

/-- A step of the reader leaves an end of the text, and what it refuses as too long is a run of
digits in the text. -/
structure Within {Read : Type} (limit : Nat) (text : List Char)
    (outcome : Except Refusal (Read × List Char)) : Prop where
  leaves : ∀ found left, outcome = .ok (found, left) → left <:+ text
  refuses : ∀ digits, outcome = .error (.tooManyDigits digits) → limit < digits ∧ HasRun text digits

section

variable {Read Other : Type} {limit : Nat} {text later : List Char}

theorem within_ok (found : Read) (isEnd : later <:+ text) :
    Within limit text (.ok (found, later) : Except Refusal (Read × List Char)) := by
  refine ⟨fun other left same => ?_, fun digits fails => (nomatch fails)⟩
  cases same
  exact isEnd

theorem within_refuse (complaint : Complaint) (left : List Char) :
    Within limit text (refuse complaint left : Except Refusal (Read × List Char)) :=
  ⟨fun _ _ fails => (nomatch fails), fun _ fails => (nomatch fails)⟩

/-- What is found in an end of the text is found in the text. -/
theorem Within.of_end {outcome : Except Refusal (Read × List Char)}
    (within : Within limit later outcome) (isEnd : later <:+ text) : Within limit text outcome := by
  refine ⟨fun found left finds => (within.leaves found left finds).trans isEnd,
    fun digits fails => ?_⟩
  obtain ⟨long, run, isRun, count, common⟩ := within.refuses digits fails
  exact ⟨long, run, isRun.trans isEnd.isInfix, count, common⟩

theorem Within.bind {outcome : Except Refusal (Read × List Char)}
    {next : Read × List Char → Except Refusal (Other × List Char)}
    (within : Within limit text outcome)
    (rest : ∀ found left, left <:+ text → Within limit text (next (found, left))) :
    Within limit text (outcome >>= next) := by
  cases isFound : outcome with
  | error refusal =>
    refine ⟨fun _ _ fails => (nomatch fails), fun digits fails => ?_⟩
    cases fails
    exact within.refuses digits isFound
  | ok result =>
    obtain ⟨found, left⟩ := result
    exact rest found left (within.leaves found left isFound)

end

/-! ### Texts between quotes -/

variable {limit : Nat}

theorem within_escape (opening text : List Char) : Within limit text (escape opening text) := by
  unfold escape
  split
  case h_1 => exact within_refuse _ _
  case h_2 a b c d next rest =>
    have left : next :: rest <:+ 'u' :: a :: b :: c :: d :: next :: rest :=
      ⟨['u', a, b, c, d], rfl⟩
    split
    case h_1 => exact within_refuse _ _
    case h_2 =>
      split
      case h_1 e f g h following remaining isHigh =>
        split
        case h_1 => exact within_refuse _ _
        case h_2 =>
          split
          · exact within_ok _ ⟨['u', a, b, c, d, '\\', 'u', e, f, g, h], rfl⟩
          · exact within_ok _ left
      case h_2 => exact within_ok _ left
  case h_3 => exact within_refuse _ _
  case h_4 c rest notCode notShort =>
    split
    · exact within_ok _ (List.suffix_cons c rest)
    · exact within_refuse _ _

theorem within_quotedText (opening : List Char) (bound : Nat) (text : List Char) :
    Within limit text (quotedText opening bound text) := by
  induction bound generalizing text with
  | zero => exact within_refuse _ _
  | succ bound inductionHypothesis =>
    unfold quotedText
    split
    case h_1 => exact within_refuse _ _
    case h_2 rest => exact within_ok _ (List.suffix_cons '"' rest)
    case h_3 rest =>
      refine ((within_escape opening rest).of_end (List.suffix_cons '\\' rest)).bind
        fun meant following isEnd => ?_
      exact ((inductionHypothesis following).of_end isEnd).bind
        fun characters left isLeft => within_ok _ isLeft
    case h_4 c rest noQuote noEscape =>
      split
      · exact within_refuse _ _
      · exact ((inductionHypothesis rest).of_end (List.suffix_cons c rest)).bind
          fun characters left isLeft => within_ok _ isLeft

/-! ### Numbers -/

theorem spanDigits_parts (text : List Char) : (spanDigits text).1 ++ (spanDigits text).2 = text :=
  List.takeWhile_append_dropWhile

theorem wholeDigits_parts (text : List Char) :
    (wholeDigits text).1 ++ (wholeDigits text).2 = text := by
  unfold wholeDigits
  split
  · rfl
  · exact spanDigits_parts text

theorem fractionDigits_end (text : List Char) : (fractionDigits text).2 <:+ text := by
  unfold fractionDigits
  split
  case h_1 rest =>
    dsimp only
    split
    · exact List.suffix_rfl
    · exact (List.dropWhile_suffix _).trans (List.suffix_cons '.' rest)
  case h_2 => exact List.suffix_rfl

theorem splitSign_end (text : List Char) : (Numeral.splitSign text).2 <:+ text := by
  unfold Numeral.splitSign
  split
  case h_1 rest => exact List.suffix_cons _ rest
  case h_2 rest => exact List.suffix_cons _ rest
  case h_3 => exact List.suffix_rfl

theorem powerDigits_end (text : List Char) : (powerDigits text).2 <:+ text := by
  unfold powerDigits
  split
  case h_1 c rest =>
    split
    · dsimp only
      split
      · exact List.suffix_rfl
      · exact ((List.dropWhile_suffix _).trans (splitSign_end rest)).trans (List.suffix_cons c rest)
    · exact List.suffix_rfl
  case h_2 => exact List.suffix_rfl

section

variable {text unsigned : List Char} (isEnd : unsigned <:+ text)

include isEnd

theorem hasRun_wholeDigits : HasRun text (wholeDigits unsigned).1.length := by
  refine ⟨_, List.IsInfix.trans ⟨[], (wholeDigits unsigned).2, ?_⟩ isEnd.isInfix, rfl,
    common_wholeDigits unsigned⟩
  exact wholeDigits_parts unsigned

/-- What is left behind a number is an end of the text. -/
theorem number_end : (powerDigits (fractionDigits (wholeDigits unsigned).2).2).2 <:+ text := by
  have behindWhole : (wholeDigits unsigned).2 <:+ text :=
    List.IsSuffix.trans ⟨_, wholeDigits_parts unsigned⟩ isEnd
  exact (powerDigits_end _).trans ((fractionDigits_end _).trans behindWhole)

end

theorem within_number (text : List Char) : Within limit text (number (some limit) text) := by
  unfold number
  dsimp only
  split
  -- with a sign and without one, and the digits are an end of the text either way
  all_goals
    split
    case isTrue => exact within_refuse _ _
    split
    case h_2 => exact within_ok _ (number_end (by simp))
    split
    case isFalse => exact within_ok _ (number_end (by simp))
    case isTrue isLong =>
      refine ⟨fun _ _ fails => (nomatch fails), fun digits fails => ?_⟩
      cases fails
      exact ⟨by simpa using isLong, hasRun_wholeDigits (by simp)⟩

/-! ### Values -/

/-- Readers to the given depth stay within the text. -/
structure StaysWithin (limit bound : Nat) : Prop where
  value : ∀ text, Within limit text (readValue (some limit) bound text)
  items : ∀ text, Within limit text (readItems (some limit) bound text)
  members : ∀ text, Within limit text (readMembers (some limit) bound text)

theorem skipFiller_end (text : List Char) : skipFiller text <:+ text := List.dropWhile_suffix _

theorem staysWithin (bound : Nat) : StaysWithin limit bound := by
  induction bound with
  | zero =>
    exact ⟨fun _ => within_refuse _ _, fun _ => within_refuse _ _, fun _ => within_refuse _ _⟩
  | succ bound inductionHypothesis =>
    refine ⟨fun text => ?_, fun text => ?_, fun text => ?_⟩
    · unfold readValue
      split
      case h_1 rest =>
        exact ((within_quotedText _ bound rest).of_end (List.suffix_cons '"' rest)).bind
          fun characters left isLeft => within_ok _ isLeft
      case h_2 rest =>
        have first := (skipFiller_end rest).trans (List.suffix_cons '[' rest)
        split
        case h_1 left closing =>
          exact within_ok _ ((List.suffix_cons ']' left).trans (closing ▸ first))
        case h_2 =>
          exact ((inductionHypothesis.items _).of_end first).bind
            fun items left isLeft => within_ok _ isLeft
      case h_3 rest =>
        have first := (skipFiller_end rest).trans (List.suffix_cons '\x7b' rest)
        split
        case h_1 left closing =>
          exact within_ok _ ((List.suffix_cons '\x7d' left).trans (closing ▸ first))
        case h_2 =>
          exact ((inductionHypothesis.members _).of_end first).bind
            fun members left isLeft => within_ok _ isLeft
      case h_4 left => exact within_ok _ ⟨['n', 'u', 'l', 'l'], rfl⟩
      case h_5 left => exact within_ok _ ⟨['t', 'r', 'u', 'e'], rfl⟩
      case h_6 left => exact within_ok _ ⟨['f', 'a', 'l', 's', 'e'], rfl⟩
      case h_7 left => exact within_ok _ ⟨['N', 'a', 'N'], rfl⟩
      case h_8 left => exact within_ok _ ⟨['I', 'n', 'f', 'i', 'n', 'i', 't', 'y'], rfl⟩
      case h_9 left => exact within_ok _ ⟨['-', 'I', 'n', 'f', 'i', 'n', 'i', 't', 'y'], rfl⟩
      case h_10 => exact within_number text
    · unfold readItems
      refine (inductionHypothesis.value text).bind fun item rest isRest => ?_
      have behind := (skipFiller_end rest).trans isRest
      dsimp only
      split
      case h_1 left closing =>
        exact within_ok _ ((List.suffix_cons ']' left).trans (closing ▸ behind))
      case h_2 following comma =>
        have next := (skipFiller_end following).trans
          ((List.suffix_cons ',' following).trans (comma ▸ behind))
        exact ((inductionHypothesis.items _).of_end next).bind
          fun items left isLeft => within_ok _ isLeft
      case h_3 => exact within_refuse _ _
    · unfold readMembers
      split
      case h_2 => exact within_refuse _ _
      case h_1 afterQuote =>
        refine ((within_quotedText _ bound afterQuote).of_end
          (List.suffix_cons '"' afterQuote)).bind fun name rest isRest => ?_
        have behindName := (skipFiller_end rest).trans isRest
        dsimp only
        split
        case h_2 => exact within_refuse _ _
        case h_1 afterColon colon =>
          have start := (skipFiller_end afterColon).trans
            ((List.suffix_cons ':' afterColon).trans (colon ▸ behindName))
          refine ((inductionHypothesis.value _).of_end start).bind fun value rest isRest => ?_
          have behind := (skipFiller_end rest).trans isRest
          dsimp only
          split
          case h_1 left closing =>
            exact within_ok _ ((List.suffix_cons '\x7d' left).trans (closing ▸ behind))
          case h_2 following comma =>
            have next := (skipFiller_end following).trans
              ((List.suffix_cons ',' following).trans (comma ▸ behind))
            exact ((inductionHypothesis.members _).of_end next).bind
              fun members left isLeft => within_ok _ isLeft
          case h_3 => exact within_refuse _ _

/-! ### Whole texts -/

/-- A text that is refused for the length of a number holds a run of so many digits, more than the
limit. -/
theorem hasRun_of_readCharacters {text : List Char} {digits : Nat}
    (refused : readCharacters (some limit) text = .error (.tooManyDigits digits)) :
    limit < digits ∧ HasRun text digits := by
  have whole (refused : readCharacters.go (some limit) text = .error (.tooManyDigits digits)) :
      limit < digits ∧ HasRun text digits := by
    have within : Within limit text
        (readValue (some limit) (2 * text.length + 2) (skipFiller text)) :=
      ((staysWithin _).value _).of_end (skipFiller_end text)
    unfold readCharacters.go at refused
    split at refused
    case h_1 refusal fails =>
      cases refusal with
      | complaint complaint left => cases refused
      | tooManyDigits count =>
        cases refused
        exact within.refuses digits fails
    case h_2 =>
      split at refused
      · cases refused
      · cases refused
  unfold readCharacters at refused
  split at refused
  · split at refused
    · cases refused
    · exact whole refused
  · exact whole refused

/-! ### A text that is one long number -/

theorem number_overlong (negative : Bool) (whole : List Char) (isWhole : WholePart whole)
    (long : limit < whole.length) :
    number (some limit) (signText negative ++ whole) = .error (.tooManyDigits whole.length) := by
  obtain ⟨first, others, isFirst, -⟩ := isWhole.head
  have notEmpty : whole.isEmpty = false := by rw [isFirst]; rfl
  have digits := wholeDigits_append whole [] isWhole endsNumber_nil.noDigitFirst
  have noSign := isWhole.noSign []
  rw [List.append_nil] at digits noSign
  unfold number
  cases negative <;>
    simp only [signText, if_true, Bool.false_eq_true, if_false, List.cons_append, List.nil_append,
      digits, notEmpty, fractionDigits, powerDigits, Option.map_some, long, decide_true,
      Option.getD_some]

/-- A text that is nothing but a number with more digits than the limit is refused. -/
theorem read_overlong (negative : Bool) (whole : List Char) (isWhole : WholePart whole)
    (long : digitLimit < whole.length) :
    read (String.ofList (signText negative ++ whole)) = .error (.tooManyDigits whole.length) := by
  obtain ⟨first, others, isFirst, common⟩ := isWhole.head
  have opensNumber : OpensNumber (signText negative ++ whole) :=
    ⟨negative, first, others, by rw [isFirst], common⟩
  obtain ⟨c, rest, opens, noFiller, -, -, noMark⟩ := opensNumber.opens
  have skipped : skipFiller (signText negative ++ whole) = signText negative ++ whole := by
    rw [opens, skipFiller_cons c rest noFiller]
  have go : readCharacters.go (some digitLimit) (signText negative ++ whole) =
      .error (.tooManyDigits whole.length) := by
    rw [readCharacters.go, skipped, readValue_number _ _ _ opensNumber,
      number_overlong negative whole isWhole long]
    rfl
  rw [read, String.toList_ofList]
  rw [opens] at go ⊢
  rw [readCharacters, if_neg noMark, go]

/-- So many ones are such a number. -/
theorem read_ones {count : Nat} (long : digitLimit < count) :
    read (String.ofList (List.replicate count '1')) = .error (.tooManyDigits count) := by
  obtain ⟨more, rfl⟩ := Nat.exists_eq_add_of_lt long
  have isWhole : WholePart (List.replicate (digitLimit + more + 1) '1') := by
    refine Or.inr ⟨'1', List.replicate (digitLimit + more) '1', rfl, by decide, fun c member => ?_⟩
    rw [List.eq_of_mem_replicate member]
    rfl
  have refused := read_overlong false _ isWhole (by rw [List.length_replicate]; omega)
  rwa [List.length_replicate] at refused

end Json

end MarketSignal
