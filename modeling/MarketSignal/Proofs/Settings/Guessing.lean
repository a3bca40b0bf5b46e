/-
This file compares a line of a file with a variable of the environment that give a setting the same
value. A file takes the words for truth values and texts of digits as truth values and as whole
numbers, where the environment has texts only. This makes no difference to settings that look a name
up, and none to numbers that are given by their digits. It does to others: a setting that keeps a
text keeps what was guessed as it is written anew, without zeros in front; a setting that takes a
number takes a truth value but not the word for one; and where a truth value is asked for, a file
takes every number but zero for yes and the environment only the digit one.
-/
import MarketSignal.Proofs.Json.Limit
import MarketSignal.Proofs.Settings.OneLine
import MarketSignal.Proofs.Text.LetterCase

namespace MarketSignal

namespace Settings

/-! ### Ends -/

/-- Two loads end alike: with the same settings, or with refusals of the same class. -/
inductive EndAlike : Except Fault Settings → Except Fault Settings → Prop
  | accepted (settings : Settings) : EndAlike (.ok settings) (.ok settings)
  | refused {first second : Fault} {faultClass : FaultClass}
    (ofFirst : first.faultClass? = some faultClass)
    (ofSecond : second.faultClass? = some faultClass) : EndAlike (.error first) (.error second)

theorem endAlike_self {outcome : Except Fault Settings} (values : RefusesValues outcome) :
    EndAlike outcome outcome := by
  cases outcome with
  | error fault => exact .refused (values fault rfl) (values fault rfl)
  | ok settings => exact .accepted settings

theorem not_endAlike {settings : Settings} {fault : Fault} :
    ¬ EndAlike (.ok settings) (.error fault) := nofun

/-- Values that a setting takes lead to the same settings if it takes them as the same value. -/
theorem endAlike_set_iff {setting : Setting} {first second left right : Json}
    (ofFirst : taken setting first = .ok left) (ofSecond : taken setting second = .ok right) :
    EndAlike (default.set setting first) (default.set setting second) ↔ left = right := by
  obtain ⟨one, isOne⟩ := exists_of_taken ofFirst default
  obtain ⟨other, isOther⟩ := exists_of_taken ofSecond default
  obtain ⟨isLeft, leftElsewhere⟩ := (set_eq_ok_iff default one setting first).mp isOne
  obtain ⟨isRight, rightElsewhere⟩ := (set_eq_ok_iff default other setting second).mp isOther
  cases isLeft.symm.trans ofFirst
  cases isRight.symm.trans ofSecond
  rw [isOne, isOther]
  constructor
  · intro alike
    cases alike
    rfl
  · intro same
    have sameSettings : one = other := ext_value fun name => by
      by_cases isSetting : name = setting
      · rw [isSetting, same]
      · rw [leftElsewhere name isSetting, rightElsewhere name isSetting]
    rw [sameSettings]
    exact .accepted other

/-! ### What a value stands for -/

/-- The word for a truth value. -/
def truthWord (truth : Bool) : String := if truth then "true" else "false"

/-- A value stands for something else than its text in a file. -/
inductive Guess (value : String) : Json → Prop
  | truth {truth : Bool} (isWord : Text.smallLetters value = truthWord truth) :
    Guess value (.bool truth)
  | number {whole : Int} (digits : Text.isDigits value = true)
    (isNumber : intOfText? value = some whole) : Guess value (.int whole)

/-- A text is a word for a truth value in any letters, or digits. -/
def IsGuessed (text : String) : Prop :=
  (∃ truth, Text.smallLetters text = truthWord truth) ∨ Text.isDigits text = true

theorem truthWord_plain (truth : Bool) :
    ∀ letter ∈ (truthWord truth).toList, Text.IsPlainLetter letter := by
  cases truth <;> simp [truthWord, Text.IsPlainLetter]

theorem scalar_of_fitsLine {value : String} (fits : FitsLine value) :
    scalar value.toList =
      if Text.smallLetters value = truthWord true then .ok (.bool true)
      else if Text.smallLetters value = truthWord false then .ok (.bool false)
      else if Text.isDigits value then
        match intOfText? value with
        | some whole => .ok (.int whole)
        | none => .error .notNumber
      else .ok (.str value) := by
  rw [scalar, Text.trimBy_of_trim fits.trimmed, Text.trimBy_of_forall fits.unquoted,
    String.ofList_toList]
  rfl

theorem scalar_text {value : String} (fits : FitsLine value) (noGuess : ¬ IsGuessed value) :
    scalar value.toList = .ok (.str value) := by
  have noWord (truth : Bool) : Text.smallLetters value ≠ truthWord truth :=
    fun isWord => noGuess (Or.inl ⟨truth, isWord⟩)
  rw [scalar_of_fitsLine fits, if_neg (noWord true), if_neg (noWord false),
    if_neg fun digits => noGuess (Or.inr digits)]

theorem scalar_digits {value : String} (fits : FitsLine value)
    (digits : Text.isDigits value = true) :
    scalar value.toList =
      match intOfText? value with
      | some whole => .ok (.int whole)
      | none => .error .notNumber := by
  have noWord (truth : Bool) : Text.smallLetters value ≠ truthWord truth := by
    rw [Text.smallLetters_digits digits]
    rintro rfl
    cases truth <;> exact absurd digits (by decide)
  rw [scalar_of_fitsLine fits, if_neg (noWord true), if_neg (noWord false), if_pos digits]

theorem Guess.scalar {value : String} {guess : Json} (isGuess : Guess value guess)
    (fits : FitsLine value) : scalar value.toList = .ok guess := by
  cases isGuess with
  | @truth truth isWord =>
    rw [scalar_of_fitsLine fits, isWord]
    cases truth
    · rw [if_neg (by decide), if_pos rfl]
    · rw [if_pos rfl]
  | number digits isNumber => rw [scalar_digits fits digits, isNumber]

/-- What digits stand for is a whole number that is not too long, and nearest to it is what they
stand for as a floating-point number. -/
theorem exists_of_digits {value : String} {whole : Int} (digits : Text.isDigits value = true)
    (isNumber : intOfText? value = some whole) :
    ∃ number : Nat, whole = number ∧ number < 10 ^ digitLimit ∧
      floatOfText? value = some (floatOfDecimal false number 0) := by
  rw [intOfText?_digits digits] at isNumber
  split at isNumber
  case isTrue within =>
    obtain ⟨common, short⟩ := within
    have count : (Numeral.commonDigits value.toList).length = value.toList.length :=
      List.length_map _
    refine ⟨_, (Option.some.inj isNumber).symm, ?_, ?_⟩
    · exact (digitsValue_lt _ (List.all_eq_true.mp common)).trans_le
        (Nat.pow_le_pow_right (by decide) (count ▸ short))
    · rw [floatOfText?_digits digits, if_pos common]
  case isFalse => cases isNumber

theorem display_number {number : Nat} (short : number < 10 ^ digitLimit) :
    (Json.int number).display = .ok (String.ofList (digitsOfNat number)) := by
  have notLong : (Json.int number).hasLongNumber = false := by
    rw [Json.hasLongNumber, exceedsDigitLimit, Int.natAbs_natCast]
    exact decide_eq_false (Nat.not_le.mpr short)
  rw [Json.display, Json.shown?, notLong]
  rfl

theorem isDigits_digitsOfNat (number : Nat) :
    Text.isDigits (String.ofList (digitsOfNat number)) = true := by
  rw [Text.digits_iff, String.toList_ofList]
  exact ⟨fun c member => isDigitCharacter_of_common (digitsOfNat_common number c member),
    digitsOfNat_ne_nil number⟩

theorem trim_digits {text : String} (digits : Text.isDigits text = true) :
    Text.trim text = text := by
  obtain ⟨each, -⟩ := (Text.digits_iff text).mp digits
  rw [Text.trim, Text.trimBy_of_forall fun c member => Text.isBlank_of_digit (each c member),
    String.ofList_toList]

/-- A guess is shown as a text that the same would be guessed from. -/
theorem Guess.display {value : String} {guess : Json} (isGuess : Guess value guess) :
    ∃ text, guess.display = .ok text ∧ IsGuessed text ∧ Text.trim text = text := by
  cases isGuess with
  | @truth truth =>
    cases truth
    · exact ⟨"False", rfl, Or.inl ⟨false, by decide +kernel⟩, by decide +kernel⟩
    · exact ⟨"True", rfl, Or.inl ⟨true, by decide +kernel⟩, by decide +kernel⟩
  | number digits isNumber =>
    obtain ⟨number, rfl, short, -⟩ := exists_of_digits digits isNumber
    have areDigits := isDigits_digitsOfNat number
    exact ⟨_, display_number short, Or.inr areDigits, trim_digits areDigits⟩

/-! ### Settings that look a name up -/

theorem ofName?_guessed {text : String} (isGuessed : IsGuessed text) :
    StoreKind.ofName? (Text.smallLetters text) = none ∧
      Level.ofName? (Text.capitals text) = none := by
  rcases isGuessed with ⟨truth, isWord⟩ | digits
  · rw [isWord, Text.capitals_of_smallLetters (truthWord_plain truth) isWord]
    cases truth <;> exact ⟨by decide +kernel, by decide +kernel⟩
  · rw [Text.smallLetters_digits digits, Text.capitals_digits digits]
    constructor
    · refine List.find?_eq_none.mpr fun kind _ found => ?_
      rw [← beq_iff_eq.mp found] at digits
      cases kind <;> exact absurd digits (by decide)
    · refine List.find?_eq_none.mpr fun level _ found => ?_
      rw [← beq_iff_eq.mp found] at digits
      cases level <;> exact absurd digits (by decide)

/-- A setting that looks a name up refuses what is guessed. -/
theorem refuses_guessed {setting : Setting} (isChoice : setting = .store ∨ setting = .level)
    {value : Json} {text : String} (shown : value.display = .ok text)
    (isGuessed : IsGuessed text) (trimmed : Text.trim text = text) :
    ∃ message, default.set setting value = .error (.setting message) := by
  obtain ⟨noStore, noLevel⟩ := ofName?_guessed isGuessed
  rcases isChoice with rfl | rfl
  · refine ⟨"Unsupported primary_store: " ++ Text.smallLetters text, ?_⟩
    rw [Settings.set, storeKind, shown, ok_bind, trimmed]
    dsimp only
    rw [noStore]
    rfl
  · refine ⟨"Unsupported log_level: " ++ Text.capitals text, ?_⟩
    rw [Settings.set, journalLevel, shown, ok_bind, trimmed]
    dsimp only
    rw [noLevel]
    rfl

theorem Guess.isGuessed {value : String} {guess : Json} (isGuess : Guess value guess) :
    IsGuessed value := by
  cases isGuess with
  | truth isWord => exact Or.inl ⟨_, isWord⟩
  | number digits => exact Or.inr digits

theorem endAlike_choice {setting : Setting} (isChoice : setting = .store ∨ setting = .level)
    {value : String} {guess : Json} (isGuess : Guess value guess)
    (trimmed : Text.trim value = value) :
    EndAlike (default.set setting guess) (default.set setting (.str value)) := by
  obtain ⟨text, shown, isGuessed, textTrimmed⟩ := isGuess.display
  obtain ⟨first, ofFirst⟩ := refuses_guessed isChoice shown isGuessed textTrimmed
  obtain ⟨second, ofSecond⟩ :=
    refuses_guessed isChoice (Json.display_str value) isGuess.isGuessed trimmed
  rw [ofFirst, ofSecond]
  exact .refused rfl rfl

/-! ### Settings that keep a text -/

/-- A setting keeps the text that its value is shown as. -/
def KeepsText (setting : Setting) : Prop :=
  setting ∈ [.dataFolder, .bucket, .stem, .databaseUrl, .seedSource, .outboxTarget]

instance (setting : Setting) : Decidable (KeepsText setting) :=
  inferInstanceAs (Decidable (setting ∈ _))

theorem optionalText_shown {value : Json} {text : String} (notNull : value.isNull = false)
    (shown : value.display = .ok text) (trimmed : Text.trim text = text)
    (notEmpty : text.isEmpty = false) : optionalText value = .ok (some text) := by
  rw [optionalText, notNull, if_neg Bool.false_ne_true, shown]
  show Except.ok (if (Text.trim text).isEmpty then none else some (Text.trim text)) = _
  rw [trimmed, notEmpty]
  rfl

theorem taken_text {setting : Setting} (keeps : KeepsText setting) {value : Json} {text : String}
    (notNull : value.isNull = false) (shown : value.display = .ok text)
    (trimmed : Text.trim text = text) (notEmpty : text.isEmpty = false) :
    taken setting value = .ok (.str text) := by
  have optional := optionalText_shown notNull shown trimmed notEmpty
  unfold taken
  cases setting with
  | dataFolder | bucket | databaseUrl | outboxTarget =>
    rw [Settings.set, optional]
    rfl
  | stem | seedSource =>
    rw [Settings.set, shown]
    rfl
  | store | timeout | retries | markets | level | writesJson => simp [KeepsText] at keeps

theorem IsGuessed.isEmpty {text : String} (isGuessed : IsGuessed text) : text.isEmpty = false := by
  rw [← Bool.not_eq_true, String.isEmpty_iff]
  rintro rfl
  rcases isGuessed with ⟨truth, isWord⟩ | digits
  · cases truth <;> exact absurd isWord (by decide +kernel)
  · exact absurd digits (by decide)

theorem Guess.isNull {value : String} {guess : Json} (isGuess : Guess value guess) :
    guess.isNull = false := by
  cases isGuess <;> rfl

/-- A setting that keeps a text keeps what is guessed as it is written anew. -/
theorem endAlike_text_iff {setting : Setting} (keeps : KeepsText setting) {value : String}
    {guess : Json} (isGuess : Guess value guess) (trimmed : Text.trim value = value) :
    EndAlike (default.set setting guess) (default.set setting (.str value)) ↔
      guess.display = .ok value := by
  obtain ⟨text, shown, isGuessed, textTrimmed⟩ := isGuess.display
  have ofGuess := taken_text keeps isGuess.isNull shown textTrimmed isGuessed.isEmpty
  have ofValue := taken_text keeps rfl (Json.display_str value) trimmed isGuess.isGuessed.isEmpty
  rw [endAlike_set_iff ofGuess ofValue, shown]
  exact ⟨fun same => congrArg Except.ok (Json.str.inj same),
    fun same => congrArg Json.str (Except.ok.inj same)⟩

/-! ### Numbers and truth values -/

theorem flag_word {value : String} {truth : Bool} (trimmed : Text.trim value = value)
    (isWord : Text.smallLetters value = truthWord truth) : flag (.str value) = truth := by
  rw [flag, trimmed, isWord]
  cases truth <;> decide

/-- Of the texts of digits only the digit one means yes. -/
theorem flag_digits {value : String} (digits : Text.isDigits value = true) :
    flag (.str value) = decide (value = "1") := by
  rw [flag, trim_digits digits, Text.smallLetters_digits digits, Bool.eq_iff_iff,
    List.contains_iff_mem, decide_eq_true_iff]
  constructor
  · intro member
    simp only [List.mem_cons, List.not_mem_nil, or_false] at member
    rcases member with rfl | rfl | rfl | rfl
    · rfl
    all_goals exact absurd digits (by decide)
  · rintro rfl
    exact List.mem_cons_self

/-- The words for truth values are no numbers. -/
theorem number_word {value : String} {truth : Bool}
    (isWord : Text.smallLetters value = truthWord truth) :
    floatOfText? value = none ∧ intOfText? value = none := by
  have plain := truthWord_plain truth
  have letters := Text.letters_of_smallLetters plain isWord
  refine ⟨floatOfText?_letters letters ?_, intOfText?_letters letters⟩
  rw [Text.smallLetter_of_smallLetters plain isWord]
  cases truth <;> decide

/-- The settings that take numbers refuse the words for truth values, which the file turns into
numbers. -/
theorem not_endAlike_word {setting : Setting} (isNumber : setting = .timeout ∨ setting = .retries)
    {value : String} {truth : Bool} (isWord : Text.smallLetters value = truthWord truth) :
    ¬ EndAlike (default.set setting (.bool truth)) (default.set setting (.str value)) := by
  obtain ⟨noFloat, noWhole⟩ := number_word isWord
  rcases isNumber with rfl | rfl
  · rw [Settings.set, Settings.set, number, number, noFloat, wrongNumber, Json.display_str]
    exact not_endAlike
  · rw [Settings.set, Settings.set, wholeNumber, wholeNumber, noWhole, wrongNumber,
      Json.display_str]
    exact not_endAlike

/-- The number nearest to a whole one is the same whether digits or a whole number are read. -/
theorem floatOfInt?_eq {number : Nat} {near : Float}
    (isNear : floatOfInt? number = some near) : floatOfDecimal false number 0 = near := by
  unfold floatOfInt? at isNear
  dsimp only at isNear
  rw [Int.natAbs_natCast] at isNear
  split at isNear
  case isTrue finite =>
    have isSmaller : min Binary.infinityWord (nearestWord number 1) = nearestWord number 1 :=
      min_eq_right finite.le
    cases isNear
    rw [floatOfDecimal, nearestWordOfDecimal_whole, isSmaller,
      decide_eq_false (Int.not_lt.mpr (Int.natCast_nonneg number))]
  case isFalse => cases isNear

theorem endAlike_timeout {value : String} {whole : Int} (digits : Text.isDigits value = true)
    (isNumber : intOfText? value = some whole) (notBeyond : ¬ Overtaxes .timeout (.int whole)) :
    EndAlike (default.set .timeout (.int whole)) (default.set .timeout (.str value)) := by
  obtain ⟨read, rfl, -, isRead⟩ := exists_of_digits digits isNumber
  cases isNear : floatOfInt? read with
  | none => exact absurd (.timeout isNear) notBeyond
  | some near =>
    rw [floatOfInt?_eq isNear] at isRead
    rw [Settings.set, Settings.set, number, number, isNear, isRead]
    exact .accepted _

theorem endAlike_retries {value : String} {whole : Int} (isNumber : intOfText? value = some whole) :
    EndAlike (default.set .retries (.int whole)) (default.set .retries (.str value)) := by
  rw [Settings.set, Settings.set, wholeNumber, wholeNumber, isNumber]
  exact .accepted _

theorem endAlike_writesJson_iff (first second : Json) :
    EndAlike (default.set .writesJson first) (default.set .writesJson second) ↔
      flag first = flag second := by
  have isTaken (value : Json) : taken .writesJson value = .ok (.bool (flag value)) := rfl
  rw [endAlike_set_iff (isTaken first) (isTaken second), Json.bool.injEq]

theorem endAlike_writesJson_digits_iff {value : String} {whole : Int}
    (digits : Text.isDigits value = true) (isNumber : intOfText? value = some whole) :
    EndAlike (default.set .writesJson (.int whole)) (default.set .writesJson (.str value)) ↔
      (whole = 0 ∨ value = "1") := by
  have ofOne (isOne : value = "1") : whole ≠ 0 := by
    rintro rfl
    rw [isOne] at isNumber
    exact absurd isNumber (by decide +kernel)
  have ofGuess : flag (.int whole) = decide (whole ≠ 0) := by
    rw [decide_not]
    rfl
  rw [endAlike_writesJson_iff, ofGuess, flag_digits digits, decide_eq_decide]
  constructor
  · intro same
    by_cases zero : whole = 0
    · exact Or.inl zero
    · exact Or.inr (same.mp zero)
  · rintro (zero | isOne)
    · exact ⟨fun notZero => absurd zero notZero, ofOne⟩
    · exact ⟨fun _ => isOne, fun _ => ofOne isOne⟩

/-! ### A line and a variable -/

theorem setting_cases (setting : Setting) :
    KeepsText setting ∨ (setting = .store ∨ setting = .level) ∨ setting = .timeout ∨
      setting = .retries ∨ setting = .writesJson ∨ setting = .markets := by
  cases setting <;> decide

/-- A truth value comes to the same as the word for it unless the setting takes numbers, or keeps
the text and has another spelling of the word. -/
theorem endAlike_truth_iff {setting : Setting} {value : String} {truth : Bool}
    (trimmed : Text.trim value = value) (isWord : Text.smallLetters value = truthWord truth)
    (notOvertaxed : ¬ Overtaxes setting (.bool truth)) :
    EndAlike (default.set setting (.bool truth)) (default.set setting (.str value)) ↔
      (KeepsText setting → (Json.bool truth).display = .ok value) ∧
        setting ≠ .timeout ∧ setting ≠ .retries := by
  rcases setting_cases setting with keeps | isChoice | rfl | rfl | rfl | rfl
  · rw [endAlike_text_iff keeps (.truth isWord) trimmed]
    refine ⟨fun shown => ⟨fun _ => shown, ?_, ?_⟩, fun agrees => agrees.1 keeps⟩
    all_goals
      rintro rfl
      exact absurd keeps (by decide)
  · refine iff_of_true (endAlike_choice isChoice (.truth isWord) trimmed) ?_
    rcases isChoice with rfl | rfl <;> exact ⟨fun keeps => absurd keeps (by decide), nofun, nofun⟩
  · exact iff_of_false (not_endAlike_word (Or.inl rfl) isWord) fun agrees => agrees.2.1 rfl
  · exact iff_of_false (not_endAlike_word (Or.inr rfl) isWord) fun agrees => agrees.2.2 rfl
  · refine iff_of_true ?_ ⟨fun keeps => absurd keeps (by decide), nofun, nofun⟩
    rw [endAlike_writesJson_iff, flag_word trimmed isWord]
    rfl
  · exact absurd (.markets rfl) notOvertaxed

/-- A whole number comes to the same as the digits for it unless the setting keeps the text and has
other digits than the number is written with, or takes a truth value and the number is not zero and
is not given by the digit one. -/
theorem endAlike_digits_iff {setting : Setting} {value : String} {whole : Int}
    (trimmed : Text.trim value = value) (digits : Text.isDigits value = true)
    (isNumber : intOfText? value = some whole) (notOvertaxed : ¬ Overtaxes setting (.int whole)) :
    EndAlike (default.set setting (.int whole)) (default.set setting (.str value)) ↔
      (KeepsText setting → (Json.int whole).display = .ok value) ∧
        (setting = .writesJson → whole = 0 ∨ value = "1") := by
  have isGuess := Guess.number digits isNumber
  rcases setting_cases setting with keeps | isChoice | rfl | rfl | rfl | rfl
  · rw [endAlike_text_iff keeps isGuess trimmed]
    refine ⟨fun shown => ⟨fun _ => shown, ?_⟩, fun agrees => agrees.1 keeps⟩
    rintro rfl
    exact absurd keeps (by decide)
  · refine iff_of_true (endAlike_choice isChoice isGuess trimmed) ?_
    rcases isChoice with rfl | rfl <;> exact ⟨fun keeps => absurd keeps (by decide), nofun⟩
  · exact iff_of_true (endAlike_timeout digits isNumber notOvertaxed)
      ⟨fun keeps => absurd keeps (by decide), nofun⟩
  · exact iff_of_true (endAlike_retries isNumber) ⟨fun keeps => absurd keeps (by decide), nofun⟩
  · rw [endAlike_writesJson_digits_iff digits isNumber]
    exact ⟨fun agrees => ⟨fun keeps => absurd keeps (by decide), fun _ => agrees⟩,
      fun agrees => agrees.2 rfl⟩
  · exact absurd (.markets rfl) notOvertaxed

/-- A line and a variable with the same value end alike if the value is neither a word for a truth
value nor digits. Where the file guesses, they end alike exactly if the guess makes no difference
to the setting. -/
theorem load_line_as_variable (setting : Setting) (value : String) (fits : FitsLine value)
    (file otherFile : Path) (disk otherDisk : Disk)
    (isText : FileText disk file (some (lineOf setting value)))
    (isMissing : FileText otherDisk otherFile none) :
    let byLine := ((load file Table.empty Table.empty).outcome disk).1
    let byVariable := ((load otherFile (variableOf setting value) Table.empty).outcome otherDisk).1
    ((∀ truth, Text.smallLetters value ≠ truthWord truth) → Text.isDigits value = false →
        EndAlike byLine byVariable) ∧
      (∀ truth, Text.smallLetters value = truthWord truth → ¬ Overtaxes setting (.bool truth) →
        (EndAlike byLine byVariable ↔
          (KeepsText setting → (Json.bool truth).display = .ok value) ∧
            setting ≠ .timeout ∧ setting ≠ .retries)) ∧
      (∀ whole, Text.isDigits value = true → intOfText? value = some whole →
        ¬ Overtaxes setting (.int whole) →
          (EndAlike byLine byVariable ↔
            (KeepsText setting → (Json.int whole).display = .ok value) ∧
              (setting = .writesJson → whole = 0 ∨ value = "1"))) ∧
      (Text.isDigits value = true → intOfText? value = none →
        ∀ fault, byVariable = .error fault → EndAlike byLine byVariable) := by
  intro byLine byVariable
  have ofLine : byLine = scalar value.toList >>= fun guess => default.set setting guess :=
    outcome_load_line fits isText
  have ofVariable : byVariable = default.set setting (.str value) :=
    outcome_load_variable isMissing setting value
  have values : RefusesValues byVariable :=
    ofVariable ▸ (endsBy_set default setting (.str value)).values (not_overtaxes_str setting value)
  refine ⟨fun noWord noDigits => ?_, fun truth isWord notOvertaxed => ?_,
    fun whole digits isNumber notOvertaxed => ?_, fun digits noNumber fault refused => ?_⟩
  · have noGuess : ¬ IsGuessed value := by
      rintro (⟨truth, isWord⟩ | digits)
      · exact noWord truth isWord
      · cases digits.symm.trans noDigits
    have same : byLine = byVariable := by
      rw [ofLine, ofVariable, scalar_text fits noGuess, ok_bind]
    rw [same]
    exact endAlike_self values
  · rw [ofLine, ofVariable, (Guess.truth isWord).scalar fits, ok_bind]
    exact endAlike_truth_iff fits.trimmed isWord notOvertaxed
  · rw [ofLine, ofVariable, (Guess.number digits isNumber).scalar fits, ok_bind]
    exact endAlike_digits_iff fits.trimmed digits isNumber notOvertaxed
  · rw [ofLine, scalar_digits fits digits, noNumber, refused]
    exact .refused rfl (values fault refused)

/-- Digits with zeros in front. -/
def zerosInFront : String := "007"

theorem isDigits_zerosInFront : Text.isDigits zerosInFront = true := by decide

theorem intOfText?_zerosInFront : intOfText? zerosInFront = some 7 := by decide +kernel

theorem fitsLine_zerosInFront : FitsLine zerosInFront :=
  ⟨rfl, by simp [zerosInFront, isQuotationMark], trim_digits isDigits_zerosInFront⟩

theorem fileText_zerosInFront (setting : Setting) :
    FileText (settingsDisk (lineOf setting zerosInFront)) settingsFile
      (some (lineOf setting zerosInFront)) := by
  refine fileText_settingsDisk _ ?_
  rw [toList_lineOf]
  cases setting <;> simp [Setting.name, zerosInFront]

theorem fileText_fresh : FileText Disk.fresh settingsFile none := .missing rfl

/-- As a number of retries, a line and a variable make the same of the digits. -/
theorem load_line_as_variable_zerosInFront :
    FitsLine zerosInFront ∧
      FileText (settingsDisk (lineOf .retries zerosInFront)) settingsFile
        (some (lineOf .retries zerosInFront)) ∧
      FileText Disk.fresh settingsFile none ∧
      EndAlike
        ((load settingsFile Table.empty Table.empty).outcome
          (settingsDisk (lineOf .retries zerosInFront))).1
        ((load settingsFile (variableOf .retries zerosInFront) Table.empty).outcome
          Disk.fresh).1 := by
  refine ⟨fitsLine_zerosInFront, fileText_zerosInFront .retries, fileText_fresh, ?_⟩
  obtain ⟨-, -, ofDigits, -⟩ := load_line_as_variable .retries zerosInFront fitsLine_zerosInFront
    settingsFile settingsFile _ Disk.fresh (fileText_zerosInFront .retries) fileText_fresh
  exact (ofDigits 7 isDigits_zerosInFront intOfText?_zerosInFront nofun).mpr
    ⟨fun keeps => absurd keeps (by decide), nofun⟩

/-- As the name of a folder, a line loses the zeros and a variable does not. -/
theorem line_loses_zerosInFront :
    FitsLine zerosInFront ∧
      ¬ EndAlike
        ((load settingsFile Table.empty Table.empty).outcome
          (settingsDisk (lineOf .dataFolder zerosInFront))).1
        ((load settingsFile (variableOf .dataFolder zerosInFront) Table.empty).outcome
          Disk.fresh).1 := by
  have isGuess := Guess.number isDigits_zerosInFront intOfText?_zerosInFront
  refine ⟨fitsLine_zerosInFront, ?_⟩
  rw [outcome_load_line fitsLine_zerosInFront (fileText_zerosInFront .dataFolder),
    outcome_load_variable fileText_fresh, isGuess.scalar fitsLine_zerosInFront, ok_bind,
    endAlike_text_iff (by decide) isGuess fitsLine_zerosInFront.trimmed]
  obtain ⟨number, isNumber, short, -⟩ :=
    exists_of_digits isDigits_zerosInFront intOfText?_zerosInFront
  cases Int.ofNat.inj isNumber
  intro shown
  exact absurd (Except.ok.inj ((display_number short).symm.trans shown)) (by decide)

end Settings

end MarketSignal
