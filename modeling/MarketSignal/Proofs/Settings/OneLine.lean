/-
This file follows a single value through a file of one line and through an environment of one
variable, up to the setting that it is for. The value is one that a line can hold: it goes on no
further than the line, and has no quotation marks in it and no blanks around it, which a line would
lose. A variable hands its text over as it is; a line hands over what its text stands for.
-/
import MarketSignal.Proofs.Number.Numeral
import MarketSignal.Proofs.Settings.Refusing

namespace MarketSignal

/-! ### One line -/

namespace Text

theorem breakLine_cons {c : Char} (low : 0x20 ≤ c.toNat) (high : c.toNat < 0x80)
    (rest : List Char) :
    breakLine (c :: rest) = (c :: (breakLine rest).1, (breakLine rest).2) := by
  have noBoundary : c.toNat ∉ [0x0A, 0x0B, 0x0C, 0x0D, 0x1C, 0x1D, 0x1E, 0x85, 0x2028, 0x2029] := by
    intro member
    simp only [List.mem_cons, List.not_mem_nil, or_false] at member
    omega
  rw [breakLine, if_neg noBoundary]
  rintro _ rfl
  exact absurd low (by decide)

theorem breakLine_append {front : List Char}
    (plain : ∀ c ∈ front, 0x20 ≤ c.toNat ∧ c.toNat < 0x80) (back : List Char) :
    breakLine (front ++ back) = (front ++ (breakLine back).1, (breakLine back).2) := by
  induction front with
  | nil => rfl
  | cons c rest inductionHypothesis =>
    obtain ⟨low, high⟩ := plain c List.mem_cons_self
    rw [List.cons_append, breakLine_cons low high,
      inductionHypothesis fun other member => plain other (List.mem_cons_of_mem c member)]
    rfl

theorem breakLine_of_unbroken {text : List Char} (unbroken : (breakLine text).2 = none) :
    breakLine text = (text, none) := by
  fun_induction breakLine text with
  | case1 => rfl
  | case2 => cases unbroken
  | case3 => cases unbroken
  | case4 c rest _ _ line remaining split inductionHypothesis =>
    rw [split] at inductionHypothesis
    cases inductionHypothesis unbroken
    rfl

theorem lines_of_unbroken {text : List Char} (notEmpty : text ≠ [])
    (unbroken : breakLine text = (text, none)) : lines text = [text] := by
  cases text with
  | nil => exact absurd rfl notEmpty
  | cons c rest =>
    rw [lines]
    split
    case h_1 isLine =>
      cases isLine.symm.trans unbroken
      rfl
    case h_2 isBroken => cases isBroken.symm.trans unbroken

/-- Trimming leaves what is kept in front, and drops at the end only. -/
theorem trimBy_append {drop : Char → Bool} {front : List Char} (notEmpty : front ≠ [])
    (kept : ∀ c ∈ front, drop c = false) (back : List Char) :
    trimBy drop (front ++ back) = front ++ back.rdropWhile drop := by
  have first : (front ++ back).dropWhile drop = front ++ back := by
    cases front with
    | nil => exact absurd rfl notEmpty
    | cons c rest => exact List.dropWhile_cons_of_neg (by simp [kept c List.mem_cons_self])
  have last : front.reverse.dropWhile drop = front.reverse := by
    rw [List.dropWhile_eq_self_iff]
    intro nonempty
    rw [kept _ (List.mem_reverse.mp (List.getElem_mem nonempty))]
    exact Bool.false_ne_true
  rw [trimBy, first, List.reverse_append, List.dropWhile_append, last, List.rdropWhile]
  split
  case isTrue nothing =>
    rw [List.isEmpty_iff.mp nothing, List.reverse_reverse, List.reverse_nil, List.append_nil]
  case isFalse => rw [List.reverse_append, List.reverse_reverse]

theorem trimBy_of_trim {text : String} (trimmed : trim text = text) :
    trimBy isBlank text.toList = text.toList :=
  String.ofList_injective (trimmed.trans String.ofList_toList.symm)

end Text

namespace Settings

/-- A value for a line: it fits on the line, and has no quotation marks in it and no blanks around
it. -/
structure FitsLine (value : String) : Prop where
  unbroken : (Text.breakLine value.toList).2 = none
  unquoted : ∀ c ∈ value.toList, isQuotationMark c = false
  trimmed : Text.trim value = value

/-- The line that gives a setting a value. -/
def lineOf (setting : Setting) (value : String) : String := setting.name ++ ": " ++ value

/-- The environment that gives a setting a value, and nothing else. -/
def variableOf (setting : Setting) (value : String) : Table String :=
  Table.ofEntries [(environmentMark ++ Text.capitals setting.name, value)]

theorem name_letters (setting : Setting) :
    ∀ c ∈ setting.name.toList, 0x5F ≤ c.toNat ∧ c.toNat ≤ 0x7A := by
  have all : (setting.name.toList.all fun c => decide (0x5F ≤ c.toNat ∧ c.toNat ≤ 0x7A)) =
      true := by cases setting <;> decide
  exact fun c member => of_decide_eq_true (List.all_eq_true.mp all c member)

theorem variableSetting?_name (setting : Setting) :
    variableSetting? (environmentMark ++ Text.capitals setting.name) = some setting := by
  cases setting <;> decide +kernel

theorem layerOfEnvironment_variableOf (setting : Setting) (value : String) :
    layerOfEnvironment (variableOf setting value) = sole setting (some (.str value)) := by
  have marked : markedVariables (variableOf setting value) = sole setting (some (.str value)) := by
    show Table.ofEntries (([_] : List (String × String)).filterMap _) = _
    rw [List.filterMap_cons_some (by rw [variableSetting?_name]; rfl), List.filterMap_nil]
    rfl
  have noDatabase : (variableOf setting value).get? databaseVariable = none := by
    rw [variableOf, Table.get?_ofEntries]
    cases setting <;> rfl
  rw [layerOfEnvironment_eq, noDatabase]
  exact marked

theorem scalar_congr {left right : List Char}
    (same : Text.trimBy Text.isBlank left = Text.trimBy Text.isBlank right) :
    scalar left = scalar right := by
  rw [scalar, scalar, same]

/-- A value stands for the same behind a blank, which goes with it if the value is empty. -/
theorem scalar_behindBlank {value : String} (trimmed : Text.trim value = value) :
    scalar ((' ' :: value.toList).rdropWhile Text.isBlank) = scalar value.toList := by
  have isTrimmed : (value.toList.dropWhile Text.isBlank).rdropWhile Text.isBlank = value.toList :=
    Text.trimBy_of_trim trimmed
  have kept : value.toList.rdropWhile Text.isBlank = value.toList :=
    isTrimmed ▸ List.rdropWhile_idempotent Text.isBlank _
  refine scalar_congr ?_
  cases same : value.toList with
  | nil => rfl
  | cons c rest =>
    rw [same, List.rdropWhile_eq_self_iff] at kept
    have alsoKept : (' ' :: c :: rest).rdropWhile Text.isBlank = ' ' :: c :: rest := by
      rw [List.rdropWhile_eq_self_iff]
      intro nonempty
      rw [List.getLast_cons (List.cons_ne_nil c rest)]
      exact kept _
    rw [alsoKept]
    rfl

theorem toList_lineOf (setting : Setting) (value : String) :
    (lineOf setting value).toList =
      (setting.name.toList ++ [':']) ++ ' ' :: value.toList := by
  rw [lineOf, String.toList_append, String.toList_append, List.append_assoc, List.append_assoc]
  rfl

theorem lineEntry?_lineOf (setting : Setting) {value : String}
    (trimmed : Text.trim value = value) :
    lineEntry? (lineOf setting value).toList =
      scalar value.toList >>= fun guess => .ok (some (setting.name, guess)) := by
  have letters := name_letters setting
  have notBlank {c : Char} (member : c ∈ setting.name.toList) : Text.isBlank c = false := by
    have inside : Text.Ranges.has [(0x5F, 0x7A)] c.toNat = true := by
      rw [Text.Ranges.has, if_pos (letters c member).2]
      exact decide_eq_true (letters c member).1
    exact Text.Ranges.has_eq_false inside (by decide +kernel)
  have isTrimmed : Text.trimBy Text.isBlank (lineOf setting value).toList =
      setting.name.toList ++ ':' :: (' ' :: value.toList).rdropWhile Text.isBlank := by
    rw [toList_lineOf, Text.trimBy_append (by simp), List.append_assoc]
    · rfl
    · intro c member
      rcases List.mem_append.mp member with inName | isColon
      · exact notBlank inName
      · rw [List.mem_singleton.mp isColon]
        rfl
  have nameTrimmed : Text.trimBy Text.isBlank setting.name.toList = setting.name.toList :=
    Text.trimBy_of_forall fun _ => notBlank
  have notColon : ∀ c ∈ setting.name.toList, (c != ':') = true := by
    refine fun c member => bne_iff_ne.mpr ?_
    rintro rfl
    exact absurd (letters ':' member).1 (by decide)
  have isSplit : (setting.name.toList ++
      ':' :: (' ' :: value.toList).rdropWhile Text.isBlank).span (fun c => c != ':') =
        (setting.name.toList, ':' :: (' ' :: value.toList).rdropWhile Text.isBlank) := by
    rw [List.span_eq_takeWhile_dropWhile, List.takeWhile_append_of_pos notColon,
      List.dropWhile_append_of_pos notColon]
    simp
  have noRemark : (setting.name.toList ++
      ':' :: (' ' :: value.toList).rdropWhile Text.isBlank).head? ≠ some '#' := by
    cases named : setting.name.toList with
    | nil => exact fun isMark => absurd (Option.some.inj isMark) (by decide)
    | cons c rest =>
      intro isMark
      cases Option.some.inj isMark
      exact absurd (letters '#' (named ▸ List.mem_cons_self)).1 (by decide)
  unfold lineEntry?
  rw [isTrimmed, if_neg noRemark, isSplit]
  dsimp only
  rw [scalar_behindBlank trimmed, nameTrimmed, String.ofList_toList]
  rfl

/-- The file with the line is the layer of the setting alone, with what the value stands for. -/
theorem layerOfText_lineOf (setting : Setting) {value : String} (fits : FitsLine value) :
    layerOfText (lineOf setting value) =
      scalar value.toList >>= fun guess => .ok (sole setting (some guess)) := by
  have plain : ∀ c ∈ setting.name.toList ++ [':'], 0x20 ≤ c.toNat ∧ c.toNat < 0x80 := by
    intro c member
    rcases List.mem_append.mp member with inName | isColon
    · have bounds := name_letters setting c inName
      omega
    · rw [List.mem_singleton.mp isColon]
      decide
  have unbroken : Text.breakLine (lineOf setting value).toList =
      ((lineOf setting value).toList, none) := by
    rw [toList_lineOf, Text.breakLine_append plain, Text.breakLine_cons (by decide) (by decide),
      Text.breakLine_of_unbroken fits.unbroken]
  have notEmpty : (lineOf setting value).toList ≠ [] := by
    rw [toList_lineOf]
    exact List.append_ne_nil_of_right_ne_nil _ (List.cons_ne_nil _ _)
  rw [layerOfText, Text.lines_of_unbroken notEmpty unbroken, List.mapM_cons,
    lineEntry?_lineOf setting fits.trimmed]
  cases scalar value.toList <;> rfl

/-! ### Both ways -/

theorem apply_sole (settings : Settings) (setting : Setting) (value : Json) :
    settings.apply (sole setting (some value)) = settings.set setting value := by
  have known : ∀ name ∈ (sole setting (some value)).names, Setting.ofName? name ≠ none := by
    intro name member
    rw [List.mem_singleton.mp member, Setting.ofName?_name]
    exact Option.some_ne_none setting
  rw [apply_known settings _ known]
  show settings.setAll [(setting.name, value)] = _
  rw [setAll_cons]
  cases settings.set setting value <;> rfl

theorem outcome_load_line {file : Path} {disk : Disk} {setting : Setting} {value : String}
    (fits : FitsLine value) (isText : FileText disk file (some (lineOf setting value))) :
    ((load file Table.empty Table.empty).outcome disk).1 =
      scalar value.toList >>= fun guess => default.set setting guess := by
  rw [outcome_load, outcome_layerOfFile isText, layerOfText?, layerOfText_lineOf setting fits]
  cases scalar value.toList with
  | error fault => rfl
  | ok guess =>
    rw [ok_bind, ok_bind, ok_bind, ofLayers_empty, apply_sole]
    cases default.set setting guess with
    | error fault => rfl
    | ok after => exact apply_empty after

theorem outcome_load_variable {file : Path} {disk : Disk} (isMissing : FileText disk file none)
    (setting : Setting) (value : String) :
    ((load file (variableOf setting value) Table.empty).outcome disk).1 =
      default.set setting (.str value) := by
  rw [outcome_load, outcome_layerOfFile isMissing, layerOfText?, ok_bind, ofLayers_empty,
    apply_empty, ok_bind, layerOfEnvironment_variableOf, apply_sole]

end Settings

end MarketSignal
