/-
This file says what applying a layer does, setting by setting. A setting takes a value, or refuses
it, whatever the other settings are and whatever it was before; the settings that the value is not
for stay as they are. A layer is therefore accepted by all settings or by none, and each setting
ends as the value that the layer has for it, taken on its own, or stays where the layer has none.

What a setting has taken it takes again as it is: a trimmed text has no blanks left to trim, and a
number is read as itself. The layer of all settings thus changes nothing.
-/
import MarketSignal.Proofs.Settings.Layers
import MarketSignal.Proofs.Table

namespace MarketSignal

/-! ### Trimming once is enough -/

theorem Text.trimBy_trimBy (drop : Char → Bool) (text : List Char) :
    Text.trimBy drop (Text.trimBy drop text) = Text.trimBy drop text := by
  have twoSided (text : List Char) :
      Text.trimBy drop text = (text.dropWhile drop).rdropWhile drop := rfl
  have startsWell : ((text.dropWhile drop).rdropWhile drop).dropWhile drop =
      (text.dropWhile drop).rdropWhile drop := by
    rw [List.dropWhile_eq_self_iff]
    intro notEmpty
    have within := List.rdropWhile_prefix drop (text.dropWhile drop)
    rw [within.getElem notEmpty]
    exact List.dropWhile_eq_self_iff.mp (List.dropWhile_idempotent drop text) _
  rw [twoSided, twoSided, startsWell, List.rdropWhile_idempotent]

theorem Text.trim_trim (text : String) : Text.trim (Text.trim text) = Text.trim text := by
  unfold Text.trim
  rw [String.toList_ofList, Text.trimBy_trimBy]

theorem StoreKind.name_injective : Function.Injective StoreKind.name := fun left right same =>
  Option.some.inj (by rw [← StoreKind.ofName?_name left, same, StoreKind.ofName?_name])

theorem Level.name_injective : Function.Injective Level.name := fun left right same =>
  Option.some.inj (by rw [← Level.ofName?_name left, same, Level.ofName?_name])

theorem Setting.name_injective : Function.Injective Setting.name := fun left right same =>
  Option.some.inj (by rw [← Setting.ofName?_name left, same, Setting.ofName?_name])

/-- A name is that of one setting at most. -/
theorem Setting.ofName?_eq_some (name : String) (setting : Setting) :
    Setting.ofName? name = some setting ↔ name = setting.name := by
  constructor
  · intro found
    rw [Setting.ofName?] at found
    have named := List.find?_some found
    exact (beq_iff_eq.mp named).symm
  · rintro rfl
    exact Setting.ofName?_name setting

namespace Settings

/-! ### One setting -/

/-- Settings with the same values are the same. -/
theorem ext_value {left right : Settings}
    (same : ∀ setting, left.value setting = right.value setting) : left = right := by
  have text {left right : Option String}
      (same : (left.map Json.str).getD .null = (right.map Json.str).getD .null) :
      left = right := by
    cases left <;> cases right <;> simp_all
  have store := StoreKind.name_injective (Json.str.inj (same .store))
  have level := Level.name_injective (Json.str.inj (same .level))
  have markets : left.markets = right.markets :=
    List.map_injective_iff.mpr (fun _ _ => Json.str.inj) (Json.arr.inj (same .markets))
  have dataFolder := text (same .dataFolder)
  have bucket := text (same .bucket)
  have databaseUrl := text (same .databaseUrl)
  have outboxTarget := text (same .outboxTarget)
  have stem := Json.str.inj (same .stem)
  have seedSource := Json.str.inj (same .seedSource)
  have timeout := Json.float.inj (same .timeout)
  have retries := Json.int.inj (same .retries)
  have writesJson := Json.bool.inj (same .writesJson)
  cases left
  cases right
  simp_all only

/-- Setting a value reads the value, without a look at the settings, and puts what it read in the
place of the one setting. -/
theorem set_parts (setting : Setting) (value : Json) :
    ∃ (Part : Type) (read : Except Fault Part) (shown : Part → Json)
      (place : Settings → Part → Settings),
      (∀ settings : Settings,
        settings.set setting value = read >>= fun part => pure (place settings part)) ∧
      ∀ settings part, (place settings part).value setting = shown part ∧
        ∀ other, other ≠ setting → (place settings part).value other = settings.value other := by
  cases setting
  case' store =>
    refine ⟨_, storeKind value, fun kind => .str kind.name,
      fun settings kind => { settings with store := kind },
      fun _ => rfl, fun _ _ => ⟨rfl, ?_⟩⟩
  case' dataFolder =>
    refine ⟨_, optionalText value, fun text => (text.map Json.str).getD .null,
      fun settings text => { settings with dataFolder := text },
      fun _ => rfl, fun _ _ => ⟨rfl, ?_⟩⟩
  case' bucket =>
    refine ⟨_, optionalText value, fun text => (text.map Json.str).getD .null,
      fun settings text => { settings with bucket := text },
      fun _ => rfl, fun _ _ => ⟨rfl, ?_⟩⟩
  case' stem =>
    refine ⟨_, value.display, fun text => .str text,
      fun settings text => { settings with stem := text },
      fun _ => rfl, fun _ _ => ⟨rfl, ?_⟩⟩
  case' databaseUrl =>
    refine ⟨_, optionalText value, fun text => (text.map Json.str).getD .null,
      fun settings text => { settings with databaseUrl := text },
      fun _ => rfl, fun _ _ => ⟨rfl, ?_⟩⟩
  case' seedSource =>
    refine ⟨_, value.display, fun text => .str text,
      fun settings text => { settings with seedSource := text },
      fun _ => rfl, fun _ _ => ⟨rfl, ?_⟩⟩
  case' outboxTarget =>
    refine ⟨_, optionalText value, fun text => (text.map Json.str).getD .null,
      fun settings text => { settings with outboxTarget := text },
      fun _ => rfl, fun _ _ => ⟨rfl, ?_⟩⟩
  case' timeout =>
    refine ⟨_, number .timeout value, fun near => .float near,
      fun settings near => { settings with timeout := near },
      fun _ => rfl, fun _ _ => ⟨rfl, ?_⟩⟩
  case' retries =>
    refine ⟨_, wholeNumber .retries value, fun whole => .int whole,
      fun settings whole => { settings with retries := whole },
      fun _ => rfl, fun _ _ => ⟨rfl, ?_⟩⟩
  case' markets =>
    refine ⟨_, marketNames value, fun names => .arr (names.map .str),
      fun settings names => { settings with markets := names },
      fun _ => rfl, fun _ _ => ⟨rfl, ?_⟩⟩
  case' level =>
    refine ⟨_, journalLevel value, fun level => .str level.name,
      fun settings level => { settings with level := level },
      fun _ => rfl, fun _ _ => ⟨rfl, ?_⟩⟩
  case' writesJson =>
    refine ⟨_, .ok (flag value), fun truth => .bool truth,
      fun settings truth => { settings with writesJson := truth },
      fun _ => rfl, fun _ _ => ⟨rfl, ?_⟩⟩
  -- every setting has a field of its own, so that the value of another one is read past the change
  all_goals
    intro other different
    cases other
    all_goals first | rfl | exact absurd rfl different

/-- What a setting takes a value as, on its own. -/
def taken (setting : Setting) (value : Json) : Except Fault Json := do
  return (← default.set setting value).value setting

/-- A setting takes a value as what it takes it as on its own, and the others stay as they are. -/
theorem set_eq_ok_iff (before after : Settings) (setting : Setting) (value : Json) :
    before.set setting value = .ok after ↔
      taken setting value = .ok (after.value setting) ∧
        ∀ other, other ≠ setting → after.value other = before.value other := by
  obtain ⟨Part, read, shown, place, sets, placed⟩ := set_parts setting value
  rw [taken, sets, sets]
  cases read with
  | error fault =>
    exact ⟨fun impossible => (by cases impossible), fun impossible => (by cases impossible.1)⟩
  | ok part =>
    have here (settings : Settings) : (place settings part).value setting = shown part :=
      (placed settings part).1
    constructor
    · intro succeeds
      cases succeeds
      refine ⟨congrArg Except.ok ?_, (placed before part).2⟩
      rw [here, here]
    · rintro ⟨same, others⟩
      refine congrArg Except.ok (ext_value fun other => ?_)
      by_cases isSetting : other = setting
      · subst isSetting
        rw [here, ← here default]
        exact Except.ok.inj same
      · rw [others other isSetting]
        exact (placed before part).2 other isSetting

/-- Whatever the settings, a value that the setting takes can be set. -/
theorem exists_of_taken {setting : Setting} {value result : Json}
    (isTaken : taken setting value = .ok result) (before : Settings) :
    ∃ after, before.set setting value = .ok after := by
  obtain ⟨Part, read, shown, place, sets, -⟩ := set_parts setting value
  rw [taken, sets] at isTaken
  rw [sets]
  cases read with
  | error fault => cases isTaken
  | ok part => exact ⟨place before part, rfl⟩

/-! ### A layer -/

/-- What becomes of a setting: it takes what is said of it, and stays where nothing is. -/
def ruled (setting : Setting) (before : Json) : Option Json → Except Fault Json
  | some value => taken setting value
  | none => .ok before

/-- Entries with distinct names end each setting as the entry for it rules. -/
theorem setAll_eq_ok_iff (entries : List (String × Json)) (distinct : (Entries.names entries).Nodup)
    (before after : Settings) :
    before.setAll entries = .ok after ↔
      ∀ setting, ruled setting (before.value setting) (Entries.get? entries setting.name) =
        .ok (after.value setting) := by
  induction entries generalizing before with
  | nil =>
    constructor
    · intro succeeds
      cases succeeds
      exact fun _ => rfl
    · exact fun same => congrArg Except.ok (ext_value fun setting => Except.ok.inj (same setting))
  | cons entry rest inductionHypothesis =>
    obtain ⟨name, value⟩ := entry
    obtain ⟨absent, distinctRest⟩ := List.nodup_cons.mp distinct
    rw [setAll]
    cases isSetting : Setting.ofName? name with
    | none =>
      dsimp only
      rw [inductionHypothesis distinctRest]
      refine forall_congr' fun setting => ?_
      have different : name ≠ setting.name := by
        rintro rfl
        cases (Setting.ofName?_name setting).symm.trans isSetting
      rw [Entries.get?, if_neg different]
    | some setting =>
      obtain rfl := (Setting.ofName?_eq_some name setting).mp isSetting
      dsimp only
      have noOther : Entries.get? rest setting.name = none := by
        cases found : Entries.get? rest setting.name with
        | none => rfl
        | some other =>
          exact absurd (List.mem_map.mpr ⟨_, Entries.mem_of_get? rest _ other found, rfl⟩) absent
      have elsewhere (other : Setting) (different : other ≠ setting) :
          Entries.get? ((setting.name, value) :: rest) other.name =
            Entries.get? rest other.name := by
        rw [Entries.get?, if_neg fun same => different (Setting.name_injective same).symm]
      have here : Entries.get? ((setting.name, value) :: rest) setting.name = some value := by
        rw [Entries.get?, if_pos rfl]
      constructor
      · intro succeeds other
        obtain ⟨between, isSet, behind⟩ := bind_eq_ok succeeds
        obtain ⟨isTaken, others⟩ := (set_eq_ok_iff before between setting value).mp isSet
        have followed := (inductionHypothesis distinctRest between).mp behind other
        by_cases same : other = setting
        · subst same
          rw [noOther] at followed
          rw [here, ← Except.ok.inj followed]
          exact isTaken
        · rw [elsewhere other same, ← others other same]
          exact followed
      · intro each
        have isTaken : taken setting value = .ok (after.value setting) := by
          have ruledHere := each setting
          rwa [here] at ruledHere
        obtain ⟨between, isSet⟩ := exists_of_taken isTaken before
        obtain ⟨takenSo, others⟩ := (set_eq_ok_iff before between setting value).mp isSet
        rw [isSet, ok_bind, inductionHypothesis distinctRest]
        intro other
        by_cases same : other = setting
        · subst same
          rw [noOther]
          exact takenSo.symm.trans isTaken
        · rw [others other same, ← elsewhere other same]
          exact each other

/-- A layer is applied if it names settings only; each setting then ends as the layer rules. -/
theorem apply_eq_ok_iff (before after : Settings) (layer : Table Json) :
    before.apply layer = .ok after ↔
      (∀ name ∈ layer.names, Setting.ofName? name ≠ none) ∧
        ∀ setting, ruled setting (before.value setting) (layer.get? setting.name) =
          .ok (after.value setting) := by
  by_cases known : ∀ name ∈ layer.names, Setting.ofName? name ≠ none
  · rw [apply_known before layer known, setAll_eq_ok_iff layer.entries layer.distinct]
    exact ⟨fun each => ⟨known, each⟩, fun both => both.2⟩
  · refine ⟨fun succeeds => absurd ?_ known, fun both => absurd both.1 known⟩
    intro name member isUnknown
    have listed : name ∈ unknownNames layer :=
      List.mem_mergeSort.mpr (List.mem_filter.mpr
        ⟨member, Option.isNone_iff_eq_none.mpr isUnknown⟩)
    rw [apply] at succeeds
    split at succeeds
    case h_1 noneUnknown =>
      rw [noneUnknown] at listed
      exact List.not_mem_nil listed
    case h_2 => cases succeeds

/-- A layer that some settings accept is accepted by all. -/
theorem apply_accepted {before after : Settings} {layer : Table Json}
    (accepted : before.apply layer = .ok after) (other : Settings) :
    ∃ result, other.apply layer = .ok result := by
  obtain ⟨known, each⟩ := (apply_eq_ok_iff before after layer).mp accepted
  have takes : ∀ entry ∈ layer.entries, ∀ setting, entry.1 = setting.name →
      ∃ result, taken setting entry.2 = .ok result := by
    rintro ⟨name, value⟩ present setting rfl
    have ruledSo := each setting
    rw [(layer.mem_entries _ value).mp present] at ruledSo
    exact ⟨_, ruledSo⟩
  rw [apply_known other layer known]
  clear accepted each known
  generalize layer.entries = entries at takes
  induction entries generalizing other with
  | nil => exact ⟨other, rfl⟩
  | cons entry rest inductionHypothesis =>
    have takesRest := fun entry (member : entry ∈ rest) =>
      takes entry (List.mem_cons_of_mem _ member)
    rw [setAll]
    cases isSetting : Setting.ofName? entry.1 with
    | none => exact inductionHypothesis other takesRest
    | some setting =>
      obtain ⟨result, isTaken⟩ := takes entry List.mem_cons_self setting
        ((Setting.ofName?_eq_some entry.1 setting).mp isSetting)
      obtain ⟨between, isSet⟩ := exists_of_taken isTaken other
      dsimp only
      rw [isSet, ok_bind]
      exact inductionHypothesis between takesRest

/-- What the second of two layers says goes over what the first one says. -/
theorem ruled_in_turn {setting : Setting} {before between after : Json}
    {first second : Option Json} (one : ruled setting before first = .ok between)
    (other : ruled setting between second = .ok after) :
    ruled setting before (second.or first) = .ok after := by
  cases second with
  | none =>
    cases other
    exact one
  | some value => exact other

/-! ### Taking again -/

theorem journalLevel_name (level : Level) : journalLevel (.str level.name) = .ok level := by
  have named : Level.ofName? (Text.capitals (Text.trim level.name)) = some level := by
    cases level <;> decide +kernel
  unfold journalLevel
  rw [Json.display_str, ok_bind]
  dsimp only
  rw [named]
  rfl

/-- A text that was read as one that may be missing is read so again. -/
theorem optionalText_again {value : Json} {text : Option String}
    (isRead : optionalText value = .ok text) :
    optionalText ((text.map Json.str).getD .null) = .ok text := by
  cases text with
  | none => rfl
  | some text =>
    rw [optionalText] at isRead
    split at isRead
    · cases isRead
    · obtain ⟨shown, -, isText⟩ := bind_eq_ok isRead
      cases empty : (Text.trim shown).isEmpty with
      | true =>
        simp only [empty] at isText
        cases isText
      | false =>
        simp only [empty] at isText
        cases isText
        exact optionalText_str _ (Text.trim_trim shown) empty

/-- Names of markets without blanks around them are read as themselves. -/
theorem marketNames_trimmed (names : List String) (notEmpty : names.isEmpty = false)
    (trimmed : ∀ name ∈ names, Text.trim name = name)
    (named : ∀ name ∈ names, (!name.isEmpty) = true) :
    marketNames (.arr (names.map .str)) = .ok names := by
  have areRead : (names.map Json.str).mapM (fun item => do return Text.trim (← item.display)) =
      (.ok (names.map id) : Except Fault (List String)) := by
    refine mapM_map_eq_ok _ _ _ _ fun name member => ?_
    rw [Json.display_str, ok_bind, trimmed name member]
    rfl
  have areItems : marketItems (.arr (names.map .str)) = .ok (names.map .str) := rfl
  rw [marketNames, areItems, ok_bind, areRead, List.map_id, ok_bind]
  dsimp only
  rw [List.filter_eq_self.mpr named, notEmpty]
  rfl

/-- Names of markets that were read are read as themselves. -/
theorem marketNames_again {value : Json} {names : List String}
    (areRead : marketNames value = .ok names) :
    marketNames (.arr (names.map .str)) = .ok names := by
  rw [marketNames] at areRead
  obtain ⟨items, -, behind⟩ := bind_eq_ok areRead
  obtain ⟨all, areTrimmed, areNamed⟩ := bind_eq_ok behind
  have trimmed (name : String) (member : name ∈ all) : Text.trim name = name := by
    obtain ⟨item, -, isName⟩ := exists_of_mapM_eq_ok areTrimmed name member
    obtain ⟨shown, -, isTrimmed⟩ := bind_eq_ok isName
    cases isTrimmed
    exact Text.trim_trim shown
  dsimp only at areNamed
  split at areNamed
  case isTrue => cases areNamed
  case isFalse notEmpty =>
    cases areNamed
    exact marketNames_trimmed _ (Bool.eq_false_iff.mpr notEmpty)
      (fun name member => trimmed name (List.mem_of_mem_filter member))
      fun name member => (List.mem_filter.mp member).2

/-- What a setting has taken it takes again as it is. -/
theorem taken_again {setting : Setting} {value result : Json}
    (isTaken : taken setting value = .ok result) : taken setting result = .ok result := by
  obtain ⟨after, isSet, isResult⟩ := bind_eq_ok isTaken
  cases isResult
  cases setting with
  | store =>
    obtain ⟨kind, -, isAfter⟩ := bind_eq_ok isSet
    cases isAfter
    show (storeKind (.str kind.name) >>= _) >>= _ = _
    rw [storeKind_name]
    rfl
  | dataFolder | bucket | databaseUrl | outboxTarget =>
    obtain ⟨text, isRead, isAfter⟩ := bind_eq_ok isSet
    cases isAfter
    show (optionalText ((text.map Json.str).getD .null) >>= _) >>= _ = _
    rw [optionalText_again isRead]
    rfl
  | stem | seedSource =>
    obtain ⟨text, -, isAfter⟩ := bind_eq_ok isSet
    cases isAfter
    show (Json.display (.str text) >>= _) >>= _ = _
    rw [Json.display_str]
    rfl
  | timeout | retries =>
    obtain ⟨amount, -, isAfter⟩ := bind_eq_ok isSet
    cases isAfter
    rfl
  | markets =>
    obtain ⟨names, areRead, isAfter⟩ := bind_eq_ok isSet
    cases isAfter
    show (marketNames (.arr (names.map .str)) >>= _) >>= _ = _
    rw [marketNames_again areRead]
    rfl
  | level =>
    obtain ⟨level, -, isAfter⟩ := bind_eq_ok isSet
    cases isAfter
    show (journalLevel (.str level.name) >>= _) >>= _ = _
    rw [journalLevel_name]
    rfl
  | writesJson =>
    cases isSet
    rfl

end Settings

end MarketSignal
