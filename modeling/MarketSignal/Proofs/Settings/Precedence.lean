/-
This file proves that settings from several layers are found setting by setting. Each setting is the
value that the highest layer with a word on it has for it, taken on its own over the defaults: the
request first, then the environment, then the last line of the file that names the setting, then the
default. What the other settings are makes no difference, and neither does the order of variables
for different settings or of the names in the request.

Of the layers above one another no more is needed than what each of them says last of a setting; a
reading of the file or of the environment as a table keeps just that.
-/
import MarketSignal.Proofs.Settings.Applying
import MarketSignal.Proofs.Storage.Persistence

namespace MarketSignal

/-! ### The last entry -/

section

variable {Value : Type}

/-- The value of the last entry whose name is one of those asked for. -/
def lastAbout (about : String → Bool) (entries : List (String × Value)) : Option Value :=
  ((entries.filter fun entry => about entry.1).getLast?).map Prod.snd

theorem lastAbout_append (about : String → Bool) (front back : List (String × Value)) :
    lastAbout about (front ++ back) = (lastAbout about back).or (lastAbout about front) := by
  rw [lastAbout, List.filter_append, List.getLast?_append, Option.map_or]
  rfl

theorem lastAbout_concat (about : String → Bool) (front : List (String × Value))
    (entry : String × Value) :
    lastAbout about (front ++ [entry]) =
      if about entry.1 then some entry.2 else lastAbout about front := by
  rw [lastAbout_append, lastAbout, List.filter_singleton]
  cases about entry.1 <;> rfl

/-- A list of entries settles to the last value under each name. -/
theorem Entries.get?_settle (entries : List (String × Value)) (name : String) :
    Entries.get? (Entries.settle entries) name = lastAbout (· == name) entries := by
  induction entries using List.reverseRecOn with
  | nil => rfl
  | append_singleton before entry inductionHypothesis =>
    have settles : Entries.settle (before ++ [entry]) =
        Entries.put (Entries.settle before) entry.1 entry.2 := List.foldl_concat _ _ _ _
    rw [settles, lastAbout_concat]
    by_cases same : entry.1 = name
    · rw [same, Entries.get?_put_self, if_pos (beq_self_eq_true name)]
    · rw [Entries.get?_put_other _ _ _ _ same, inductionHypothesis,
        if_neg (mt beq_iff_eq.mp same)]

theorem Table.get?_ofEntries (entries : List (String × Value)) (name : String) :
    (Table.ofEntries entries).get? name = lastAbout (· == name) entries :=
  Entries.get?_settle entries name

/-- The entries of two tables, where the second goes over the first. -/
def Table.overlaid (first second : Table Value) : Table Value :=
  Table.ofEntries (first.entries ++ second.entries)

theorem Table.get?_overlaid (first second : Table Value) (name : String) :
    (first.overlaid second).get? name = (second.get? name).or (first.get? name) := by
  rw [Table.overlaid, Table.get?_ofEntries, lastAbout_append, ← Table.get?_ofEntries,
    ← Table.get?_ofEntries, Table.ofEntries_entries, Table.ofEntries_entries]

end

/-! ### Lines -/

theorem Text.lines_of_broken (text line rest : List Char)
    (broken : Text.breakLine text = (line, some rest)) :
    Text.lines text = line :: Text.lines rest := by
  cases text with
  | nil => cases broken
  | cons first others =>
    rw [Text.lines]
    split
    case h_1 noneLeft => cases noneLeft.symm.trans broken
    case h_2 isBroken =>
      cases isBroken.symm.trans broken
      rfl

namespace Settings

/-! ### The environment -/

/-- The layer of the variables that bear the mark. -/
def markedVariables (environment : Table String) : Table Json :=
  Table.ofEntries (environment.entries.filterMap fun entry =>
    (variableSetting? entry.1).map fun setting => (setting.name, Json.str entry.2))

/-- What the environment says of a setting: what the last variable for it says, or, of the database,
what the variable for the database says unless it is empty. -/
def saidByEnvironment (environment : Table String) (setting : Setting) : Option Json :=
  match lastAbout (fun name => variableSetting? name == some setting) environment.entries with
  | some text => some (.str text)
  | none =>
    if setting = .databaseUrl then
      match environment.get? databaseVariable with
      | some url => if url.isEmpty then none else some (.str url)
      | none => none
    else none

theorem get?_markedVariables (environment : Table String) (setting : Setting) :
    (markedVariables environment).get? setting.name =
      (lastAbout (fun name => variableSetting? name == some setting) environment.entries).map
        Json.str := by
  rw [markedVariables, Table.get?_ofEntries]
  induction environment.entries using List.reverseRecOn with
  | nil => rfl
  | append_singleton before entry inductionHypothesis =>
    rw [List.filterMap_append, lastAbout_concat]
    cases isFor : variableSetting? entry.1 with
    | none =>
      rw [List.filterMap_cons_none (by rw [isFor]; rfl), List.filterMap_nil, List.append_nil,
        inductionHypothesis, if_neg (by simp)]
    | some other =>
      rw [List.filterMap_cons_some (by rw [isFor]; rfl), List.filterMap_nil, lastAbout_concat,
        inductionHypothesis]
      by_cases same : other = setting
      · subst same
        simp
      · have namesDiffer : other.name ≠ setting.name :=
          fun equal => same (Setting.name_injective equal)
        simp [same, namesDiffer]

theorem layerOfEnvironment_eq (environment : Table String) :
    layerOfEnvironment environment =
      match environment.get? databaseVariable with
      | some url =>
        if (markedVariables environment).has Setting.databaseUrl.name || url.isEmpty then
          markedVariables environment
        else (markedVariables environment).put Setting.databaseUrl.name (.str url)
      | none => markedVariables environment := rfl

/-- The layer in the environment has for a setting what the environment says of it. -/
theorem get?_layerOfEnvironment (environment : Table String) (setting : Setting) :
    (layerOfEnvironment environment).get? setting.name = saidByEnvironment environment setting := by
  have marked := get?_markedVariables environment setting
  rw [layerOfEnvironment_eq, saidByEnvironment]
  cases last : lastAbout (fun name => variableSetting? name == some setting)
      environment.entries with
  | some text =>
    rw [last] at marked
    dsimp only
    cases environment.get? databaseVariable with
    | none => exact marked
    | some url =>
      dsimp only
      split
      · exact marked
      case isFalse passed =>
        have different : Setting.databaseUrl.name ≠ setting.name := by
          intro same
          rw [same, Table.has, marked] at passed
          simp at passed
        rw [Table.get?_put_other _ _ _ _ different]
        exact marked
  | none =>
    rw [last] at marked
    dsimp only
    cases environment.get? databaseVariable with
    | none =>
      dsimp only
      rw [ite_self]
      exact marked
    | some url =>
      dsimp only
      by_cases isDatabase : setting = .databaseUrl
      · subst isDatabase
        rw [Table.has, marked, if_pos rfl]
        cases url.isEmpty with
        | true => exact marked
        | false => exact Table.get?_put_self _ _ _
      · rw [if_neg isDatabase]
        split
        · exact marked
        · rw [Table.get?_put_other _ _ _ _ fun same =>
            isDatabase (Setting.name_injective same).symm]
          exact marked

theorem layerOfEnvironment_known (environment : Table String) (name : String)
    (member : name ∈ (layerOfEnvironment environment).names) : Setting.ofName? name ≠ none := by
  have known (name : String) (member : name ∈ (markedVariables environment).names) :
      Setting.ofName? name ≠ none := by
    obtain ⟨entry, present, rfl⟩ := List.mem_map.mp member
    obtain ⟨source, -, isEntry⟩ :=
      List.mem_filterMap.mp (Entries.mem_of_mem_settle _ entry present)
    obtain ⟨setting, -, rfl⟩ := Option.map_eq_some_iff.mp isEntry
    rw [Setting.ofName?_name]
    exact Option.some_ne_none setting
  rw [layerOfEnvironment_eq] at member
  cases isUrl : environment.get? databaseVariable with
  | none =>
    rw [isUrl] at member
    exact known name member
  | some url =>
    rw [isUrl] at member
    dsimp only at member
    split at member
    · exact known name member
    · rw [Table.names, Table.put, Entries.names_put] at member
      split at member
      · exact known name member
      · rcases List.mem_append.mp member with before | isName
        · exact known name before
        · rw [List.mem_singleton.mp isName, Setting.ofName?_name]
          exact Option.some_ne_none _

/-- Environments with the same variables, where those for one setting come in the same order. -/
structure SameVariables (left right : Table String) : Prop where
  reordered : left.Reordered right
  inOrder : ∀ setting,
    left.entries.filter (fun entry => variableSetting? entry.1 == some setting) =
      right.entries.filter fun entry => variableSetting? entry.1 == some setting

theorem SameVariables.said {left right : Table String} (same : SameVariables left right)
    (setting : Setting) : saidByEnvironment left setting = saidByEnvironment right setting := by
  rw [saidByEnvironment, saidByEnvironment, lastAbout, lastAbout, same.inOrder setting,
    same.reordered.get?]

/-! ### All layers -/

/-- What is said of a setting by the highest layer with a word on it: the request, the environment,
or the lines of a file. -/
def said (lines : List (String × Json)) (environment : Table String) (request : Table Json)
    (setting : Setting) : Option Json :=
  (request.get? setting.name).or
    ((saidByEnvironment environment setting).or (lastAbout (· == setting.name) lines))

/-- The layer that says one thing of one setting, if anything. -/
def sole (setting : Setting) : Option Json → Table Json
  | some value => Table.ofEntries [(setting.name, value)]
  | none => Table.empty

/-- Three layers over one another leave each setting as the highest of them says. -/
theorem ruled_of_ofLayers {lines : List (String × Json)} {environment : Table String}
    {request : Table Json} {settings : Settings}
    (accepted : ofLayers (Table.ofEntries lines) environment request = .ok settings)
    (setting : Setting) :
    ruled setting (default.value setting) (said lines environment request setting) =
      .ok (settings.value setting) := by
  obtain ⟨fromFile, ofFile, behind⟩ := bind_eq_ok accepted
  obtain ⟨fromEnvironment, ofEnvironment, ofRequest⟩ := bind_eq_ok behind
  have first := ((apply_eq_ok_iff _ _ _).mp ofFile).2 setting
  have second := ((apply_eq_ok_iff _ _ _).mp ofEnvironment).2 setting
  have third := ((apply_eq_ok_iff _ _ _).mp ofRequest).2 setting
  rw [Table.get?_ofEntries] at first
  rw [get?_layerOfEnvironment] at second
  exact ruled_in_turn (ruled_in_turn first second) third

/-- What is said of one setting alone leaves it as it is ruled. -/
theorem exists_alone {setting : Setting} {word : Option Json} {result : Json}
    (isRuled : ruled setting (default.value setting) word = .ok result) :
    ∃ alone, default.apply (sole setting word) = .ok alone ∧ alone.value setting = result := by
  cases word with
  | none => exact ⟨default, apply_empty default, Except.ok.inj isRuled⟩
  | some value =>
    obtain ⟨alone, isSet⟩ := exists_of_taken isRuled default
    have takenSo := ((set_eq_ok_iff default alone setting value).mp isSet).1
    refine ⟨alone, ?_, Except.ok.inj (takenSo.symm.trans isRuled)⟩
    have known : ∀ name ∈ (sole setting (some value)).names, Setting.ofName? name ≠ none := by
      intro name member
      rw [List.mem_singleton.mp member, Setting.ofName?_name]
      exact Option.some_ne_none setting
    rw [apply_known default _ known]
    show default.setAll [(setting.name, value)] = _
    rw [setAll_cons, isSet]
    rfl

/-- Layers that say the same of each setting are the same to settings. -/
theorem apply_congr {before after : Settings} {left right : Table Json}
    (said : ∀ setting : Setting, left.get? setting.name = right.get? setting.name)
    (known : ∀ name ∈ right.names, Setting.ofName? name ≠ none)
    (accepted : before.apply left = .ok after) : before.apply right = .ok after := by
  rw [apply_eq_ok_iff] at accepted ⊢
  refine ⟨known, fun setting => ?_⟩
  rw [← said setting]
  exact accepted.2 setting

/-- Layers in another order come to the same settings. -/
theorem ofLayers_reordered {file : Table Json} {environment otherEnvironment : Table String}
    {request otherRequest : Table Json} {settings : Settings}
    (sameVariables : SameVariables environment otherEnvironment)
    (reordered : request.Reordered otherRequest)
    (accepted : ofLayers file environment request = .ok settings) :
    ofLayers file otherEnvironment otherRequest = .ok settings := by
  obtain ⟨fromFile, ofFile, behind⟩ := bind_eq_ok accepted
  obtain ⟨fromEnvironment, ofEnvironment, ofRequest⟩ := bind_eq_ok behind
  have sameEnvironment : fromFile.apply (layerOfEnvironment otherEnvironment) =
      .ok fromEnvironment := by
    refine apply_congr (fun setting => ?_) (layerOfEnvironment_known otherEnvironment) ofEnvironment
    rw [get?_layerOfEnvironment, get?_layerOfEnvironment, sameVariables.said]
  have sameRequest : fromEnvironment.apply otherRequest = .ok settings := by
    refine apply_congr (fun setting => reordered.get? setting.name) (fun name member => ?_)
      ofRequest
    have names : request.names.Perm otherRequest.names := List.Perm.map Prod.fst reordered
    exact ((apply_eq_ok_iff _ _ _).mp ofRequest).1 name (names.mem_iff.mpr member)
  rw [ofLayers, ofFile, ok_bind, sameEnvironment, ok_bind, sameRequest]

/-- A layer over another one is the two in one. -/
theorem apply_overlaid {base between after : Settings} {first second : Table Json}
    (one : base.apply first = .ok between) (other : between.apply second = .ok after) :
    base.apply (first.overlaid second) = .ok after := by
  rw [apply_eq_ok_iff] at one other ⊢
  refine ⟨fun name member => ?_, fun setting => ?_⟩
  · obtain ⟨value, found⟩ := ((first.overlaid second).mem_names name).mp member
    rw [Table.get?_overlaid, Option.or_eq_some_iff] at found
    rcases found with inSecond | inFirst
    · exact other.1 name ((second.mem_names name).mpr ⟨value, inSecond⟩)
    · exact one.1 name ((first.mem_names name).mpr ⟨value, inFirst.2⟩)
  · rw [Table.get?_overlaid]
    exact ruled_in_turn (one.2 setting) (other.2 setting)

/-! ### The layer of all settings -/

/-- Each setting takes its default. -/
theorem taken_default (setting : Setting) :
    taken setting (default.value setting) = .ok (default.value setting) := by
  cases setting with
  | store =>
    show (storeKind (.str StoreKind.folder.name) >>= _) >>= _ = _
    rw [storeKind_name]
    rfl
  | markets =>
    show (marketNames (.arr (["gold", "oil", "dj"].map .str)) >>= _) >>= _ = _
    rw [marketNames_trimmed _ rfl (by decide +kernel) (by decide +kernel)]
    rfl
  | level =>
    show (journalLevel (.str Level.info.name) >>= _) >>= _ = _
    rw [journalLevel_name]
    rfl
  | stem | seedSource =>
    show (Json.display (.str _) >>= _) >>= _ = _
    rw [Json.display_str]
    rfl
  | dataFolder | bucket | databaseUrl | outboxTarget | timeout | retries | writesJson => rfl

/-- A setting that is ruled to a value takes that value. -/
theorem taken_of_ruled {setting : Setting} {before result : Json} {word : Option Json}
    (ofBefore : taken setting before = .ok before)
    (isRuled : ruled setting before word = .ok result) : taken setting result = .ok result := by
  cases word with
  | none =>
    cases isRuled
    exact ofBefore
  | some value => exact taken_again isRuled

theorem get?_asLayer (settings : Settings) (setting : Setting) :
    settings.asLayer.get? setting.name = some (settings.value setting) := by
  rw [asLayer, Table.get?_ofEntries]
  cases setting <;> rfl

/-- Settings that each take their value are not changed by the layer of all settings. -/
theorem apply_asLayer {settings : Settings}
    (takes : ∀ setting, taken setting (settings.value setting) = .ok (settings.value setting)) :
    settings.apply settings.asLayer = .ok settings := by
  rw [apply_eq_ok_iff]
  constructor
  · intro name member
    obtain ⟨entry, present, rfl⟩ := List.mem_map.mp member
    obtain ⟨setting, -, rfl⟩ := List.mem_map.mp (Entries.mem_of_mem_settle _ entry present)
    rw [Setting.ofName?_name]
    exact Option.some_ne_none setting
  · intro setting
    rw [get?_asLayer]
    exact takes setting

/-! ### Loading -/

/-- The entries that the lines of a file come to. A missing file has none. -/
inductive FileLines (disk : Disk) (file : Path) : List (String × Json) → Prop where
  | missing (absent : disk.has file = .ok false) : FileLines disk file []
  | present {text : String} {lines : List (Option (String × Json))}
    (isThere : disk.has file = .ok true)
    (isRead : ((Disk.readText file).outcome disk).1 = .ok text)
    (areRead : (Text.lines text.toList).mapM lineEntry? = .ok lines) :
    FileLines disk file (lines.filterMap id)

/-- The layer in a file is the table of what its lines come to. -/
theorem exists_fileLines {disk : Disk} {file : Path} {layer : Table Json}
    (isRead : ((layerOfFile file).outcome disk).1 = .ok layer) :
    ∃ lines, FileLines disk file lines ∧ layer = Table.ofEntries lines := by
  obtain ⟨after, answered⟩ : ∃ after, (layerOfFile file).outcome disk = (.ok layer, after) :=
    ⟨_, Prod.ext isRead rfl⟩
  obtain ⟨_, _, isDisk, behind⟩ := Run.exists_of_bind_eq_ok answered
  cases isDisk
  obtain ⟨isThere, has, rest⟩ := Run.exists_of_ofExcept_bind_eq_ok behind
  cases isThere with
  | false =>
    rw [if_neg Bool.false_ne_true] at rest
    cases congrArg Prod.fst rest
    exact ⟨[], .missing has, rfl⟩
  | true =>
    rw [if_pos rfl] at rest
    obtain ⟨text, between, isText, ofText⟩ := Run.exists_of_bind_eq_ok rest
    rw [Run.outcome_ofExcept] at ofText
    obtain ⟨lines, areRead, isLayer⟩ := bind_eq_ok (congrArg Prod.fst ofText)
    cases isLayer
    exact ⟨_, .present has (congrArg Prod.fst isText) areRead, rfl⟩

theorem outcome_load (file : Path) (environment : Table String) (request : Table Json)
    (disk : Disk) :
    ((load file environment request).outcome disk).1 =
      ((layerOfFile file).outcome disk).1 >>= fun layer => ofLayers layer environment request := by
  rw [load, Run.outcome_bind]
  obtain ⟨fault | layer, after⟩ := (layerOfFile file).outcome disk
  · rfl
  · exact congrArg Prod.fst (Run.outcome_ofExcept _ after)

/-! ### Three layers -/

/-- A file with two words on the retries. -/
def retriesFile : String := "sink_max_retries: 3\nsink_max_retries: 4\n"

/-- An environment that names a database, though not in a variable of the program's own. -/
def databaseEnvironment : Table String := Table.ofEntries [("DATABASE_URL", "records")]

/-- A request for a level. -/
def levelRequest : Table Json := Table.ofEntries [("log_level", .str "debug")]

/-- What the layers come to. -/
def layeredSettings : Settings :=
  { default with databaseUrl := some "records", retries := 4, level := .debug }

theorem layerOfText_retriesFile :
    layerOfText retriesFile = .ok (Table.ofEntries [("sink_max_retries", .int 4)]) := by
  have lines : Text.lines retriesFile.toList =
      ["sink_max_retries: 3".toList, "sink_max_retries: 4".toList] := by
    rw [Text.lines_of_broken _ "sink_max_retries: 3".toList "sink_max_retries: 4\n".toList rfl,
      Text.lines_of_broken _ "sink_max_retries: 4".toList [] rfl, Text.lines]
  rw [layerOfText, lines]
  rfl

theorem ofLayers_layered :
    ofLayers (Table.ofEntries [("sink_max_retries", .int 4)]) databaseEnvironment levelRequest =
      .ok layeredSettings := by
  have fromFile : default.apply (Table.ofEntries [("sink_max_retries", .int 4)]) =
      .ok { default with retries := 4 } := by
    rw [apply_known _ _ (by decide +kernel)]
    rfl
  have fromEnvironment : ({ default with retries := 4 } : Settings).apply
      (layerOfEnvironment databaseEnvironment) =
        .ok { default with retries := 4, databaseUrl := some "records" } := by
    rw [apply_known _ _ (layerOfEnvironment_known databaseEnvironment)]
    show ({ default with retries := 4 } : Settings).setAll
      [(Setting.databaseUrl.name, .str "records")] = _
    rw [setAll_cons, Settings.set, optionalText_str _ (by decide +kernel) rfl]
    rfl
  have fromRequest : ({ default with retries := 4, databaseUrl := some "records" } :
      Settings).apply levelRequest = .ok layeredSettings := by
    have isLevel : journalLevel (.str "debug") = .ok .debug := by
      rw [journalLevel, Json.display_str, ok_bind]
      rfl
    rw [apply_known _ _ (by decide +kernel)]
    show ({ default with retries := 4, databaseUrl := some "records" } : Settings).setAll
      [(Setting.level.name, .str "debug")] = _
    rw [setAll_cons, Settings.set, isLevel]
    rfl
  rw [ofLayers, fromFile, ok_bind, fromEnvironment, ok_bind, fromRequest]

/-- A disk with the file in the working directory. -/
def retriesDisk : Disk := Disk.fresh.put ["work", "settings.yaml"] (.file retriesFile.toUTF8)

theorem load_retriesDisk :
    ((load (Path.ofText "settings.yaml") databaseEnvironment levelRequest).outcome
      retriesDisk).1 = .ok layeredSettings := by
  have located : retriesDisk.locate (Path.ofText "settings.yaml") =
      .ok ["work", "settings.yaml"] := by rfl
  have isText := Disk.outcome_readText (Path.ofText "settings.yaml") ["work", "settings.yaml"]
    retriesFile retriesDisk located rfl nofun
  have isThere : retriesDisk.has (Path.ofText "settings.yaml") = .ok true := by
    rw [Disk.has, located]
    rfl
  have isLayer : ((layerOfFile (Path.ofText "settings.yaml")).outcome retriesDisk).1 =
      .ok (Table.ofEntries [("sink_max_retries", .int 4)]) := by
    rw [layerOfFile, Run.outcome_bind, Run.outcome_get, Run.continued, Run.outcome_bind,
      Run.outcome_ofExcept, isThere, Run.continued, if_pos rfl, Run.outcome_bind, isText,
      Run.continued, Run.outcome_ofExcept]
    exact layerOfText_retriesFile
  rw [outcome_load, isLayer, ok_bind]
  exact ofLayers_layered

/-! ### The highest word -/

/-- Settings that are loaded are, each for itself, what the highest layer with a word on it says. -/
theorem load_by_precedence (file : Path) (environment : Table String) (request : Table Json)
    (disk : Disk) (settings : Settings)
    (accepted : ((load file environment request).outcome disk).1 = .ok settings) :
    (∃ lines, FileLines disk file lines ∧ ∀ setting, ∃ alone,
        default.apply (sole setting (said lines environment request setting)) = .ok alone ∧
          settings.value setting = alone.value setting) ∧
      (∀ otherEnvironment otherRequest, SameVariables environment otherEnvironment →
        request.Reordered otherRequest →
          ((load file otherEnvironment otherRequest).outcome disk).1 = .ok settings) ∧
      (∀ base left right first second, Settings.apply base first = .ok left →
        Settings.apply base second = .ok right →
          ∃ after, left.apply second = .ok after ∧
            base.apply (first.overlaid second) = .ok after) ∧
      settings.apply settings.asLayer = .ok settings := by
  rw [outcome_load] at accepted
  obtain ⟨layer, isLayer, ofLayer⟩ := bind_eq_ok accepted
  obtain ⟨lines, areLines, rfl⟩ := exists_fileLines isLayer
  have ruledSo := ruled_of_ofLayers ofLayer
  refine ⟨⟨lines, areLines, fun setting => ?_⟩, ?_, ?_, ?_⟩
  · obtain ⟨alone, isApplied, isValue⟩ := exists_alone (ruledSo setting)
    exact ⟨alone, isApplied, isValue.symm⟩
  · intro otherEnvironment otherRequest sameVariables reordered
    rw [outcome_load, isLayer]
    exact ofLayers_reordered sameVariables reordered ofLayer
  · intro base left right first second one other
    obtain ⟨after, isApplied⟩ := apply_accepted other left
    exact ⟨after, isApplied, apply_overlaid one isApplied⟩
  · exact apply_asLayer fun setting => taken_of_ruled (taken_default setting) (ruledSo setting)

theorem load_by_precedence_layered :
    ((load (Path.ofText "settings.yaml") databaseEnvironment levelRequest).outcome
        retriesDisk).1 = .ok layeredSettings ∧
      layeredSettings.apply layeredSettings.asLayer = .ok layeredSettings :=
  ⟨load_retriesDisk,
    (load_by_precedence (Path.ofText "settings.yaml") databaseEnvironment levelRequest
      retriesDisk layeredSettings load_retriesDisk).2.2.2⟩

end Settings

end MarketSignal
