/-
This file proves how loading settings ends. A value that a setting cannot take is refused as a
value, with three exceptions: a whole number beyond all floating-point ones for the timeout, an
infinite number of retries, and markets that have no elements. Such a value overtaxes its setting,
and ends the load with a fault of another class. So a load ends with settings in order or with the
refusal of a value, unless a value that overtaxes its setting is the first that is not taken, in the
file or in the request. The environment has texts only, and no text overtaxes a setting.
-/
import MarketSignal.Proofs.Number.Order
import MarketSignal.Proofs.Settings.Precedence

namespace MarketSignal

/-! ### Classes of faults -/

/-- The classes of faults that a load of settings can end with: something is wrong with a value,
with the kind of a value, or with the size of a number. -/
inductive FaultClass where
  | value
  | kind
  | size
deriving DecidableEq, Repr

/-- The class of a fault. -/
def Fault.faultClass? : Fault → Option FaultClass
  | .setting _ | .notNumber | .longNumber => some .value
  | .wrongKind => some .kind
  | .tooLarge => some .size
  | _ => none

namespace Settings

/-- Settings are in order: the record store and the level are among those that can be chosen, and
there is at least one market, each with a name that is not blank and has no blanks around it. -/
structure InOrder (settings : Settings) : Prop where
  store : settings.store.name ∈ ["local", "gcs", "postgres", "none"]
  level : settings.level.name ∈ ["DEBUG", "INFO", "WARNING", "ERROR"]
  someMarket : settings.markets ≠ []
  named : ∀ market ∈ settings.markets, market ≠ "" ∧ Text.trim market = market

/-! ### One setting -/

/-- A value overtaxes a setting. -/
inductive Overtaxes : Setting → Json → Prop
  | timeout {whole : Int} (beyond : floatOfInt? whole = none) : Overtaxes .timeout (.int whole)
  | retries {number : Float} (infinite : number = infinity ∨ number = negativeInfinity) :
    Overtaxes .retries (.float number)
  | markets {value : Json} (single : value.elements? = none) : Overtaxes .markets value

/-- Work ends with the refusal of a value if it fails at all. -/
def RefusesValues {Result : Type} (outcome : Except Fault Result) : Prop :=
  ∀ fault, outcome = .error fault → fault.faultClass? = some .value

/-- Work ends with a refusal that is not that of a value. -/
def RefusesOtherwise {Result : Type} (outcome : Except Fault Result) : Prop :=
  ∃ fault, outcome = .error fault ∧
    (fault.faultClass? = some .kind ∨ fault.faultClass? = some .size)

section

variable {Result Other : Type}

theorem refusesValues_ok (result : Result) : RefusesValues (.ok result) := nofun

theorem refusesValues_error {fault : Fault} (isValue : fault.faultClass? = some .value) :
    RefusesValues (.error fault : Except Fault Result) := by
  rintro other same
  cases same
  exact isValue

theorem RefusesValues.bind {first : Except Fault Result} {next : Result → Except Fault Other}
    (refuses : RefusesValues first)
    (rest : ∀ result, first = .ok result → RefusesValues (next result)) :
    RefusesValues (first >>= next) := by
  cases first with
  | error fault =>
    rintro other same
    cases same
    exact refuses fault rfl
  | ok result => exact rest result rfl

theorem RefusesOtherwise.bind {first : Except Fault Result} (refuses : RefusesOtherwise first)
    (next : Result → Except Fault Other) : RefusesOtherwise (first >>= next) := by
  obtain ⟨fault, rfl, isOther⟩ := refuses
  exact ⟨fault, rfl, isOther⟩

theorem RefusesOtherwise.not_refusesValues {outcome : Except Fault Result}
    (otherwise : RefusesOtherwise outcome) : ¬ RefusesValues outcome := by
  obtain ⟨fault, isFault, isOther⟩ := otherwise
  intro values
  rw [values fault isFault] at isOther
  rcases isOther with same | same <;> cases same

theorem refusesValues_mapM {Item : Type} {read : Item → Except Fault Result} {items : List Item}
    (each : ∀ item, RefusesValues (read item)) : RefusesValues (items.mapM read) := by
  induction items with
  | nil => exact refusesValues_ok []
  | cons item rest inductionHypothesis =>
    rw [List.mapM_cons]
    exact (each item).bind fun _ _ => inductionHypothesis.bind fun _ _ => refusesValues_ok _

end

theorem refusesValues_display (value : Json) : RefusesValues value.display := by
  unfold Json.display
  split
  · exact refusesValues_ok _
  · exact refusesValues_error rfl

theorem refusesValues_wrongNumber {Result : Type} (kind : String) (setting : Setting)
    (value : Json) : RefusesValues (wrongNumber kind setting value : Except Fault Result) :=
  (refusesValues_display value).bind fun _ _ => refusesValues_error rfl

theorem refusesValues_optionalText (value : Json) : RefusesValues (optionalText value) := by
  unfold optionalText
  split
  · exact refusesValues_ok _
  · exact (refusesValues_display value).bind fun _ _ => refusesValues_ok _

theorem refusesValues_storeKind (value : Json) : RefusesValues (storeKind value) := by
  refine (refusesValues_display value).bind fun text _ => ?_
  dsimp only
  split
  · exact refusesValues_ok _
  · exact refusesValues_error rfl

theorem refusesValues_journalLevel (value : Json) : RefusesValues (journalLevel value) := by
  refine (refusesValues_display value).bind fun text _ => ?_
  dsimp only
  split
  · exact refusesValues_ok _
  · exact refusesValues_error rfl

/-- Work ends with another refusal than that of a value if something overtaxes it, and only then. -/
structure EndsBy {Result : Type} (overtaxed : Prop) (outcome : Except Fault Result) : Prop where
  otherwise : overtaxed → RefusesOtherwise outcome
  values : ¬ overtaxed → RefusesValues outcome

section

variable {Result Other : Type} {overtaxed : Prop}

theorem endsBy_of_refusesValues {outcome : Except Fault Result} (never : ¬ overtaxed)
    (values : RefusesValues outcome) : EndsBy overtaxed outcome :=
  ⟨fun isOvertaxed => absurd isOvertaxed never, fun _ => values⟩

theorem EndsBy.map {outcome : Except Fault Result} (ends : EndsBy overtaxed outcome)
    (change : Result → Other) : EndsBy overtaxed (outcome >>= fun result => .ok (change result)) :=
  ⟨fun isOvertaxed => (ends.otherwise isOvertaxed).bind _,
    fun never => (ends.values never).bind fun _ _ => refusesValues_ok _⟩

end

theorem endsBy_number (value : Json) :
    EndsBy (Overtaxes .timeout value) (number .timeout value) := by
  have unless_ (notWhole : ∀ whole, value ≠ .int whole) : ¬ Overtaxes .timeout value := by
    rintro ⟨-⟩
    exact notWhole _ rfl
  unfold number
  dsimp only
  split
  case h_1 whole =>
    cases near : floatOfInt? whole with
    | some number =>
      refine endsBy_of_refusesValues ?_ (refusesValues_ok number)
      rintro (beyond | _ | _)
      cases near.symm.trans beyond
    | none => exact ⟨fun _ => ⟨_, rfl, Or.inr rfl⟩, fun never => absurd (.timeout near) never⟩
  case h_4 text =>
    refine endsBy_of_refusesValues (unless_ nofun) ?_
    split
    · exact refusesValues_ok _
    · exact refusesValues_wrongNumber _ _ _
  case h_5 notWhole _ _ _ =>
    exact endsBy_of_refusesValues (unless_ notWhole) (refusesValues_wrongNumber _ _ _)
  all_goals exact endsBy_of_refusesValues (unless_ nofun) (refusesValues_ok _)

theorem truncated?_infinite {number : Float}
    (infinite : number = infinity ∨ number = negativeInfinity) : truncated? number = none := by
  rcases infinite with rfl | rfl <;> decide +kernel

theorem isNotANumber_infinite {number : Float}
    (infinite : number = infinity ∨ number = negativeInfinity) : isNotANumber number = false := by
  rcases infinite with rfl | rfl <;> decide +kernel

/-- A number without a whole part is infinite or none at all. -/
theorem infinite_of_truncated? {number : Float} (noPart : truncated? number = none)
    (proper : isNotANumber number = false) : number = infinity ∨ number = negativeInfinity := by
  unfold truncated? at noPart
  cases shape : Shape.ofFloat number with
  | notANumber =>
    have isNone : isNotANumber notANumber = true := by decide +kernel
    rw [eq_of_shape_notANumber number shape, isNone] at proper
    cases proper
  | infinite negative =>
    rw [eq_of_shape_infinite number negative shape, infinity, negativeInfinity]
    cases negative
    · exact Or.inl rfl
    · exact Or.inr rfl
  | finite negative magnitude =>
    rw [shape] at noPart
    cases noPart

theorem endsBy_wholeNumber (value : Json) :
    EndsBy (Overtaxes .retries value) (wholeNumber .retries value) := by
  have unless_ (notReal : ∀ number, value ≠ .float number) : ¬ Overtaxes .retries value := by
    rintro ⟨-⟩
    exact notReal _ rfl
  unfold wholeNumber
  dsimp only
  split
  case h_3 number =>
    cases part : truncated? number with
    | some whole =>
      refine endsBy_of_refusesValues ?_ (refusesValues_ok whole)
      rintro (_ | infinite | _)
      cases part.symm.trans (truncated?_infinite infinite)
    | none =>
      cases proper : isNotANumber number with
      | true =>
        refine endsBy_of_refusesValues ?_ (refusesValues_wrongNumber _ _ _)
        rintro (_ | infinite | _)
        cases proper.symm.trans (isNotANumber_infinite infinite)
      | false =>
        have overtaxes := Overtaxes.retries (infinite_of_truncated? part proper)
        exact ⟨fun _ => ⟨_, rfl, Or.inr rfl⟩, fun never => absurd overtaxes never⟩
  case h_4 text =>
    refine endsBy_of_refusesValues (unless_ nofun) ?_
    split
    · exact refusesValues_ok _
    · exact refusesValues_wrongNumber _ _ _
  case h_5 _ _ notReal _ =>
    exact endsBy_of_refusesValues (unless_ notReal) (refusesValues_wrongNumber _ _ _)
  all_goals exact endsBy_of_refusesValues (unless_ nofun) (refusesValues_ok _)

theorem endsBy_marketNames (value : Json) :
    EndsBy (Overtaxes .markets value) (marketNames value) := by
  have named (items : List Json) : RefusesValues (do
      let names ← items.mapM fun item => return Text.trim (← item.display)
      let named := names.filter fun name => !name.isEmpty
      if named.isEmpty then throw (.setting "markets must name at least one market")
      return named : Except Fault (List String)) := by
    refine (refusesValues_mapM fun item =>
      (refusesValues_display item).bind fun _ _ => refusesValues_ok _).bind fun names _ => ?_
    dsimp only
    split
    · exact refusesValues_error rfl
    · exact refusesValues_ok _
  constructor
  · rintro (_ | _ | single)
    have noItems : marketItems value = .error .wrongKind := by
      unfold marketItems
      split
      · cases single
      · rw [Json.elements, single]
    rw [marketNames, noItems]
    exact ⟨_, rfl, Or.inl rfl⟩
  · intro several
    have items : ∃ items, marketItems value = .ok items := by
      unfold marketItems
      split
      · exact ⟨_, rfl⟩
      · cases elements : value.elements? with
        | none => exact absurd (.markets elements) several
        | some items => exact ⟨items, by rw [Json.elements, elements]⟩
    obtain ⟨items, areItems⟩ := items
    rw [marketNames, areItems, ok_bind]
    exact named items

/-- Setting a value ends with another refusal than that of a value if the value overtaxes the
setting. -/
theorem endsBy_set (settings : Settings) (setting : Setting) (value : Json) :
    EndsBy (Overtaxes setting value) (settings.set setting value) := by
  cases setting with
  | store =>
    exact endsBy_of_refusesValues nofun
      ((refusesValues_storeKind value).bind fun _ _ => refusesValues_ok _)
  | dataFolder | bucket | databaseUrl | outboxTarget =>
    exact endsBy_of_refusesValues nofun
      ((refusesValues_optionalText value).bind fun _ _ => refusesValues_ok _)
  | stem | seedSource =>
    exact endsBy_of_refusesValues nofun
      ((refusesValues_display value).bind fun _ _ => refusesValues_ok _)
  | timeout => exact (endsBy_number value).map _
  | retries => exact (endsBy_wholeNumber value).map _
  | markets => exact (endsBy_marketNames value).map _
  | level =>
    exact endsBy_of_refusesValues nofun
      ((refusesValues_journalLevel value).bind fun _ _ => refusesValues_ok _)
  | writesJson => exact endsBy_of_refusesValues nofun (refusesValues_ok _)

/-! ### A layer -/

/-- Of some entries, each for a setting, the first that is not taken overtaxes its setting. -/
inductive Overtaxing : List (String × Json) → Prop
  | here {setting : Setting} {value : Json} {rest : List (String × Json)}
    (overtaxes : Overtaxes setting value) : Overtaxing ((setting.name, value) :: rest)
  | later {setting : Setting} {value result : Json} {rest : List (String × Json)}
    (isTaken : taken setting value = .ok result) (overtaxing : Overtaxing rest) :
    Overtaxing ((setting.name, value) :: rest)

/-- Setting one value after another ends with another refusal than that of a value if the first
value that is not taken overtaxes its setting. -/
theorem endsBy_setAll (settings : Settings) (entries : List (String × Json))
    (known : ∀ entry ∈ entries, Setting.ofName? entry.1 ≠ none) :
    EndsBy (Overtaxing entries) (settings.setAll entries) := by
  induction entries generalizing settings with
  | nil => exact endsBy_of_refusesValues nofun (refusesValues_ok settings)
  | cons entry rest inductionHypothesis =>
    obtain ⟨name, value⟩ := entry
    obtain ⟨setting, isSetting⟩ :=
      Option.ne_none_iff_exists'.mp (known (name, value) List.mem_cons_self)
    obtain rfl := (Setting.ofName?_eq_some name setting).mp isSetting
    have restKnown := fun entry (member : entry ∈ rest) =>
      known entry (List.mem_cons_of_mem _ member)
    have step := endsBy_set settings setting value
    rw [setAll_cons]
    constructor
    · intro overtaxing
      generalize isName : setting.name = name at overtaxing
      cases overtaxing with
      | here overtaxes =>
        cases Setting.name_injective isName
        exact (step.otherwise overtaxes).bind _
      | later isTaken overtaxing =>
        cases Setting.name_injective isName
        obtain ⟨after, isSet⟩ := exists_of_taken isTaken settings
        rw [isSet, ok_bind]
        exact (inductionHypothesis after restKnown).otherwise overtaxing
    · intro never
      refine (step.values fun overtaxes => never (.here overtaxes)).bind fun after isSet => ?_
      have isTaken := ((set_eq_ok_iff settings after setting value).mp isSet).1
      exact (inductionHypothesis after restKnown).values fun overtaxing =>
        never (.later isTaken overtaxing)

/-- A layer names settings only, and its first value that is not taken overtaxes its setting. -/
structure OvertaxingLayer (layer : Table Json) : Prop where
  known : ∀ name ∈ layer.names, Setting.ofName? name ≠ none
  overtaxing : Overtaxing layer.entries

theorem refusesValues_unknown {layer : Table Json}
    (unknown : ¬ ∀ name ∈ layer.names, Setting.ofName? name ≠ none) (settings : Settings) :
    RefusesValues (settings.apply layer) := by
  rw [apply]
  split
  case h_1 noneUnknown =>
    refine absurd (fun name member isUnknown => ?_) unknown
    have listed : name ∈ unknownNames layer :=
      List.mem_mergeSort.mpr (List.mem_filter.mpr
        ⟨member, Option.isNone_iff_eq_none.mpr isUnknown⟩)
    rw [noneUnknown] at listed
    exact List.not_mem_nil listed
  case h_2 => exact refusesValues_error rfl

theorem endsBy_apply (settings : Settings) (layer : Table Json) :
    EndsBy (OvertaxingLayer layer) (settings.apply layer) := by
  by_cases known : ∀ name ∈ layer.names, Setting.ofName? name ≠ none
  · have ends := endsBy_setAll settings layer.entries fun entry member =>
      known entry.1 (List.mem_map.mpr ⟨entry, member, rfl⟩)
    rw [apply_known settings layer known]
    exact ⟨fun overtaxing => ends.otherwise overtaxing.overtaxing,
      fun never => ends.values fun overtaxing => never ⟨known, overtaxing⟩⟩
  · exact endsBy_of_refusesValues (fun overtaxing => known overtaxing.known)
      (refusesValues_unknown known settings)

/-- No text overtaxes a setting. -/
theorem not_overtaxes_str (setting : Setting) (text : String) :
    ¬ Overtaxes setting (.str text) := by
  rintro (_ | _ | single)
  cases single

theorem not_overtaxingLayer_of_texts {layer : Table Json}
    (texts : ∀ entry ∈ layer.entries, ∃ text, entry.2 = .str text) : ¬ OvertaxingLayer layer := by
  rintro ⟨-, overtaxing⟩
  generalize layer.entries = entries at texts overtaxing
  induction overtaxing with
  | here overtaxes =>
    obtain ⟨text, rfl⟩ := texts _ List.mem_cons_self
    exact not_overtaxes_str _ text overtaxes
  | later _ _ inductionHypothesis =>
    exact inductionHypothesis fun entry member => texts entry (List.mem_cons_of_mem _ member)

theorem not_overtaxingLayer_environment (environment : Table String) :
    ¬ OvertaxingLayer (layerOfEnvironment environment) := by
  refine not_overtaxingLayer_of_texts fun entry member => ?_
  have inNames : entry.1 ∈ (layerOfEnvironment environment).names :=
    List.mem_map.mpr ⟨entry, member, rfl⟩
  obtain ⟨setting, isSetting⟩ :=
    Option.ne_none_iff_exists'.mp (layerOfEnvironment_known environment entry.1 inNames)
  have isName := (Setting.ofName?_eq_some entry.1 setting).mp isSetting
  have found := ((layerOfEnvironment environment).mem_entries entry.1 entry.2).mp member
  rw [isName, get?_layerOfEnvironment, saidByEnvironment] at found
  split at found
  case h_1 text _ => exact ⟨text, (Option.some.inj found).symm⟩
  case h_2 =>
    split_ifs at found
    split at found
    case h_1 url _ =>
      split_ifs at found
      exact ⟨url, (Option.some.inj found).symm⟩
    case h_2 => cases found

/-! ### A file -/

/-- The text in a file; a missing file has none. -/
inductive FileText (disk : Disk) (file : Path) : Option String → Prop
  | missing (absent : disk.has file = .ok false) : FileText disk file none
  | present {text : String} (isThere : disk.has file = .ok true)
    (isRead : ((Disk.readText file).outcome disk).1 = .ok text) : FileText disk file (some text)

/-- The layer that a file with this text holds. -/
def layerOfText? : Option String → Except Fault (Table Json)
  | none => .ok Table.empty
  | some text => layerOfText text

theorem outcome_layerOfFile {disk : Disk} {file : Path} {text : Option String}
    (isText : FileText disk file text) :
    ((layerOfFile file).outcome disk).1 = layerOfText? text := by
  rw [layerOfFile, Run.outcome_bind, Run.outcome_get, Run.continued, Run.outcome_bind,
    Run.outcome_ofExcept]
  cases isText with
  | missing absent =>
    rw [absent]
    rfl
  | present isThere isRead =>
    rw [isThere, Run.continued, if_pos rfl, Run.outcome_bind]
    revert isRead
    obtain ⟨outcome, after⟩ := (Disk.readText file).outcome disk
    rintro rfl
    rw [Run.continued, Run.outcome_ofExcept]
    rfl

theorem refusesValues_scalar (text : List Char) : RefusesValues (scalar text) := by
  unfold scalar
  dsimp only
  split_ifs
  · exact refusesValues_ok _
  · exact refusesValues_ok _
  · split
    · exact refusesValues_ok _
    · exact refusesValues_error rfl
  · exact refusesValues_ok _

theorem refusesValues_lineEntry (line : List Char) : RefusesValues <| lineEntry? line := by
  unfold lineEntry?
  dsimp only
  split
  · exact refusesValues_ok _
  · split
    · exact (refusesValues_scalar _).bind fun _ _ => refusesValues_ok _
    · exact refusesValues_ok _

theorem refusesValues_layerOfText? (text : Option String) : RefusesValues (layerOfText? text) := by
  cases text with
  | none => exact refusesValues_ok _
  | some text =>
    exact (refusesValues_mapM refusesValues_lineEntry).bind fun _ _ => refusesValues_ok _

/-! ### All layers -/

/-- A value that overtaxes its setting is the first that is not taken, in the file or, if the file
and the environment are accepted, in the request. -/
inductive Overtaxed (text : Option String) (environment : Table String) (request : Table Json) :
    Prop
  | byFile {layer : Table Json} (isLayer : layerOfText? text = .ok layer)
    (overtaxing : OvertaxingLayer layer)
  | byRequest {layer : Table Json} {settings : Settings} (isLayer : layerOfText? text = .ok layer)
    (accepted : ofLayers layer environment Table.empty = .ok settings)
    (overtaxing : OvertaxingLayer request)

theorem ofLayers_empty (layer : Table Json) (environment : Table String) :
    ofLayers layer environment Table.empty =
      default.apply layer >>= fun fromFile => fromFile.apply (layerOfEnvironment environment) := by
  unfold ofLayers
  cases default.apply layer with
  | error fault => rfl
  | ok fromFile =>
    rw [ok_bind, ok_bind]
    cases fromFile.apply (layerOfEnvironment environment) with
    | error fault => rfl
    | ok fromEnvironment => exact apply_empty fromEnvironment

theorem ofLayers_eq (layer : Table Json) (environment : Table String) (request : Table Json) :
    ofLayers layer environment request =
      ofLayers layer environment Table.empty >>= fun settings => settings.apply request := by
  rw [ofLayers_empty]
  unfold ofLayers
  cases default.apply layer <;> rfl

theorem endsBy_load {file : Path} {disk : Disk} {text : Option String}
    (isText : FileText disk file text) (environment : Table String) (request : Table Json) :
    EndsBy (Overtaxed text environment request)
      ((load file environment request).outcome disk).1 := by
  rw [outcome_load, outcome_layerOfFile isText]
  cases isLayer : layerOfText? text with
  | error fault =>
    refine endsBy_of_refusesValues ?_ (refusesValues_error (refusesValues_layerOfText? _ _ isLayer))
    rintro (⟨other, -⟩ | ⟨other, -, -⟩) <;> cases isLayer.symm.trans other
  | ok layer =>
    have ofFile := endsBy_apply default layer
    rw [ok_bind, ofLayers_eq]
    constructor
    · rintro (⟨same, overtaxing⟩ | ⟨same, accepted, overtaxing⟩)
      · cases isLayer.symm.trans same
        rw [ofLayers_empty]
        exact ((ofFile.otherwise overtaxing).bind _).bind _
      · cases isLayer.symm.trans same
        rw [accepted, ok_bind]
        exact (endsBy_apply _ request).otherwise overtaxing
    · intro never
      have lower : RefusesValues (ofLayers layer environment Table.empty) := by
        rw [ofLayers_empty]
        refine (ofFile.values fun overtaxing => never (.byFile isLayer overtaxing)).bind
          fun fromFile _ => ?_
        exact (endsBy_apply fromFile _).values (not_overtaxingLayer_environment environment)
      refine lower.bind fun settings accepted => ?_
      exact (endsBy_apply settings request).values fun overtaxing =>
        never (.byRequest isLayer accepted overtaxing)

/-! ### Settings in order -/

theorem marketNames_inOrder {value : Json} {names : List String}
    (areRead : marketNames value = .ok names) :
    names ≠ [] ∧ ∀ name ∈ names, name ≠ "" ∧ Text.trim name = name := by
  obtain ⟨items, -, behind⟩ := bind_eq_ok areRead
  obtain ⟨all, areTrimmed, areNamed⟩ := bind_eq_ok behind
  dsimp only at areNamed
  split at areNamed
  case isTrue => cases areNamed
  case isFalse notEmpty =>
    cases areNamed
    refine ⟨fun nothing => notEmpty (List.isEmpty_iff.mpr nothing), fun name member => ?_⟩
    obtain ⟨within, named⟩ := List.mem_filter.mp member
    obtain ⟨item, -, isName⟩ := exists_of_mapM_eq_ok areTrimmed name within
    obtain ⟨shown, -, isTrimmed⟩ := bind_eq_ok isName
    refine ⟨?_, ?_⟩
    · rintro rfl
      exact absurd named (by decide)
    · cases isTrimmed
      exact Text.trim_trim shown

theorem inOrder_of_markets {settings : Settings}
    (markets : settings.markets ≠ [] ∧
      ∀ market ∈ settings.markets, market ≠ "" ∧ Text.trim market = market) :
    settings.InOrder := by
  refine ⟨?_, ?_, markets.1, markets.2⟩
  · cases settings.store <;> decide
  · cases settings.level <;> decide

theorem InOrder.set {before after : Settings} (inOrder : before.InOrder) {setting : Setting}
    {value : Json} (isSet : before.set setting value = .ok after) : after.InOrder := by
  refine inOrder_of_markets ?_
  by_cases isMarkets : setting = .markets
  · subst isMarkets
    obtain ⟨names, areRead, isAfter⟩ := bind_eq_ok isSet
    cases isAfter
    exact marketNames_inOrder areRead
  · have same := ((set_eq_ok_iff before after setting value).mp isSet).2 .markets
      fun isSetting => isMarkets isSetting.symm
    have markets : after.markets = before.markets :=
      List.map_injective_iff.mpr (fun _ _ => Json.str.inj) (Json.arr.inj same)
    rw [markets]
    exact ⟨inOrder.someMarket, inOrder.named⟩

theorem InOrder.setAll {before after : Settings} (inOrder : before.InOrder)
    {entries : List (String × Json)} (areSet : before.setAll entries = .ok after) :
    after.InOrder := by
  induction entries generalizing before with
  | nil =>
    cases areSet
    exact inOrder
  | cons entry rest inductionHypothesis =>
    rw [Settings.setAll] at areSet
    split at areSet
    case h_1 setting _ =>
      obtain ⟨between, isSet, behind⟩ := bind_eq_ok areSet
      exact inductionHypothesis (inOrder.set isSet) behind
    case h_2 => exact inductionHypothesis inOrder areSet

theorem InOrder.apply {before after : Settings} (inOrder : before.InOrder) {layer : Table Json}
    (isApplied : before.apply layer = .ok after) : after.InOrder := by
  rw [Settings.apply] at isApplied
  split at isApplied
  · exact inOrder.setAll isApplied
  · cases isApplied

theorem inOrder_default : default.InOrder := inOrder_of_markets (by decide +kernel)

theorem inOrder_ofLayers {layer request : Table Json} {environment : Table String}
    {settings : Settings} (accepted : ofLayers layer environment request = .ok settings) :
    settings.InOrder := by
  obtain ⟨fromFile, ofFile, behind⟩ := bind_eq_ok accepted
  obtain ⟨fromEnvironment, ofEnvironment, ofRequest⟩ := bind_eq_ok behind
  exact ((inOrder_default.apply ofFile).apply ofEnvironment).apply ofRequest

/-! ### A disk with a file -/

/-- The path of a file of settings in the working directory. -/
def settingsFile : Path := Path.ofText "settings.yaml"

/-- A disk with a text in the file of settings. -/
def settingsDisk (text : String) : Disk :=
  Disk.fresh.put ["work", "settings.yaml"] (.file text.toUTF8)

theorem fileText_settingsDisk (text : String) (noReturn : ∀ c ∈ text.toList, c ≠ '\r') :
    FileText (settingsDisk text) settingsFile (some text) := by
  have located : (settingsDisk text).locate settingsFile = .ok ["work", "settings.yaml"] := by rfl
  have here : (settingsDisk text).node? ["work", "settings.yaml"] = some (.file text.toUTF8) :=
    Table.get?_put_self _ _ _
  refine .present ?_ ?_
  · rw [Disk.has, located]
    exact congrArg (fun found : Option Node => (Except.ok found.isSome : Except Fault Bool)) here
  · have works : (settingsDisk text).failing ≠ some .read := (Option.some_ne_none _).symm
    rw [Disk.outcome_readText settingsFile _ text _ located here works,
      Text.unifyLineEnds_of_noReturn _ noReturn, String.ofList_toList]

/-! ### How loading ends -/

/-- Loading ends with settings in order or with the refusal of a value, unless a value that
overtaxes its setting is the first that is not taken. Then it ends with another refusal. -/
theorem load_refuses_exactly (file : Path) (disk : Disk) (text : Option String)
    (isText : FileText disk file text) (environment : Table String) (request : Table Json) :
    let loaded := ((load file environment request).outcome disk).1
    ((∃ settings, loaded = .ok settings ∧ settings.InOrder) ∨
          (∃ fault, loaded = .error fault ∧ fault.faultClass? = some .value) ↔
        ¬ Overtaxed text environment request) ∧
      (Overtaxed text environment request →
        ∃ fault, loaded = .error fault ∧
          (fault.faultClass? = some .kind ∨ fault.faultClass? = some .size)) := by
  intro loaded
  have ends : EndsBy (Overtaxed text environment request) loaded :=
    endsBy_load isText environment request
  refine ⟨⟨?_, fun never => ?_⟩, ends.otherwise⟩
  · rintro (⟨settings, accepted, -⟩ | ⟨fault, fails, isValue⟩) overtaxed
    · refine (ends.otherwise overtaxed).not_refusesValues ?_
      rw [accepted]
      exact refusesValues_ok settings
    · refine (ends.otherwise overtaxed).not_refusesValues ?_
      rw [fails]
      exact refusesValues_error isValue
  · cases outcome : loaded with
    | error fault => exact Or.inr ⟨fault, rfl, ends.values never fault outcome⟩
    | ok settings =>
      have accepted : loaded = .ok settings := outcome
      rw [show loaded = _ from outcome_load file environment request disk] at accepted
      obtain ⟨layer, -, ofLayer⟩ := bind_eq_ok accepted
      exact Or.inl ⟨settings, rfl, inOrder_ofLayers ofLayer⟩

/-- A file that gives a number for the markets. -/
def numberedMarkets : String := "markets: 5\n"

theorem fileText_numberedMarkets :
    FileText (settingsDisk numberedMarkets) settingsFile (some numberedMarkets) :=
  fileText_settingsDisk numberedMarkets (by simp [numberedMarkets])

theorem overtaxed_numberedMarkets :
    Overtaxed (some numberedMarkets) Table.empty Table.empty := by
  have lines : Text.lines numberedMarkets.toList = ["markets: 5".toList] := by
    rw [Text.lines_of_broken _ "markets: 5".toList [] rfl, Text.lines]
  have isLayer : layerOfText? (some numberedMarkets) =
      .ok (Table.ofEntries [("markets", .int 5)]) := by
    rw [layerOfText?, layerOfText, lines]
    rfl
  have overtaxes : Overtaxes .markets (.int 5) := .markets rfl
  exact .byFile isLayer ⟨by decide +kernel, .here overtaxes⟩

theorem load_refuses_exactly_numberedMarkets :
    FileText (settingsDisk numberedMarkets) settingsFile (some numberedMarkets) ∧
      ∃ fault,
        ((load settingsFile Table.empty Table.empty).outcome (settingsDisk numberedMarkets)).1 =
            .error fault ∧
          (fault.faultClass? = some .kind ∨ fault.faultClass? = some .size) :=
  ⟨fileText_numberedMarkets,
    (load_refuses_exactly settingsFile (settingsDisk numberedMarkets) (some numberedMarkets)
      fileText_numberedMarkets Table.empty Table.empty).2 overtaxed_numberedMarkets⟩

/-- The fault for a number of markets is not the refusal of a value. -/
theorem load_numberedMarkets_refuses_otherwise :
    ∃ fault,
      ((load settingsFile Table.empty Table.empty).outcome (settingsDisk numberedMarkets)).1 =
          .error fault ∧
        fault.faultClass? ≠ some .value := by
  obtain ⟨fault, fails, isOther⟩ :=
    (endsBy_load fileText_numberedMarkets Table.empty Table.empty).otherwise
      overtaxed_numberedMarkets
  refine ⟨fault, fails, fun isValue => ?_⟩
  rw [isValue] at isOther
  rcases isOther with same | same <;> cases same

end Settings

end MarketSignal
