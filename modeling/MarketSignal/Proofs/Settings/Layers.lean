/-
This file says what becomes of settings when a layer is applied. A layer that names settings only
sets them in turn; a kind of record store is chosen by its name, and a text without blanks around it
is taken as it is.
-/
import MarketSignal.Proofs.Scenario.RoundTrip
import MarketSignal.Settings.Layers

namespace MarketSignal

namespace Settings

/-- The kind of a record store is chosen by its name. -/
theorem storeKind_name (kind : StoreKind) : storeKind (.str kind.name) = .ok kind := by
  have named : StoreKind.ofName? (Text.smallLetters (Text.trim kind.name)) = some kind := by
    cases kind <;> decide +kernel
  unfold storeKind
  rw [Json.display_str, ok_bind]
  dsimp only
  rw [named]
  rfl

/-- A text without blanks around it is taken as it is. -/
theorem optionalText_str (text : String) (trimmed : Text.trim text = text)
    (notEmpty : text.isEmpty = false) : optionalText (.str text) = .ok (some text) := by
  show (Json.display (.str text) >>= fun shown =>
    pure (if (Text.trim shown).isEmpty then none else some (Text.trim shown))) = _
  rw [Json.display_str, ok_bind, trimmed, notEmpty]
  rfl

/-- A layer that names settings only sets them in turn. -/
theorem apply_known (settings : Settings) (layer : Table Json)
    (known : ∀ name ∈ layer.names, Setting.ofName? name ≠ none) :
    settings.apply layer = settings.setAll layer.entries := by
  have noneUnknown : unknownNames layer = [] := by
    have noName : (layer.names.filter fun name => (Setting.ofName? name).isNone) = [] :=
      List.filter_eq_nil_iff.mpr fun name member isNone =>
        known name member (Option.isNone_iff_eq_none.mp isNone)
    rw [unknownNames, noName, List.mergeSort_nil]
  rw [apply, noneUnknown]

theorem setAll_cons (settings : Settings) (setting : Setting) (value : Json)
    (rest : List (String × Json)) :
    settings.setAll ((setting.name, value) :: rest) =
      (settings.set setting value >>= fun changed => changed.setAll rest) := by
  rw [setAll, Setting.ofName?_name]

theorem apply_empty (settings : Settings) : settings.apply Table.empty = .ok settings := by
  rw [apply_known settings Table.empty nofun]
  rfl

end Settings

end MarketSignal
