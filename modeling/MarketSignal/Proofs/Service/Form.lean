/-
This file says which bodies fit a form. A body has no blemishes exactly if it is an object whose
members have the shapes that the form asks for, wherever in the body they stand, and none that is
required is missing.
-/
import MarketSignal.Proofs.Table
import MarketSignal.Service.Form

namespace MarketSignal

/-- What a value looks like that has a shape. -/
def ValueShape.Fits : ValueShape → Json → Prop
  | .anything, _ => True
  | .text, value => ∃ text, value = .str text
  | .object shape, value =>
    ∃ members, value = .obj members ∧ ∀ member ∈ members, shape.Fits member.2
  | .list shape, value => ∃ items, value = .arr items ∧ ∀ item ∈ items, shape.Fits item
  | .optional shape, value => value = .null ∨ shape.Fits value

/-- A value has no blemishes exactly if it fits, whatever its place. -/
theorem ValueShape.blemishes_eq_nil_iff (shape : ValueShape) (place : List Json) (value : Json) :
    shape.blemishes place value = [] ↔ shape.Fits value := by
  induction shape generalizing place value with
  | anything => exact ⟨fun _ => trivial, fun _ => rfl⟩
  | text =>
    cases value
    case str text => exact ⟨fun _ => ⟨text, rfl⟩, fun _ => rfl⟩
    all_goals exact ⟨nofun, nofun⟩
  | object shape inductionHypothesis =>
    cases value
    case obj members =>
      simp only [blemishes, List.flatMap_eq_nil_iff, inductionHypothesis, Fits, Json.obj.injEq,
        exists_eq_left']
    all_goals exact ⟨nofun, nofun⟩
  | list shape inductionHypothesis =>
    cases value
    case arr items =>
      simp only [blemishes, List.flatMap_eq_nil_iff, inductionHypothesis, Fits, Json.arr.injEq,
        exists_eq_left']
      constructor
      · intro each item member
        obtain ⟨index, bound, rfl⟩ := List.mem_iff_getElem.mp member
        exact each (items[index], index)
          (List.mem_zipIdx_iff_getElem?.mpr (List.getElem?_eq_getElem bound))
      · intro each entry member
        exact each entry.1 (List.fst_mem_of_mem_zipIdx member)
    all_goals exact ⟨nofun, nofun⟩
  | optional shape inductionHypothesis =>
    cases value
    case null => exact ⟨fun _ => Or.inl rfl, fun _ => rfl⟩
    all_goals
      refine (inductionHypothesis place _).trans ⟨Or.inr, fun fits => ?_⟩
      exact fits.resolve_left nofun

/-- What the members of a body are like where they fit a member of a form. -/
def Member.Fits (member : Member) (members : List (String × Json)) : Prop :=
  match Entries.get? members member.name with
  | some value => member.shape.Fits value
  | none => member.required = false

theorem Member.blemishes_eq_nil_iff (member : Member) (members : List (String × Json)) :
    member.blemishes members = [] ↔ member.Fits members := by
  unfold Member.blemishes Member.Fits
  cases Entries.get? members member.name with
  | some value => exact member.shape.blemishes_eq_nil_iff _ value
  | none => cases member.required <;> simp

/-- A body fits a form exactly if it is an object whose members do. -/
theorem Form.blemishes_eq_nil_iff (form : Form) (body : Json) :
    form.blemishes (some body) = [] ↔
      ∃ members, body = .obj members ∧ ∀ member ∈ form, member.Fits members := by
  cases body
  case obj members =>
    simp only [Form.blemishes, List.flatMap_eq_nil_iff, Member.blemishes_eq_nil_iff,
      Json.obj.injEq, exists_eq_left']
  all_goals exact ⟨nofun, nofun⟩

end MarketSignal
