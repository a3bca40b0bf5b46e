/-
This file proves the principle by which properties of all values are proved: what holds of the items
of a list and of the members of an object is carried over to the whole. It also says of two
properties what they come to for lists and objects: that the names within each object differ, and
that no whole number is too long to write.
-/
import MarketSignal.Json.Writer

namespace MarketSignal

namespace Json

/-! ### Induction on values -/

/-- To prove something of all values, assume it of the items of a list and of the members of an
object. -/
@[elab_as_elim]
theorem inductionOnParts {motive : Json → Prop} (null : motive .null)
    (bool : ∀ value, motive (.bool value)) (int : ∀ value, motive (.int value))
    (float : ∀ value, motive (.float value)) (str : ∀ text, motive (.str text))
    (arr : ∀ items, (∀ item ∈ items, motive item) → motive (.arr items))
    (obj : ∀ members, (∀ member ∈ members, motive member.2) → motive (.obj members)) :
    ∀ value, motive value
  | .null => null
  | .bool value => bool value
  | .int value => int value
  | .float value => float value
  | .str text => str text
  | .arr items => arr items fun item _ =>
    inductionOnParts null bool int float str arr obj item
  | .obj members => obj members fun member _ =>
    inductionOnParts null bool int float str arr obj member.2
termination_by value => sizeOf value
decreasing_by
  · have := List.sizeOf_lt_of_mem ‹item ∈ items›
    simp only [Json.arr.sizeOf_spec]
    omega
  · have := List.sizeOf_lt_of_mem ‹member ∈ members›
    obtain ⟨name, value⟩ := member
    simp only [Json.obj.sizeOf_spec, Prod.mk.sizeOf_spec] at *
    omega
/-! ### Values whose objects are settled -/

mutual

/-- The names within each object differ. -/
def NamesDiffer : Json → Prop
  | .arr items => ItemNamesDiffer items
  | .obj members => (Entries.names members).Nodup ∧ MemberNamesDiffer members
  | _ => True

/-- In each item. -/
def ItemNamesDiffer : List Json → Prop
  | [] => True
  | item :: rest => NamesDiffer item ∧ ItemNamesDiffer rest

/-- In each member. -/
def MemberNamesDiffer : List (String × Json) → Prop
  | [] => True
  | (_, value) :: rest => NamesDiffer value ∧ MemberNamesDiffer rest

end

theorem itemNamesDiffer_iff (items : List Json) :
    ItemNamesDiffer items ↔ ∀ item ∈ items, NamesDiffer item := by
  induction items with
  | nil => exact ⟨fun _ _ member => absurd member List.not_mem_nil, fun _ => trivial⟩
  | cons first rest inductionHypothesis =>
    rw [ItemNamesDiffer, inductionHypothesis, List.forall_mem_cons]

theorem memberNamesDiffer_iff (members : List (String × Json)) :
    MemberNamesDiffer members ↔ ∀ member ∈ members, NamesDiffer member.2 := by
  induction members with
  | nil => exact ⟨fun _ _ present => absurd present List.not_mem_nil, fun _ => trivial⟩
  | cons first rest inductionHypothesis =>
    rw [MemberNamesDiffer, inductionHypothesis, List.forall_mem_cons]

/-! ### Numbers that are too long -/

theorem anyLongItem_eq_false_iff (items : List Json) :
    anyLongItem items = false ↔ ∀ item ∈ items, hasLongNumber item = false := by
  induction items with
  | nil => exact ⟨fun _ _ member => absurd member List.not_mem_nil, fun _ => rfl⟩
  | cons first rest inductionHypothesis =>
    rw [anyLongItem, Bool.or_eq_false_iff, inductionHypothesis, List.forall_mem_cons]

theorem anyLongMember_eq_false_iff (members : List (String × Json)) :
    anyLongMember members = false ↔ ∀ member ∈ members, hasLongNumber member.2 = false := by
  induction members with
  | nil => exact ⟨fun _ _ present => absurd present List.not_mem_nil, fun _ => rfl⟩
  | cons first rest inductionHypothesis =>
    rw [anyLongMember, Bool.or_eq_false_iff, inductionHypothesis, List.forall_mem_cons]

/-! ### Faithful values -/

/-- A value whose text says all there is to it. -/
structure Faithful (value : Json) : Prop where
  differ : NamesDiffer value
  short : hasLongNumber value = false

theorem faithful_null : Faithful .null := ⟨trivial, rfl⟩

theorem faithful_str (text : String) : Faithful (.str text) := ⟨trivial, rfl⟩

theorem faithful_float (number : Float) : Faithful (.float number) := ⟨trivial, rfl⟩

theorem faithful_arr (items : List Json) (parts : ∀ item ∈ items, Faithful item) :
    Faithful (.arr items) where
  differ := (itemNamesDiffer_iff items).mpr fun item member => (parts item member).differ
  short := (anyLongItem_eq_false_iff items).mpr fun item member => (parts item member).short

theorem faithful_obj (members : List (String × Json)) (distinct : (Entries.names members).Nodup)
    (parts : ∀ member ∈ members, Faithful member.2) : Faithful (.obj members) where
  differ := ⟨distinct,
    (memberNamesDiffer_iff members).mpr fun member present => (parts member present).differ⟩
  short :=
    (anyLongMember_eq_false_iff members).mpr fun member present => (parts member present).short

theorem faithful_map {Part : Type} (write : Part → Json) (table : Table Part)
    (parts : ∀ entry ∈ table.entries, Faithful (write entry.2)) :
    Faithful (.obj (table.map write).entries) := by
  refine faithful_obj _ (table.map write).distinct fun member present => ?_
  obtain ⟨entry, isEntry, same⟩ := List.mem_map.mp present
  rw [← same]
  exact parts entry isEntry

end Json

end MarketSignal
