/-
A table keeps values under names in the order in which the names first came. Putting a value under
a name that is present changes the value and not the order. Scenarios, their conditions and
outcomes, market assignments and stored records are all tables, so order is kept from reading a
document to writing it. That no name occurs twice is part of the type.
-/
namespace MarketSignal

/-! ### Lists of entries -/

namespace Entries

variable {Value : Type}

/-- The value under a name. -/
def get? (entries : List (String × Value)) (name : String) : Option Value :=
  match entries with
  | [] => none
  | (other, value) :: rest => if other = name then some value else get? rest name

/-- Puts a value under a name, in the place of the name if it is present and at the end if not. -/
def put (entries : List (String × Value)) (name : String) (value : Value) :
    List (String × Value) :=
  match entries with
  | [] => [(name, value)]
  | (other, current) :: rest =>
    if other = name then (name, value) :: rest else (other, current) :: put rest name value

/-- The names of a list of entries, in order. -/
def names (entries : List (String × Value)) : List String := entries.map Prod.fst

/-- Each name in turn, with its first position and its last value. -/
def settle (entries : List (String × Value)) : List (String × Value) :=
  entries.foldl (fun settled entry => put settled entry.1 entry.2) []

theorem names_put (entries : List (String × Value)) (name : String) (value : Value) :
    names (put entries name value) =
      if name ∈ names entries then names entries else names entries ++ [name] := by
  induction entries with
  | nil => simp [put, names]
  | cons entry rest inductionHypothesis =>
    obtain ⟨other, current⟩ := entry
    by_cases same : other = name
    · simp [put, names, same]
    · have different : ¬ name = other := fun equal => same equal.symm
      simp only [names] at inductionHypothesis
      simp only [put, names, same, if_false, List.map_cons, inductionHypothesis, List.mem_cons,
        different, false_or]
      split <;> simp_all

theorem put_distinct (entries : List (String × Value)) (name : String) (value : Value)
    (distinct : (names entries).Nodup) : (names (put entries name value)).Nodup := by
  rw [names_put]
  split
  · exact distinct
  · rename_i absent
    rw [List.nodup_append]
    refine ⟨distinct, by simp, ?_⟩
    intro left member right equal
    simp only [List.mem_singleton] at equal
    subst equal
    exact fun same => absent (same ▸ member)

theorem settle_distinct (entries : List (String × Value)) : (names (settle entries)).Nodup := by
  have grows : ∀ (rest settled : List (String × Value)), (names settled).Nodup →
      (names (rest.foldl (fun settled entry => put settled entry.1 entry.2) settled)).Nodup := by
    intro rest
    induction rest with
    | nil => exact fun settled distinct => distinct
    | cons entry rest inductionHypothesis =>
      exact fun settled distinct =>
        inductionHypothesis (put settled entry.1 entry.2)
          (put_distinct settled entry.1 entry.2 distinct)
  exact grows entries [] (by simp [names])

end Entries

/-! ### Tables -/

/-- Values under distinct names, in order. -/
structure Table (Value : Type) where
  entries : List (String × Value)
  distinct : (Entries.names entries).Nodup

namespace Table

variable {Value Other : Type}

/-- The table without entries. -/
def empty : Table Value := ⟨[], by simp [Entries.names]⟩

instance : Inhabited (Table Value) := ⟨empty⟩

/-- The table of a list of entries; a repeated name keeps its first place and its last value. -/
def ofEntries (entries : List (String × Value)) : Table Value :=
  ⟨Entries.settle entries, Entries.settle_distinct entries⟩

/-- The value under a name. -/
def get? (table : Table Value) (name : String) : Option Value := Entries.get? table.entries name

/-- Whether a name is present. -/
def has (table : Table Value) (name : String) : Bool := (table.get? name).isSome

/-- The names, in order. -/
def names (table : Table Value) : List String := Entries.names table.entries

/-- The values, in the order of their names. -/
def values (table : Table Value) : List Value := table.entries.map Prod.snd

/-- The number of entries. -/
def size (table : Table Value) : Nat := table.entries.length

/-- Whether there is no entry. -/
def isEmpty (table : Table Value) : Bool := table.entries.isEmpty

/-- Puts a value under a name: in the place of the name if it is present, else at the end. -/
def put (table : Table Value) (name : String) (value : Value) : Table Value :=
  ⟨Entries.put table.entries name value,
    Entries.put_distinct table.entries name value table.distinct⟩

/-- Takes a name out, whether or not it is present. -/
def erase (table : Table Value) (name : String) : Table Value :=
  ⟨table.entries.filter fun entry => entry.1 != name,
    table.distinct.sublist (List.Sublist.map Prod.fst List.filter_sublist)⟩

/-- Applies a function to every value. -/
def map (change : Value → Other) (table : Table Value) : Table Other :=
  ⟨table.entries.map fun entry => (entry.1, change entry.2), by
    have same : Entries.names (table.entries.map fun entry => (entry.1, change entry.2)) =
        Entries.names table.entries := by
      simp [Entries.names, List.map_map, Function.comp_def]
    rw [same]
    exact table.distinct⟩

end Table

end MarketSignal
