/-
This file proves how tables behave: what is put under a name is found there and nothing else is
disturbed, and a list of entries with distinct names settles to itself.
-/
import Mathlib
import MarketSignal.Table

namespace MarketSignal

namespace Entries

variable {Value : Type}

/-! ### Looking up -/

theorem get?_put_self (entries : List (String × Value)) (name : String) (value : Value) :
    get? (put entries name value) name = some value := by
  induction entries with
  | nil => rw [put, get?, if_pos rfl]
  | cons entry rest inductionHypothesis =>
    obtain ⟨other, current⟩ := entry
    rw [put]
    split
    case isTrue same => rw [get?, if_pos rfl]
    case isFalse different => rw [get?, if_neg different, inductionHypothesis]

theorem get?_put_other (entries : List (String × Value)) (name other : String) (value : Value)
    (different : name ≠ other) : get? (put entries name value) other = get? entries other := by
  induction entries with
  | nil => exact if_neg different
  | cons entry rest inductionHypothesis =>
    obtain ⟨first, current⟩ := entry
    rw [put]
    split
    case isTrue same =>
      subst same
      rw [get?, get?, if_neg different, if_neg different]
    case isFalse notSame => rw [get?, get?, inductionHypothesis]

theorem get?_filter_other (entries : List (String × Value)) (name other : String)
    (different : name ≠ other) :
    get? (entries.filter fun entry => entry.1 != name) other = get? entries other := by
  induction entries with
  | nil => rfl
  | cons entry rest inductionHypothesis =>
    obtain ⟨first, current⟩ := entry
    by_cases same : first = name
    · subst same
      rw [List.filter_cons_of_neg (by simp), inductionHypothesis, get?, if_neg different]
    · rw [List.filter_cons_of_pos (by simpa using same), get?, get?, inductionHypothesis]

theorem mem_of_get? (entries : List (String × Value)) (name : String) (value : Value)
    (found : get? entries name = some value) : (name, value) ∈ entries := by
  induction entries with
  | nil => cases found
  | cons entry rest inductionHypothesis =>
    obtain ⟨other, current⟩ := entry
    rw [get?] at found
    split at found
    case isTrue same =>
      injection found with sameValue
      rw [same, sameValue]
      exact List.mem_cons_self
    case isFalse different => exact List.mem_cons_of_mem _ (inductionHypothesis found)

theorem get?_of_mem (entries : List (String × Value)) (name : String) (value : Value)
    (distinct : (names entries).Nodup) (member : (name, value) ∈ entries) :
    get? entries name = some value := by
  induction entries with
  | nil => exact absurd member List.not_mem_nil
  | cons entry rest inductionHypothesis =>
    obtain ⟨other, current⟩ := entry
    obtain ⟨absent, distinctRest⟩ := List.nodup_cons.mp distinct
    rw [get?]
    rcases List.mem_cons.mp member with same | behind
    · cases same
      exact if_pos rfl
    · rw [if_neg, inductionHypothesis distinctRest behind]
      rintro rfl
      exact absent (List.mem_map.mpr ⟨_, behind, rfl⟩)

/-! ### Settling -/

theorem put_of_absent (entries : List (String × Value)) (name : String) (value : Value)
    (absent : name ∉ names entries) : put entries name value = entries ++ [(name, value)] := by
  induction entries with
  | nil => rfl
  | cons entry rest inductionHypothesis =>
    obtain ⟨other, current⟩ := entry
    have apart : name ≠ other ∧ name ∉ names rest := by
      simpa only [names, List.map_cons, List.mem_cons, not_or] using absent
    rw [put, if_neg (Ne.symm apart.1), inductionHypothesis apart.2, List.cons_append]

/-- What is put under a name that is present takes the place of what is there. -/
theorem put_of_present (entries : List (String × Value)) (name : String) (value : Value)
    (distinct : (names entries).Nodup) (present : name ∈ names entries) :
    put entries name value =
      entries.map fun entry => if entry.1 = name then (name, value) else entry := by
  induction entries with
  | nil => exact absurd present List.not_mem_nil
  | cons entry rest inductionHypothesis =>
    obtain ⟨other, current⟩ := entry
    obtain ⟨absent, distinctRest⟩ := List.nodup_cons.mp distinct
    rw [put, List.map_cons]
    split
    case isTrue same =>
      subst same
      have kept (entry : String × Value) (member : entry ∈ rest) :
          (if entry.1 = other then (other, value) else entry) = entry :=
        if_neg fun same => absent (List.mem_map.mpr ⟨entry, member, same⟩)
      rw [List.map_congr_left kept, List.map_id']
    case isFalse different =>
      rw [inductionHypothesis distinctRest
        ((List.mem_cons.mp present).resolve_left (Ne.symm different))]

theorem mem_of_mem_put (entries : List (String × Value)) (name : String) (value : Value)
    (entry : String × Value) (present : entry ∈ put entries name value) :
    entry ∈ entries ∨ entry = (name, value) := by
  induction entries with
  | nil => exact Or.inr (List.mem_singleton.mp present)
  | cons first rest inductionHypothesis =>
    obtain ⟨other, current⟩ := first
    rw [put] at present
    split at present
    · rcases List.mem_cons.mp present with same | behind
      · exact Or.inr same
      · exact Or.inl (List.mem_cons_of_mem _ behind)
    · rcases List.mem_cons.mp present with same | behind
      · exact Or.inl (same ▸ List.mem_cons_self)
      · exact (inductionHypothesis behind).imp_left (List.mem_cons_of_mem _)

theorem length_le_put (entries : List (String × Value)) (name : String) (value : Value) :
    entries.length ≤ (put entries name value).length := by
  have same (entries : List (String × Value)) : entries.length = (names entries).length :=
    List.length_map _ |>.symm
  rw [same, same, names_put]
  split
  · exact le_rfl
  · rw [List.length_append]
    exact Nat.le_add_right _ _

theorem filter_put (entries : List (String × Value)) (name : String) (value : Value) :
    (put entries name value).filter (fun entry => entry.1 != name) =
      entries.filter fun entry => entry.1 != name := by
  induction entries with
  | nil => rw [put, List.filter_cons_of_neg (by simp)]
  | cons entry rest inductionHypothesis =>
    obtain ⟨other, current⟩ := entry
    rw [put]
    split
    case isTrue same =>
      rw [List.filter_cons_of_neg (by simp), List.filter_cons_of_neg (by simp [same])]
    case isFalse different =>
      rw [List.filter_cons_of_pos (by simpa using different),
        List.filter_cons_of_pos (by simpa using different), inductionHypothesis]

theorem put_map {Other : Type} (change : Value → Other) (entries : List (String × Value))
    (name : String) (value : Value) :
    put (entries.map fun entry => (entry.1, change entry.2)) name (change value) =
      (put entries name value).map fun entry => (entry.1, change entry.2) := by
  induction entries with
  | nil => rfl
  | cons entry rest inductionHypothesis =>
    obtain ⟨other, current⟩ := entry
    rw [List.map_cons, put, put]
    split
    · rw [List.map_cons]
    · rw [List.map_cons, inductionHypothesis]

theorem get?_map {Other : Type} (change : Value → Other) (entries : List (String × Value))
    (name : String) :
    get? (entries.map fun entry => (entry.1, change entry.2)) name =
      (get? entries name).map change := by
  induction entries with
  | nil => rfl
  | cons entry rest inductionHypothesis =>
    obtain ⟨other, current⟩ := entry
    rw [List.map_cons, get?, get?]
    split
    · rfl
    · exact inductionHypothesis

theorem filter_of_absent (entries : List (String × Value)) (name : String)
    (absent : name ∉ names entries) : entries.filter (fun entry => entry.1 != name) = entries := by
  refine List.filter_eq_self.mpr fun entry present => bne_iff_ne.mpr fun same => absent ?_
  exact List.mem_map.mpr ⟨entry, present, same⟩

/-- Settling makes up no entry. -/
theorem mem_of_mem_settle (entries : List (String × Value)) (entry : String × Value)
    (present : entry ∈ settle entries) : entry ∈ entries := by
  have grows (rest settled : List (String × Value))
      (member : entry ∈ rest.foldl (fun settled entry => put settled entry.1 entry.2) settled) :
      entry ∈ settled ∨ entry ∈ rest := by
    induction rest generalizing settled with
    | nil => exact Or.inl member
    | cons first others inductionHypothesis =>
      rcases inductionHypothesis _ member with before | behind
      · rcases mem_of_mem_put _ _ _ _ before with earlier | same
        · exact Or.inl earlier
        · exact Or.inr (same ▸ List.mem_cons_self)
      · exact Or.inr (List.mem_cons_of_mem _ behind)
  exact (grows entries [] present).resolve_left List.not_mem_nil

/-- Settling orders names by their first places, whatever the values. -/
theorem names_settle (entries : List (String × Value)) :
    names (settle entries) =
      (names entries).foldl (fun known name => if name ∈ known then known else known ++ [name])
        [] := by
  have grows (rest settled : List (String × Value)) :
      names (rest.foldl (fun settled entry => put settled entry.1 entry.2) settled) =
        (names rest).foldl (fun known name => if name ∈ known then known else known ++ [name])
          (names settled) := by
    induction rest generalizing settled with
    | nil => rfl
    | cons entry others inductionHypothesis =>
      rw [List.foldl_cons, inductionHypothesis, names_put]
      rfl
  exact grows entries []

/-- Entries with distinct names are settled already. -/
theorem settle_of_distinct (entries : List (String × Value)) (distinct : (names entries).Nodup) :
    settle entries = entries := by
  have appends (rest settled : List (String × Value))
      (apart : (names (settled ++ rest)).Nodup) :
      rest.foldl (fun settled entry => put settled entry.1 entry.2) settled = settled ++ rest := by
    induction rest generalizing settled with
    | nil => rw [List.foldl_nil, List.append_nil]
    | cons entry others inductionHypothesis =>
      have absent : entry.1 ∉ names settled := by
        intro member
        rw [names, List.map_append, List.map_cons] at apart
        exact (List.nodup_append.mp apart).2.2 _ member _ List.mem_cons_self rfl
      rw [List.foldl_cons, put_of_absent settled entry.1 entry.2 absent,
        inductionHypothesis (settled ++ [entry])
          (by rw [List.append_assoc, List.singleton_append]; exact apart),
        List.append_assoc, List.singleton_append]
  exact appends entries [] (by rwa [List.nil_append])

end Entries

/-! ### Tables -/

namespace Table

variable {Value : Type}

theorem ofEntries_entries (table : Table Value) : ofEntries table.entries = table := by
  obtain ⟨entries, distinct⟩ := table
  simp only [ofEntries, Entries.settle_of_distinct entries distinct]

theorem mem_entries (table : Table Value) (name : String) (value : Value) :
    (name, value) ∈ table.entries ↔ table.get? name = some value :=
  ⟨Entries.get?_of_mem table.entries name value table.distinct,
    Entries.mem_of_get? table.entries name value⟩

theorem mem_names (table : Table Value) (name : String) :
    name ∈ table.names ↔ ∃ value, table.get? name = some value := by
  constructor
  · intro member
    obtain ⟨entry, present, rfl⟩ := List.mem_map.mp member
    exact ⟨entry.2, (table.mem_entries entry.1 entry.2).mp present⟩
  · rintro ⟨value, found⟩
    exact List.mem_map.mpr ⟨(name, value), (table.mem_entries name value).mpr found, rfl⟩

theorem mem_values (table : Table Value) (value : Value) :
    value ∈ table.values ↔ ∃ name, table.get? name = some value := by
  constructor
  · intro member
    obtain ⟨entry, present, rfl⟩ := List.mem_map.mp member
    exact ⟨entry.1, (table.mem_entries entry.1 entry.2).mp present⟩
  · rintro ⟨name, found⟩
    exact List.mem_map.mpr ⟨(name, value), (table.mem_entries name value).mpr found, rfl⟩

theorem get?_put_self (table : Table Value) (name : String) (value : Value) :
    (table.put name value).get? name = some value :=
  Entries.get?_put_self table.entries name value

theorem get?_put_other (table : Table Value) (name other : String) (value : Value)
    (different : name ≠ other) : (table.put name value).get? other = table.get? other :=
  Entries.get?_put_other table.entries name other value different

/-- What is found after putting was put or was found before. -/
theorem get?_of_put {table : Table Value} {name other : String} {value current : Value}
    (found : (table.put name value).get? other = some current) :
    name = other ∧ value = current ∨ table.get? other = some current := by
  by_cases same : name = other
  · subst same
    rw [get?_put_self] at found
    exact Or.inl ⟨rfl, Option.some.inj found⟩
  · rw [get?_put_other table name other value same] at found
    exact Or.inr found

/-- What is found after erasing was found before. -/
theorem get?_of_erase {table : Table Value} {name other : String} {current : Value}
    (found : (table.erase name).get? other = some current) : table.get? other = some current := by
  rw [← mem_entries] at found ⊢
  exact List.mem_of_mem_filter found

/-- What holds of every entry, and of the one that is put, holds of every entry afterwards. -/
theorem forall_put {table : Table Value} {holds : String × Value → Prop} {name : String}
    {value : Value} (all : ∀ entry ∈ table.entries, holds entry) (new : holds (name, value)) :
    ∀ entry ∈ (table.put name value).entries, holds entry := fun entry present =>
  (Entries.mem_of_mem_put table.entries name value entry present).elim (all entry)
    fun same => same ▸ new

/-- What holds of every entry holds of those that are left. -/
theorem forall_erase {table : Table Value} {holds : String × Value → Prop}
    (all : ∀ entry ∈ table.entries, holds entry) (name : String) :
    ∀ entry ∈ (table.erase name).entries, holds entry := fun entry present =>
  all entry (List.mem_of_mem_filter present)

theorem map_put {Other : Type} (change : Value → Other) (table : Table Value) (name : String)
    (value : Value) :
    (table.map change).put name (change value) = (table.put name value).map change := by
  simp only [put, map, Entries.put_map]

theorem map_erase {Other : Type} (change : Value → Other) (table : Table Value) (name : String) :
    (table.map change).erase name = (table.erase name).map change := by
  simp only [erase, map, List.filter_map]
  rfl

/-- What is put is gone once it is erased. -/
theorem erase_put (table : Table Value) (name : String) (value : Value) :
    (table.put name value).erase name = table.erase name := by
  simp only [erase, put, Entries.filter_put]

theorem erase_of_absent (table : Table Value) (name : String) (absent : table.get? name = none) :
    table.erase name = table := by
  have notNamed : name ∉ table.names := fun member => by
    obtain ⟨value, found⟩ := (table.mem_names name).mp member
    cases absent.symm.trans found
  simp only [erase, Entries.filter_of_absent _ _ notNamed]

theorem size_le_put (table : Table Value) (name : String) (value : Value) :
    table.size ≤ (table.put name value).size := Entries.length_le_put table.entries name value

theorem get?_erase_other (table : Table Value) (name other : String) (different : name ≠ other) :
    (table.erase name).get? other = table.get? other :=
  Entries.get?_filter_other table.entries name other different

/-! ### Tables in another order -/

/-- Tables with the same entries. -/
def Reordered (left right : Table Value) : Prop := left.entries.Perm right.entries

namespace Reordered

variable {left right : Table Value}

theorem refl (table : Table Value) : table.Reordered table := List.Perm.refl _

theorem get? (reordered : left.Reordered right) (name : String) :
    left.get? name = right.get? name := by
  refine Option.ext fun value => ?_
  rw [← Table.mem_entries, ← Table.mem_entries]
  exact List.Perm.mem_iff reordered

end Reordered

end Table

end MarketSignal
