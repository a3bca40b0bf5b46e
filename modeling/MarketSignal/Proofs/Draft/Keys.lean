/-
This file proves that a draft never issues a key that it has reserved. The numbers that make keys
are counted up from the time; different numbers make different keys, so among one more numbers than
there are reserved keys one is free. What is proved of the number that is chosen is that it is the
first free one.
-/
import MarketSignal.Proofs.Number.Digits
import MarketSignal.Proofs.Run
import MarketSignal.Draft.Basic

namespace MarketSignal

/-! ### Keys of different numbers -/

theorem digitsOfNat_injective (left right : Nat) (same : digitsOfNat left = digitsOfNat right) :
    left = right := by
  rw [← digitsValue_digitsOfNat left, same, digitsValue_digitsOfNat]

theorem digitsOfNat_no_sign (value : Nat) : '-' ∉ digitsOfNat value :=
  fun member => absurd (digitsOfNat_common value '-' member) (by decide)

theorem digitsOfInt_injective (left right : Int) (same : digitsOfInt left = digitsOfInt right) :
    left = right := by
  unfold digitsOfInt at same
  split at same
  case isTrue leftNegative =>
    split at same
    case isTrue rightNegative =>
      have magnitudes := digitsOfNat_injective _ _ (List.cons.inj same).2
      omega
    case isFalse => exact absurd (same ▸ List.mem_cons_self) (digitsOfNat_no_sign right.natAbs)
  case isFalse leftPositive =>
    split at same
    case isTrue => exact absurd (same ▸ List.mem_cons_self) (digitsOfNat_no_sign left.natAbs)
    case isFalse rightPositive =>
      have magnitudes := digitsOfNat_injective _ _ same
      omega

namespace Draft

theorem keyOf_injective (stem : String) (left right : Int)
    (same : keyOf stem left = keyOf stem right) : left = right := by
  have digits := (String.append_right_inj (stem ++ "_")).mp same
  exact digitsOfInt_injective _ _ (String.ofList_inj.mp digits)

/-! ### The first free number -/

/-- One of the candidates is free, because they are more than there are reserved keys. -/
theorem exists_free (reserved : List String) (stem : String) (stamp : Int) :
    ∃ step < reserved.length + 1, keyOf stem (stamp + (step : Nat)) ∉ reserved := by
  by_contra none_
  push Not at none_
  let keys := (List.range (reserved.length + 1)).map fun (step : Nat) => keyOf stem (stamp + step)
  have distinct : keys.Nodup := by
    refine List.Nodup.map (fun left right same => ?_) List.nodup_range
    have := keyOf_injective stem _ _ same
    omega
  have all : keys ⊆ reserved := by
    intro key member
    obtain ⟨step, inRange, rfl⟩ := List.mem_map.mp member
    exact none_ step (List.mem_range.mp inRange)
  have tooMany := (distinct.subperm all).length_le
  simp only [keys, List.length_map, List.length_range] at tooMany
  omega

/-- The chosen number makes a free key, and every number passed over makes a reserved one. -/
theorem freeStamp_first (reserved : List String) (stem : String) (stamp : Int) :
    ∃ steps : Nat, freeStamp reserved stem stamp = stamp + steps ∧
      keyOf stem (stamp + steps) ∉ reserved ∧
      ∀ earlier < steps, keyOf stem (stamp + (earlier : Nat)) ∈ reserved := by
  unfold freeStamp
  dsimp only
  rw [List.find?_map]
  cases found : (List.range (reserved.length + 1)).find? _ with
  | none =>
    obtain ⟨step, inRange, free⟩ := exists_free reserved stem stamp
    have taken := List.find?_eq_none.mp found step (List.mem_range.mpr inRange)
    exact absurd taken (by simpa using free)
  | some steps =>
    obtain ⟨isFree, -, passed⟩ := List.find?_range_eq_some.mp found
    refine ⟨steps, rfl, by simpa using isFree, fun earlier before => ?_⟩
    simpa using passed earlier before

/-! ### Issuing -/

/-- The draft after its clock was read. -/
def ticked (draft : Draft) : Draft := { draft with clock := draft.clock.read.2 }

/-- The draft after it issued a key. -/
def issued (draft : Draft) (key : String) : Draft :=
  { draft with clock := draft.clock.read.2, reserved := key :: draft.reserved }

/-- The key that the draft issues next for a word: the first free one from the time on. -/
def NextKey (draft : Draft) (stem key : String) : Prop :=
  ∃ stamp, Clock.milliseconds draft.clock.read.1 = .ok stamp ∧
    key = keyOf stem (freeStamp draft.reserved stem stamp)

theorem NextKey.fresh {draft : Draft} {stem key : String} (next : draft.NextKey stem key) :
    key ∉ draft.reserved := by
  obtain ⟨stamp, -, rfl⟩ := next
  obtain ⟨steps, isFree, free, -⟩ := freeStamp_first draft.reserved stem stamp
  rw [isFree]
  exact free

/-- Once the time is known, the number that is written is the first free one; it is refused if it or
the time is too long. -/
theorem issueKey_of_time (stem : String) (draft : Draft) (stamp : Int)
    (isStamp : Clock.milliseconds draft.clock.read.1 = .ok stamp) :
    (issueKey stem).outcome draft =
      if exceedsDigitLimit stamp || exceedsDigitLimit (freeStamp draft.reserved stem stamp) then
        (.error .longNumber, draft.ticked)
      else
        (.ok (keyOf stem (freeStamp draft.reserved stem stamp)),
          draft.issued (keyOf stem (freeStamp draft.reserved stem stamp))) := by
  have steps : (issueKey stem).outcome draft = (do
      let stamp ← Run.ofExcept (Clock.milliseconds draft.clock.read.1)
      let free := freeStamp draft.reserved stem stamp
      if exceedsDigitLimit stamp || exceedsDigitLimit free then throw .longNumber
      let key := keyOf stem free
      modify fun draft => { draft with reserved := key :: draft.reserved }
      return key : Run Draft String).outcome draft.ticked := rfl
  rw [steps, Run.outcome_bind, Run.outcome_ofExcept, isStamp, Run.continued]
  dsimp only
  split <;> rfl

/-- Issuing a key fails after the clock was read, or issues the next key and reserves it. -/
theorem outcome_issueKey (stem : String) (draft : Draft) :
    (∃ fault, (issueKey stem).outcome draft = (.error fault, draft.ticked)) ∨
      ∃ key, draft.NextKey stem key ∧
        (issueKey stem).outcome draft = (.ok key, draft.issued key) := by
  cases isStamp : Clock.milliseconds draft.clock.read.1 with
  | error fault =>
    refine Or.inl ⟨fault, ?_⟩
    show (Run.ofExcept (Clock.milliseconds draft.clock.read.1) >>= _).outcome draft.ticked = _
    rw [Run.outcome_bind, Run.outcome_ofExcept, isStamp]
    rfl
  | ok stamp =>
    rw [issueKey_of_time stem draft stamp isStamp]
    split
    · exact Or.inl ⟨.longNumber, rfl⟩
    · exact Or.inr ⟨_, ⟨stamp, isStamp, rfl⟩, rfl⟩

end Draft

end MarketSignal
