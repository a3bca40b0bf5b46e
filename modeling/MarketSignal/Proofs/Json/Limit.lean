/-
This file proves that what is read under the limit on digits can be written again as it is: no whole
number in it is too long, and the names within each object differ, since a name that comes twice is
settled on its last value.
-/
import MarketSignal.Proofs.Json.Parts
import MarketSignal.Proofs.Number.Digits
import MarketSignal.Proofs.Outcome
import MarketSignal.Proofs.Table
import MarketSignal.Json.Reader

namespace MarketSignal

/-! ### Numbers -/

/-- Digits stand for a number with no more digits than they are. -/
theorem digitsValue_lt (digits : List Char) (common : ∀ c ∈ digits, isCommonDigit c = true) :
    digitsValue 0 digits < 10 ^ digits.length := by
  induction digits using List.reverseRecOn with
  | nil => decide
  | append_singleton before digit inductionHypothesis =>
    have below := inductionHypothesis fun c member =>
      common c (List.mem_append_left [digit] member)
    have isDigit := common digit (List.mem_append_right before List.mem_cons_self)
    simp only [isCommonDigit, decide_eq_true_eq] at isDigit
    rw [digitsValue_append, List.length_append, List.length_singleton, Nat.pow_succ]
    show 10 * digitsValue 0 before + (digit.toNat - 0x30) < _
    omega

namespace Json

theorem common_wholeDigits (text : List Char) :
    ∀ c ∈ (wholeDigits text).1, isCommonDigit c = true := by
  intro c member
  unfold wholeDigits at member
  split at member
  · rw [List.mem_singleton.mp member]
    rfl
  · exact List.mem_takeWhile_imp member

theorem faithful_digits (negative : Bool) (digits : List Char)
    (common : ∀ c ∈ digits, isCommonDigit c = true) (inLimit : digits.length ≤ digitLimit) :
    Faithful (.int (if negative then -(digitsValue 0 digits : Int) else digitsValue 0 digits)) := by
  refine ⟨trivial, ?_⟩
  have below : digitsValue 0 digits < 10 ^ digitLimit :=
    (digitsValue_lt digits common).trans_le (Nat.pow_le_pow_right (by decide) inLimit)
  have size : (if negative then -(digitsValue 0 digits : Int) else digitsValue 0 digits).natAbs =
      digitsValue 0 digits := by
    cases negative
    · rfl
    · exact Int.natAbs_neg _
  rw [hasLongNumber, exceedsDigitLimit, size]
  exact decide_eq_false (Nat.not_le.mpr below)

/-- A number that is read under the limit is not too long. -/
theorem faithful_of_number {text left : List Char} {value : Json}
    (isRead : number (some digitLimit) text = .ok (value, left)) : Faithful value := by
  unfold number at isRead
  dsimp only at isRead
  split at isRead
  -- with a sign and without one, which makes no difference to the digits
  all_goals
    split at isRead
    case isTrue => exact nomatch isRead
    split at isRead
    case h_2 =>
      cases isRead
      exact faithful_float _
    split at isRead
    case isTrue => exact nomatch isRead
    case isFalse inLimit =>
      cases isRead
      exact faithful_digits _ _ (common_wholeDigits _) (by simpa using inLimit)

/-! ### Values -/

/-- What a reader under the limit finds, to the given depth, is faithful. -/
structure FindsFaithful (bound : Nat) : Prop where
  value : ∀ {text value left}, readValue (some digitLimit) bound text = .ok (value, left) →
    Faithful value
  items : ∀ {text items left}, readItems (some digitLimit) bound text = .ok (items, left) →
    ∀ item ∈ items, Faithful item
  members : ∀ {text members left}, readMembers (some digitLimit) bound text = .ok (members, left) →
    ∀ member ∈ members, Faithful member.2

theorem findsFaithful (bound : Nat) : FindsFaithful bound := by
  induction bound with
  | zero => exact ⟨nofun, nofun, nofun⟩
  | succ bound inductionHypothesis =>
    refine ⟨fun {text value left} isRead => ?_, fun {text items left} areRead => ?_,
      fun {text members left} areRead => ?_⟩
    · unfold readValue at isRead
      split at isRead
      · obtain ⟨⟨characters, rest⟩, -, isValue⟩ := bind_eq_ok isRead
        cases isValue
        exact faithful_str _
      · split at isRead
        · cases isRead
          exact faithful_arr [] nofun
        · obtain ⟨⟨items, rest⟩, areItems, isValue⟩ := bind_eq_ok isRead
          cases isValue
          exact faithful_arr items (inductionHypothesis.items areItems)
      · split at isRead
        · cases isRead
          exact faithful_obj [] List.nodup_nil nofun
        · obtain ⟨⟨members, rest⟩, areMembers, isValue⟩ := bind_eq_ok isRead
          cases isValue
          exact faithful_obj _ (Entries.settle_distinct members) fun member present =>
            inductionHypothesis.members areMembers member
              (Entries.mem_of_mem_settle members member present)
      -- null, truth values and numbers that are none or infinite
      · cases isRead
        exact faithful_null
      · cases isRead
        exact ⟨trivial, rfl⟩
      · cases isRead
        exact ⟨trivial, rfl⟩
      · cases isRead
        exact faithful_float _
      · cases isRead
        exact faithful_float _
      · cases isRead
        exact faithful_float _
      · exact faithful_of_number isRead
    · unfold readItems at areRead
      obtain ⟨⟨item, rest⟩, isItem, behind⟩ := bind_eq_ok areRead
      have first := inductionHypothesis.value isItem
      dsimp only at behind
      split at behind
      · cases behind
        exact List.forall_mem_singleton.mpr first
      · obtain ⟨⟨others, rest⟩, areOthers, areItems⟩ := bind_eq_ok behind
        cases areItems
        exact List.forall_mem_cons.mpr ⟨first, inductionHypothesis.items areOthers⟩
      · cases behind
    · unfold readMembers at areRead
      split at areRead
      case h_2 => cases areRead
      obtain ⟨⟨name, rest⟩, -, behind⟩ := bind_eq_ok areRead
      dsimp only at behind
      split at behind
      case h_2 => cases behind
      obtain ⟨⟨value, rest⟩, isValue, behind⟩ := bind_eq_ok behind
      have first := inductionHypothesis.value isValue
      dsimp only at behind
      split at behind
      · cases behind
        exact List.forall_mem_singleton.mpr first
      · obtain ⟨⟨others, rest⟩, areOthers, areMembers⟩ := bind_eq_ok behind
        cases areMembers
        exact List.forall_mem_cons.mpr ⟨first, inductionHypothesis.members areOthers⟩
      · cases behind

/-- What is read from a text under the limit is faithful. -/
theorem faithful_of_readCharacters {text : List Char} {value : Json}
    (isRead : readCharacters (some digitLimit) text = .ok value) : Faithful value := by
  have whole (isRead : readCharacters.go (some digitLimit) text = .ok value) : Faithful value := by
    unfold readCharacters.go at isRead
    split at isRead
    case h_1 => cases isRead
    case h_2 isValue =>
      split at isRead
      case h_1 =>
        cases isRead
        exact (findsFaithful _).value isValue
      case h_2 => cases isRead
  unfold readCharacters at isRead
  split at isRead
  · split at isRead
    · cases isRead
    · exact whole isRead
  · exact whole isRead

theorem faithful_of_read {text : String} {value : Json} (isRead : read text = .ok value) :
    Faithful value := faithful_of_readCharacters isRead

/-- No part of a value is longer than the whole. -/
theorem short_member {value : Json} (short : value.hasLongNumber = false) (name : String) :
    (value.member name).hasLongNumber = false := by
  cases value
  case obj members =>
    unfold member
    dsimp only
    cases found : Entries.get? members name with
    | none => rfl
    | some part =>
      exact (anyLongMember_eq_false_iff members).mp short _
        (Entries.mem_of_get? members name part found)
  all_goals rfl

end Json

end MarketSignal
