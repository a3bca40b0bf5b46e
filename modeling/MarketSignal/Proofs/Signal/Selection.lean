/-
This file proves which outcome a score selects. Among the outcomes whose threshold the score meets
it is the one with the highest threshold, and of several with that threshold the first. The
selection goes through the outcomes once and remembers the best so far; what it remembers is at
every point the outcome that leads those already seen. A higher score meets the same thresholds and
perhaps more, so the threshold of its outcome is no lower.
-/
import MarketSignal.Proofs.Number.Order
import MarketSignal.Signal.Score

namespace MarketSignal

/-- The outcome has the threshold, and the score meets it. -/
structure Outcome.MetAt (outcome : Outcome) (score threshold : Float) : Prop where
  isThreshold : outcome.threshold = some threshold
  within : threshold ≤ score

/-- Every threshold is a number. -/
def ProperThresholds (entries : List (String × Outcome)) : Prop :=
  ∀ entry ∈ entries, ∀ threshold, entry.2.threshold = some threshold →
    isNotANumber threshold = false

/-- Among the entries whose threshold the score meets, this one has the highest threshold and is
the first with it. -/
structure Leads (entries : List (String × Outcome)) (score threshold : Float)
    (leader : String × Outcome) : Prop where
  met : leader.2.MetAt score threshold
  highest : ∀ entry ∈ entries, ∀ limit, entry.2.MetAt score limit → limit ≤ threshold
  first : ∃ before after, entries = before ++ leader :: after ∧
    ∀ entry ∈ before, ∀ limit, entry.2.MetAt score limit → limit < threshold

/-! ### Leaders -/

namespace Leads

variable {entries : List (String × Outcome)} {score threshold : Float}
  {leader : String × Outcome} (leads : Leads entries score threshold leader)

include leads

theorem member : leader ∈ entries := by
  obtain ⟨before, after, rfl, -⟩ := leads.first
  exact List.mem_append_right _ List.mem_cons_self

variable (proper : ProperThresholds entries)

include proper

theorem isProper : isNotANumber threshold = false :=
  proper leader leads.member threshold leads.met.isThreshold

/-- There is one leader at most. -/
theorem unique {other : String × Outcome} {limit : Float}
    (otherLeads : Leads entries score limit other) : other = leader := by
  have thresholdProper := leads.isProper proper
  have limitProper := otherLeads.isProper proper
  have notHigher := (not_lt_iff_le limitProper thresholdProper).mpr
    (otherLeads.highest leader leads.member threshold leads.met)
  have notLower := (not_lt_iff_le thresholdProper limitProper).mpr
    (leads.highest other otherLeads.member limit otherLeads.met)
  -- Neither stands before the other, since its threshold would be lower there.
  obtain ⟨before, after, rfl, lower⟩ := leads.first
  obtain ⟨otherBefore, otherAfter, same, otherLower⟩ := otherLeads.first
  rcases List.append_eq_append_iff.mp same with ⟨between, rfl, tail⟩ | ⟨between, rfl, tail⟩
  · cases between with
    | nil => exact (List.cons.inj tail).1.symm
    | cons first rest =>
      obtain ⟨rfl, -⟩ := List.cons.inj tail
      exact absurd (otherLower leader (List.mem_append_right _ List.mem_cons_self) threshold
        leads.met) notLower
  · cases between with
    | nil => exact (List.cons.inj tail).1
    | cons first rest =>
      obtain ⟨rfl, -⟩ := List.cons.inj tail
      exact absurd (lower other (List.mem_append_right _ List.mem_cons_self) limit
        otherLeads.met) notHigher

end Leads

/-! ### One more outcome -/

section

variable {score : Float} (scoreProper : isNotANumber score = false) {next : String × Outcome}

include scoreProper

theorem betterOutcome_unmet
    (proper : ∀ threshold, next.2.threshold = some threshold → isNotANumber threshold = false)
    (unmet : ∀ threshold, ¬ next.2.MetAt score threshold)
    (best : Option (Float × String × Outcome)) : betterOutcome score best next = best := by
  unfold betterOutcome
  cases isThreshold : next.2.threshold with
  | none => rfl
  | some threshold =>
    have beyond : outOfReach threshold score = true := by
      refine decide_eq_true ?_
      by_contra within
      exact unmet threshold
        ⟨isThreshold, le_of_not_lt (proper threshold isThreshold) scoreProper within⟩
    exact if_pos beyond

theorem betterOutcome_met {threshold : Float} (proper : isNotANumber threshold = false)
    (met : next.2.MetAt score threshold) (best : Option (Float × String × Outcome)) :
    betterOutcome score best next =
      match best with
      | none => some (threshold, next)
      | some (highest, _) => if highest < threshold then some (threshold, next) else best := by
  have within : ¬ outOfReach threshold score = true := by
    rw [outOfReach, decide_eq_true_iff, not_lt_iff_le scoreProper proper]
    exact met.within
  unfold betterOutcome
  rw [met.isThreshold]
  exact if_neg within

end

/-- What is remembered of the entries seen: nothing if no threshold is met, and else the leader with
its threshold. -/
def Remembers (entries : List (String × Outcome)) (score : Float) :
    Option (Float × String × Outcome) → Prop
  | none => ∀ entry ∈ entries, ∀ threshold, ¬ entry.2.MetAt score threshold
  | some (threshold, leader) => Leads entries score threshold leader

section

variable {entries : List (String × Outcome)} {next : String × Outcome} {score threshold : Float}

/-- An outcome leads if it beats the leader of those before it. -/
theorem leads_next {highest : Float} {leader : String × Outcome}
    (proper : ProperThresholds entries) (leads : Leads entries score highest leader)
    (thresholdProper : isNotANumber threshold = false) (met : next.2.MetAt score threshold)
    (higher : highest < threshold) : Leads (entries ++ [next]) score threshold next := by
  have lower (entry : String × Outcome) (member : entry ∈ entries) (limit : Float)
      (isMet : entry.2.MetAt score limit) : limit < threshold :=
    proper_lt_of_le_of_lt (proper entry member limit isMet.isThreshold) (leads.isProper proper)
      thresholdProper (leads.highest entry member limit isMet) higher
  refine ⟨met, fun entry member limit isMet => ?_, entries, [], rfl, lower⟩
  rcases List.mem_append.mp member with earlier | isNext
  · have limitProper := proper entry earlier limit isMet.isThreshold
    rw [le_iff_rank limitProper thresholdProper]
    exact ((lt_iff_rank limitProper thresholdProper).mp (lower entry earlier limit isMet)).le
  · cases List.mem_singleton.mp isNext
    cases met.isThreshold.symm.trans isMet.isThreshold
    rw [le_iff_rank thresholdProper thresholdProper]

/-- Or if none before it has a threshold that is met. -/
theorem leads_alone (thresholdProper : isNotANumber threshold = false)
    (met : next.2.MetAt score threshold)
    (unmet : ∀ entry ∈ entries, ∀ limit, ¬ entry.2.MetAt score limit) :
    Leads (entries ++ [next]) score threshold next := by
  refine ⟨met, fun entry member limit isMet => ?_, entries, [], rfl,
    fun entry member limit isMet => absurd isMet (unmet entry member limit)⟩
  rcases List.mem_append.mp member with earlier | isNext
  · exact absurd isMet (unmet entry earlier limit)
  · cases List.mem_singleton.mp isNext
    cases met.isThreshold.symm.trans isMet.isThreshold
    rw [le_iff_rank thresholdProper thresholdProper]

/-- A leader stays one if what comes next has no higher threshold. -/
theorem Leads.before {leader : String × Outcome} (leads : Leads entries score threshold leader)
    (notHigher : ∀ limit, next.2.MetAt score limit → limit ≤ threshold) :
    Leads (entries ++ [next]) score threshold leader := by
  obtain ⟨before, after, rfl, lower⟩ := leads.first
  refine ⟨leads.met, fun entry member limit isMet => ?_, before, after ++ [next],
    by rw [List.append_assoc, List.cons_append], lower⟩
  rcases List.mem_append.mp member with earlier | isNext
  · exact leads.highest entry earlier limit isMet
  · cases List.mem_singleton.mp isNext
    exact notHigher limit isMet

/-- Going one outcome further, what is remembered is what there is to be remembered. -/
theorem remembers_step (proper : ProperThresholds (entries ++ [next]))
    (scoreProper : isNotANumber score = false) {best : Option (Float × String × Outcome)}
    (remembers : Remembers entries score best) :
    Remembers (entries ++ [next]) score (betterOutcome score best next) := by
  have nextProper := proper next (List.mem_append_right _ List.mem_cons_self)
  have earlierProper : ProperThresholds entries := fun entry member =>
    proper entry (List.mem_append_left _ member)
  by_cases meets : ∃ threshold, next.2.MetAt score threshold
  · obtain ⟨threshold, met⟩ := meets
    have thresholdProper := nextProper threshold met.isThreshold
    rw [betterOutcome_met scoreProper thresholdProper met]
    obtain _ | ⟨highest, leader⟩ := best
    · exact leads_alone thresholdProper met remembers
    · have leads : Leads entries score highest leader := remembers
      dsimp only
      split
      case isTrue higher => exact leads_next earlierProper leads thresholdProper met higher
      case isFalse notHigher =>
        refine leads.before fun limit isMet => ?_
        cases met.isThreshold.symm.trans isMet.isThreshold
        exact le_of_not_lt thresholdProper (leads.isProper earlierProper) notHigher
  · have unmet : ∀ threshold, ¬ next.2.MetAt score threshold := not_exists.mp meets
    rw [betterOutcome_unmet scoreProper nextProper unmet]
    obtain _ | ⟨highest, leader⟩ := best
    · exact List.forall_mem_append.mpr ⟨remembers, List.forall_mem_singleton.mpr unmet⟩
    · exact Leads.before remembers fun limit isMet => absurd isMet (unmet limit)

end

/-- So it is after all of them. -/
theorem remembers_run (entries : List (String × Outcome)) (proper : ProperThresholds entries)
    {score : Float} (scoreProper : isNotANumber score = false) :
    Remembers entries score (entries.foldl (betterOutcome score) none) := by
  induction entries using List.reverseRecOn with
  | nil => exact nofun
  | append_singleton entries next inductionHypothesis =>
    rw [List.foldl_append]
    exact remembers_step proper scoreProper
      (inductionHypothesis fun entry member => proper entry (List.mem_append_left _ member))

/-! ### The selection -/

section

variable (outcomes : Table Outcome) (proper : ProperThresholds outcomes.entries) {score : Float}
  (scoreProper : isNotANumber score = false)

include proper scoreProper

/-- Either no threshold is met and nothing is selected, or the leader is. -/
theorem selectOutcome_ends :
    (selectOutcome outcomes score = none ∧
        ∀ entry ∈ outcomes.entries, ∀ threshold, ¬ entry.2.MetAt score threshold) ∨
      ∃ threshold leader, selectOutcome outcomes score = some leader ∧
        Leads outcomes.entries score threshold leader := by
  have remembers := remembers_run outcomes.entries proper scoreProper
  unfold selectOutcome
  revert remembers
  obtain _ | ⟨threshold, leader⟩ := outcomes.entries.foldl (betterOutcome score) none
  · exact fun unmet => Or.inl ⟨rfl, unmet⟩
  · exact fun leads => Or.inr ⟨threshold, leader, rfl, leads⟩

theorem selectOutcome_eq_none_iff :
    selectOutcome outcomes score = none ↔
      ∀ entry ∈ outcomes.entries, ∀ threshold, ¬ entry.2.MetAt score threshold := by
  rcases selectOutcome_ends outcomes proper scoreProper with
    ⟨nothing, unmet⟩ | ⟨threshold, leader, isLeader, leads⟩
  · exact iff_of_true nothing unmet
  · refine iff_of_false (by rw [isLeader]; exact nofun) fun unmet => ?_
    exact unmet leader leads.member threshold leads.met

theorem selectOutcome_eq_some_iff (leader : String × Outcome) :
    selectOutcome outcomes score = some leader ↔
      ∃ threshold, Leads outcomes.entries score threshold leader := by
  rcases selectOutcome_ends outcomes proper scoreProper with
    ⟨nothing, unmet⟩ | ⟨threshold, selected, isSelected, leads⟩
  · refine iff_of_false (by rw [nothing]; exact nofun) ?_
    rintro ⟨threshold, leads⟩
    exact unmet leader leads.member threshold leads.met
  · rw [isSelected, Option.some.injEq]
    constructor
    · rintro rfl
      exact ⟨threshold, leads⟩
    · rintro ⟨limit, otherLeads⟩
      exact otherLeads.unique proper leads

/-- Nothing is selected exactly if the score meets no threshold, and otherwise the first outcome
with the highest threshold that it meets. A higher score selects an outcome as well, and none with a
lower threshold. -/
theorem selectOutcome_leads :
    (selectOutcome outcomes score = none ↔
        ∀ entry ∈ outcomes.entries, ∀ threshold, ¬ entry.2.MetAt score threshold) ∧
      (∀ leader, selectOutcome outcomes score = some leader ↔
        ∃ threshold, Leads outcomes.entries score threshold leader) ∧
      ∀ leader threshold higher, selectOutcome outcomes score = some leader →
        leader.2.threshold = some threshold → isNotANumber higher = false → score ≤ higher →
          ∃ next limit, selectOutcome outcomes higher = some next ∧
            next.2.threshold = some limit ∧ threshold ≤ limit := by
  have selects := selectOutcome_eq_some_iff outcomes proper scoreProper
  refine ⟨selectOutcome_eq_none_iff outcomes proper scoreProper, selects,
    fun leader threshold higher isLeader isThreshold higherProper notLower => ?_⟩
  obtain ⟨_, leads⟩ := (selects leader).mp isLeader
  cases isThreshold.symm.trans leads.met.isThreshold
  have stillMet : leader.2.MetAt higher threshold :=
    ⟨isThreshold, proper_le_trans (leads.isProper proper) scoreProper higherProper
      leads.met.within notLower⟩
  rcases selectOutcome_ends outcomes proper higherProper with
    ⟨-, unmet⟩ | ⟨limit, next, isNext, nextLeads⟩
  · exact absurd stillMet (unmet leader leads.member threshold)
  · exact ⟨next, limit, isNext, nextLeads.met.isThreshold,
      nextLeads.highest leader leads.member threshold stillMet⟩

end

/-- Outcomes without a threshold, with both zeros, and with infinity for one. -/
def zeroOutcomes : Table Outcome :=
  Table.ofEntries
    [("never", ⟨none, .str "Never", .null⟩),
      ("below", ⟨some (floatOfWord true 0), .str "A", .null⟩),
      ("above", ⟨some 0, .str "B", .null⟩), ("top", ⟨some infinity, .str "C", .null⟩)]

/-- At zero the two zeros tie and the first of them is selected. At infinity the selected outcome
has a threshold that is no lower. -/
theorem selectOutcome_leads_zeros :
    ProperThresholds zeroOutcomes.entries ∧ isNotANumber 0 = false ∧
      (∃ threshold, Leads zeroOutcomes.entries 0 threshold
        ("below", ⟨some (floatOfWord true 0), .str "A", .null⟩)) ∧
      ∃ next limit, selectOutcome zeroOutcomes infinity = some next ∧
        next.2.threshold = some limit ∧ floatOfWord true 0 ≤ limit := by
  have proper : ProperThresholds zeroOutcomes.entries := by
    intro entry member threshold isThreshold
    have listed : entry.2.threshold ∈ [none, some (floatOfWord true 0), some 0, some infinity] :=
      List.mem_map_of_mem (f := fun entry => entry.2.threshold) member
    rw [isThreshold] at listed
    simp only [List.mem_cons, List.not_mem_nil, or_false, Option.some.injEq, reduceCtorEq,
      false_or] at listed
    rcases listed with rfl | rfl | rfl <;> decide
  have zero : isNotANumber 0 = false := by decide
  obtain ⟨-, leads, rises⟩ := selectOutcome_leads zeroOutcomes proper zero
  exact ⟨proper, zero, (leads _).mp rfl, rises _ _ infinity rfl rfl (by decide) (by decide)⟩

end MarketSignal
