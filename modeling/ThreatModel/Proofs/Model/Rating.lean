import Mathlib.Data.List.Forall2
import Mathlib.Order.GaloisConnection.Basic
import ThreatModel.Model.Protection

/-!
# The lattice of ratings

Each respect of a rating is ordered linearly, lowest first, and ratings are ordered in all respects at
once. That is a lattice with a lowest rating, in which the highest of some ratings is their supremum
(`Rating.highest_le_iff`). A supremum of ratings is one in each respect by itself, since a bound for one
respect is a bound for the ratings with the others at their top (`Rating.isHighest_of_isLUB`).
-/

namespace ThreatModel

namespace Confidentiality

theorem ctorIdx_injective : Function.Injective Confidentiality.ctorIdx := by
  intro a b
  cases a <;> cases b <;> decide

instance : LinearOrder Confidentiality where
  le_refl _ := Nat.le_refl _
  le_trans _ _ _ := Nat.le_trans
  lt_iff_le_not_ge _ _ := Nat.lt_iff_le_and_not_ge
  le_antisymm _ _ h h' := ctorIdx_injective (Nat.le_antisymm h h')
  le_total _ _ := Nat.le_total ..
  toDecidableLE := inferInstance
  toDecidableEq := inferInstance
  toDecidableLT := inferInstance

theorem le_strictlyConfidential (a : Confidentiality) : a ≤ .strictlyConfidential := by
  cases a <;> decide

end Confidentiality

namespace Criticality

theorem ctorIdx_injective : Function.Injective Criticality.ctorIdx := by
  intro a b
  cases a <;> cases b <;> decide

instance : LinearOrder Criticality where
  le_refl _ := Nat.le_refl _
  le_trans _ _ _ := Nat.le_trans
  lt_iff_le_not_ge _ _ := Nat.lt_iff_le_and_not_ge
  le_antisymm _ _ h h' := ctorIdx_injective (Nat.le_antisymm h h')
  le_total _ _ := Nat.le_total ..
  toDecidableLE := inferInstance
  toDecidableEq := inferInstance
  toDecidableLT := inferInstance

theorem le_missionCritical (a : Criticality) : a ≤ .missionCritical := by
  cases a <;> decide

end Criticality

namespace Rating

variable {r s start u : Rating} {rs ss : List Rating} {S : Set Rating}

/-- A rating is at least as high as another one in each respect. -/
instance : LE Rating := ⟨fun r s => r.confidentiality ≤ s.confidentiality ∧
  r.integrity ≤ s.integrity ∧ r.availability ≤ s.availability⟩

instance : SemilatticeSup Rating where
  sup := sup
  le_refl _ := ⟨le_rfl, le_rfl, le_rfl⟩
  le_trans _ _ _ := fun ⟨hc, hi, ha⟩ ⟨hc', hi', ha'⟩ =>
    ⟨hc.trans hc', hi.trans hi', ha.trans ha'⟩
  le_antisymm r s := fun ⟨hc, hi, ha⟩ ⟨hc', hi', ha'⟩ => by
    cases r
    cases s
    rw [mk.injEq]
    exact ⟨hc.antisymm hc', hi.antisymm hi', ha.antisymm ha'⟩
  le_sup_left _ _ := ⟨le_max_left .., le_max_left .., le_max_left ..⟩
  le_sup_right _ _ := ⟨le_max_right .., le_max_right .., le_max_right ..⟩
  sup_le _ _ _ := fun ⟨hc, hi, ha⟩ ⟨hc', hi', ha'⟩ =>
    ⟨max_le hc hc', max_le hi hi', max_le ha ha'⟩

instance : OrderBot Rating where
  bot := lowest
  bot_le _ := ⟨Nat.zero_le _, Nat.zero_le _, Nat.zero_le _⟩

/-! ## The highest rating -/

theorem highest_le_iff : highest start rs ≤ u ↔ start ≤ u ∧ ∀ r ∈ rs, r ≤ u := by
  induction rs generalizing start with
  | nil => simp [highest]
  | cons r rs ih =>
    rw [List.forall_mem_cons, ← and_assoc, ← sup_le_iff]
    exact ih

theorem highest_mono (h : r ≤ s) (hrs : List.Forall₂ (· ≤ ·) rs ss) :
    highest r rs ≤ highest s ss := by
  induction hrs generalizing r s with
  | nil => exact h
  | cons hr _ ih => exact ih (sup_le_sup h hr)

section Elements

variable {α : Type} {vs : List α} {T : Set α} {f : α → Rating}

/-- The highest rating of some elements is the supremum over all that are listed. -/
theorem isLUB_highest (hvs : ∀ v, v ∈ vs ↔ v ∈ T) :
    IsLUB (insert start (f '' T)) (highest start (vs.map f)) := by
  refine isLUB_iff_le_iff.2 fun u => ?_
  simp [highest_le_iff, upperBounds_insert, mem_upperBounds, hvs]

theorem isLUB_highest_lowest (hvs : ∀ v, v ∈ vs ↔ v ∈ T) :
    IsLUB (f '' T) (highest lowest (vs.map f)) := by
  refine isLUB_iff_le_iff.2 fun u => ?_
  have hlowest : lowest ≤ u := bot_le
  simp [highest_le_iff, mem_upperBounds, hvs, hlowest]

end Elements

/-! ## Each respect by itself -/

/-- In each of the three respects a rating is the least upper bound of some ratings. -/
structure IsHighest (S : Set Rating) (r : Rating) : Prop where
  confidentiality : IsLUB (Rating.confidentiality '' S) r.confidentiality
  integrity : IsLUB (Rating.integrity '' S) r.integrity
  availability : IsLUB (Rating.availability '' S) r.availability

theorem gc_confidentiality : GaloisConnection Rating.confidentiality
    fun c => ⟨c, .missionCritical, .missionCritical⟩ := fun r _ =>
  ⟨fun h => ⟨h, r.integrity.le_missionCritical, r.availability.le_missionCritical⟩, fun h => h.1⟩

theorem gc_integrity : GaloisConnection Rating.integrity
    fun c => ⟨.strictlyConfidential, c, .missionCritical⟩ := fun r _ =>
  ⟨fun h => ⟨r.confidentiality.le_strictlyConfidential, h, r.availability.le_missionCritical⟩,
    fun h => h.2.1⟩

theorem gc_availability : GaloisConnection Rating.availability
    fun c => ⟨.strictlyConfidential, .missionCritical, c⟩ := fun r _ =>
  ⟨fun h => ⟨r.confidentiality.le_strictlyConfidential, r.integrity.le_missionCritical, h⟩,
    fun h => h.2.2⟩

theorem isHighest_of_isLUB (h : IsLUB S r) : r.IsHighest S where
  confidentiality := gc_confidentiality.isLUB_l_image h
  integrity := gc_integrity.isLUB_l_image h
  availability := gc_availability.isLUB_l_image h

/-- Of no ratings the lowest one is the highest. -/
theorem isHighest_empty_iff : r.IsHighest ∅ ↔ r = lowest := by
  constructor
  · intro h
    refine le_bot_iff.1 ⟨h.confidentiality.2 ?_, h.integrity.2 ?_, h.availability.2 ?_⟩
    all_goals
      rw [Set.image_empty]
      exact fun _ hx => hx.elim
  · rintro rfl
    exact isHighest_of_isLUB isLUB_empty

end Rating

end ThreatModel
