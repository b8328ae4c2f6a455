import Mathlib.Algebra.Order.Field.Basic
import Mathlib.Algebra.Order.Field.Rat
import Mathlib.Tactic.Positivity
import ThreatModel.Attractiveness.Basic

/-!
# The scale of attractiveness

With rationals for numbers the scale of some values is their range: it starts at the least one, and if
not all are the same, it ends at the greatest one (`Scale.Spans`). Where they are the same it has the
length one, so that there is a place for a value in every scale. What lies above the start has its
place in percent, and what does not has one percent (`Scale.relative_of_lt`, `Scale.relative_of_le`).
-/

namespace ThreatModel

namespace Attractiveness

open Scalar

theorem least_eq_min (a b : Rat) : least a b = min a b := by
  simp only [least, less, decide_eq_true_eq, min_def_lt]

theorem greatest_eq_max (a b : Rat) : greatest a b = max a b := by
  simp only [greatest, less, decide_eq_true_eq, max_def_lt]

theorem foldl_least_eq (v : Rat) (vs : List Rat) : vs.foldl least v = vs.foldl min v :=
  congrArg (vs.foldl · v) (funext₂ least_eq_min)

theorem foldl_greatest_eq (v : Rat) (vs : List Rat) : vs.foldl greatest v = vs.foldl max v :=
  congrArg (vs.foldl · v) (funext₂ greatest_eq_max)

/-- The least of some numbers is one of them. -/
theorem foldl_least_spec (v : Rat) (vs : List Rat) :
    vs.foldl least v ∈ v :: vs ∧ ∀ w ∈ v :: vs, vs.foldl least v ≤ w :=
  foldl_least_eq v vs ▸ List.min?_eq_some_iff.1 List.min?_cons'

theorem foldl_greatest_spec (v : Rat) (vs : List Rat) :
    vs.foldl greatest v ∈ v :: vs ∧ ∀ w ∈ v :: vs, w ≤ vs.foldl greatest v :=
  foldl_greatest_eq v vs ▸ List.max?_eq_some_iff.1 List.max?_cons'

namespace Scale

/-- A scale is the range of some values. -/
structure Spans (s : Scale Rat) (vs : List Rat) : Prop where
  spread_pos : 0 < s.spread
  lowest_le : ∀ v ∈ vs, s.lowest ≤ v
  le_top : ∀ v ∈ vs, v ≤ s.lowest + s.spread
  lowest_mem : vs ≠ [] → s.lowest ∈ vs
  /-- Where values differ, the greatest one is the end of the scale. -/
  top_mem : (∃ v ∈ vs, ∃ w ∈ vs, v ≠ w) → s.lowest + s.spread ∈ vs

theorem spanning_cons (v : Rat) (vs : List Rat) :
    spanning (v :: vs) = if vs.foldl least v < vs.foldl greatest v
      then ⟨vs.foldl least v, vs.foldl greatest v - vs.foldl least v⟩
      else ⟨vs.foldl least v, 1⟩ := by
  rw [spanning]
  simp only [less, decide_eq_true_eq]
  rfl

theorem spans_spanning : (vs : List Rat) → (spanning vs).Spans vs
  | [] =>
    { spread_pos := one_pos
      lowest_le := nofun
      le_top := nofun
      lowest_mem := absurd rfl
      top_mem := nofun }
  | v :: vs => by
    obtain ⟨hlow, hleast⟩ := foldl_least_spec v vs
    obtain ⟨hhigh, hgreatest⟩ := foldl_greatest_spec v vs
    rw [spanning_cons]
    generalize vs.foldl least v = low at hlow hleast ⊢
    generalize vs.foldl greatest v = high at hhigh hgreatest ⊢
    split
    · next hlt =>
      have htop : low + (high - low) = high := add_sub_cancel low high
      exact {
        spread_pos := sub_pos.2 hlt
        lowest_le := hleast
        le_top := fun w hw => htop.symm ▸ hgreatest w hw
        lowest_mem := fun _ => hlow
        top_mem := fun _ => htop.symm ▸ hhigh }
    · next hnot =>
      have hsame : ∀ w ∈ v :: vs, w = low := fun w hw =>
        le_antisymm ((hgreatest w hw).trans (not_lt.1 hnot)) (hleast w hw)
      exact {
        spread_pos := one_pos
        lowest_le := hleast
        le_top := fun w hw => hsame w hw ▸ le_add_of_nonneg_right zero_le_one
        lowest_mem := fun _ => hlow
        top_mem := fun ⟨w, hw, x, hx, hne⟩ => absurd ((hsame w hw).trans (hsame x hx).symm) hne }

/-! ## Places in a scale -/

variable {s : Scale Rat} {v : Rat}

theorem relative_eq (s : Scale Rat) (v : Rat) :
    s.relative v = if 0 < (v - s.lowest) / s.spread * 100
      then (v - s.lowest) / s.spread * 100 else 1 := by
  rw [relative]
  simp only [less, decide_eq_true_eq]
  rfl

theorem relative_of_lt (hs : 0 < s.spread) (hv : s.lowest < v) :
    s.relative v = (v - s.lowest) / s.spread * 100 := by
  have hgain : 0 < v - s.lowest := sub_pos.2 hv
  rw [relative_eq, if_pos (by positivity)]

/-- The start of a scale is at one percent. -/
theorem relative_of_le (hs : 0 < s.spread) (hv : v ≤ s.lowest) : s.relative v = 1 := by
  have hplace : (v - s.lowest) / s.spread * 100 ≤ 0 :=
    mul_nonpos_of_nonpos_of_nonneg (div_nonpos_of_nonpos_of_nonneg (sub_nonpos.2 hv) hs.le)
      (by norm_num)
  rw [relative_eq, if_neg (not_lt.2 hplace)]

/-- Its end is at a hundred percent, and what lies behind it is not below that. -/
theorem hundred_le_relative (hs : 0 < s.spread) (hv : s.lowest + s.spread ≤ v) :
    100 ≤ s.relative v := by
  have hgain : s.spread ≤ v - s.lowest := le_sub_iff_add_le'.2 hv
  rw [relative_of_lt hs ((lt_add_of_pos_right _ hs).trans_le hv)]
  exact le_mul_of_one_le_left (by norm_num) ((one_le_div hs).2 hgain)

/-! ## The order of places -/

/-- The one percent at the start of a scale is more than the place of a value close behind it: less
than a hundredth of the scale lies between the two. -/
def Overtakes (s : Scale Rat) (v w : Rat) : Prop :=
  v ≤ s.lowest ∧ s.lowest < w ∧ 100 * (w - s.lowest) < s.spread

theorem relative_lt_one_iff {w : Rat} (hs : 0 < s.spread) :
    s.relative w < 1 ↔ s.lowest < w ∧ 100 * (w - s.lowest) < s.spread := by
  rcases le_or_gt w s.lowest with hw | hw
  · rw [relative_of_le hs hw]
    constructor
    · intro hone
      exact absurd hone (lt_irrefl 1)
    · intro hclose
      exact absurd hclose.1 (not_lt.2 hw)
  · have hplace : (w - s.lowest) / s.spread * 100 = 100 * (w - s.lowest) / s.spread := by
      rw [mul_div_assoc, mul_comm]
    rw [relative_of_lt hs hw, hplace, div_lt_one hs]
    exact (and_iff_right hw).symm

theorem relative_le_relative {w : Rat} (hs : 0 < s.spread) (hv : s.lowest < v) (hvw : v ≤ w) :
    s.relative v ≤ s.relative w := by
  have hgain : v - s.lowest ≤ w - s.lowest := sub_le_sub_right hvw _
  rw [relative_of_lt hs hv, relative_of_lt hs (hv.trans_le hvw)]
  gcongr

/-- Places that are cut off at a hundred percent keep the order of values, with the exception of those
that the start of the scale overtakes. -/
theorem percent_le_percent_iff {w : Rat} (hs : 0 < s.spread) (hvw : v ≤ w) :
    least (s.relative v) 100 ≤ least (s.relative w) 100 ↔ ¬ s.Overtakes v w := by
  rw [least_eq_min, least_eq_min]
  rcases le_or_gt v s.lowest with hv | hv
  · have hfloor : min (1 : Rat) 100 = 1 := by norm_num
    have hover : s.Overtakes v w ↔ s.relative w < 1 := by
      rw [relative_lt_one_iff hs]
      exact and_iff_right hv
    rw [relative_of_le hs hv, hfloor, hover, not_lt, le_min_iff]
    exact and_iff_left (by norm_num)
  · constructor
    · intro _ hover
      exact absurd hv (not_lt.2 hover.1)
    · intro _
      exact min_le_min_right _ (relative_le_relative hs hv hvw)

end Scale

end Attractiveness

end ThreatModel
