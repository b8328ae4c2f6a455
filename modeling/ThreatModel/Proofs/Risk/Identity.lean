import Mathlib.Data.List.Induction
import ThreatModel.Risk.Basic

/-!
# Synthetic ids can be split

A synthetic id joins a category and some element ids by `@`. As long as none of them has an `@` of
its own, splitting it gives them back (`segments_joinIds`), so two findings with one id are about the
same elements in the same order.
-/

namespace ThreatModel.Risk

/-- The parts of a synthetic id. -/
def segments (syntheticId : String) : List String :=
  (syntheticId.toList.splitOn '@').map String.ofList

/-- A text that keeps apart from others when they are joined. -/
def Plain (s : String) : Prop := '@' ∉ s.toList

instance : DecidablePred Plain := fun s => inferInstanceAs (Decidable ('@' ∉ s.toList))

theorem plain_append {s t : String} : Plain (s ++ t) ↔ Plain s ∧ Plain t := by
  rw [Plain, String.toList_append, List.mem_append, not_or]
  rfl

theorem toList_joinIds (category : String) (ids : List String) :
    (joinIds category ids).toList = ['@'].intercalate ((category :: ids).map String.toList) := by
  induction ids generalizing category with
  | nil => simp [joinIds]
  | cons id ids ih =>
    have hstep : joinIds category (id :: ids) = joinIds (category ++ "@" ++ id) ids := rfl
    rw [hstep, ih]
    cases ids with
    | nil => simp
    | cons next ids => simp

theorem segments_joinIds {category : String} {ids : List String} (hcategory : Plain category)
    (hids : ∀ id ∈ ids, Plain id) : segments (joinIds category ids) = category :: ids := by
  have hplain : ∀ s ∈ (category :: ids).map String.toList, '@' ∉ s := by
    simpa using ⟨hcategory, hids⟩
  rw [segments, toList_joinIds, List.splitOn_intercalate '@' hplain (by simp), List.map_map]
  simp

theorem joinIds_eq_append (category : String) (ids : List String) :
    joinIds category ids = category ++ joinIds "" ids := by
  induction ids using List.reverseRecOn with
  | nil => simp [joinIds]
  | append_singleton ids id ih =>
    have hlast (c : String) : joinIds c (ids ++ [id]) = joinIds c ids ++ "@" ++ id := by
      simp [joinIds]
    rw [hlast, hlast, ih]
    simp only [String.append_assoc]

/-- Ids of one category are equal only if they name the same elements, in the same order. -/
theorem joinIds_inj {category : String} {ids others : List String} (hids : ∀ id ∈ ids, Plain id)
    (hothers : ∀ id ∈ others, Plain id) (h : joinIds category ids = joinIds category others) :
    ids = others := by
  rw [joinIds_eq_append category ids, joinIds_eq_append category others] at h
  have hparts := congrArg segments (String.append_right_inj _ |>.1 h)
  have hempty : Plain "" := by decide
  rw [segments_joinIds hempty hids, segments_joinIds hempty hothers] at hparts
  exact List.tail_eq_of_cons_eq hparts

end ThreatModel.Risk
