import ThreatModel.Proofs.Dict
import ThreatModel.Proofs.Model.Rating

/-!
# Data that is rated higher

If data is rated higher in one model than in another one that is otherwise the same (`Model.Raised`),
then whatever takes its rating from data is rated at least as high: links, assets, and the boundaries
and runtimes that assets lie in. The questions that rules ask about a rating are answered with yes again
once they were answered with yes.
-/

namespace ThreatModel

theorem Confidentiality.eq_top {a b : Confidentiality} (h : a ≤ b)
    (ha : a = .strictlyConfidential) : b = .strictlyConfidential := by
  subst ha
  revert h
  cases b <;> decide

theorem Criticality.eq_top {a b : Criticality} (h : a ≤ b) (ha : a = .missionCritical) :
    b = .missionCritical := by
  subst ha
  revert h
  cases b <;> decide

/-! ## Questions about a rating -/

namespace Rating

variable {r s : Rating}

theorem isHigh_mono (h : r ≤ s) (hr : r.isHigh = true) : s.isHigh = true := by
  obtain ⟨hc, hi, ha⟩ := h
  simp only [isHigh, Bool.or_eq_true, decide_eq_true_eq] at hr ⊢
  rcases hr with (hr | hr) | hr
  · exact .inl (.inl (Nat.le_trans hr hc))
  · exact .inl (.inr (Nat.le_trans hr hi))
  · exact .inr (Nat.le_trans hr ha)

theorem isTop_mono (h : r ≤ s) (hr : r.isTop = true) : s.isTop = true := by
  obtain ⟨hc, hi, ha⟩ := h
  simp only [isTop, Bool.or_eq_true, decide_eq_true_eq] at hr ⊢
  rcases hr with (hr | hr) | hr
  · exact .inl (.inl (Confidentiality.eq_top hc hr))
  · exact .inl (.inr (Criticality.eq_top hi hr))
  · exact .inr (Criticality.eq_top ha hr)

theorem isHighContent_mono (h : r ≤ s) (hr : r.isHighContent = true) : s.isHighContent = true := by
  obtain ⟨hc, hi, -⟩ := h
  simp only [isHighContent, Bool.or_eq_true, decide_eq_true_eq] at hr ⊢
  rcases hr with hr | hr
  · exact .inl (Nat.le_trans hr hc)
  · exact .inr (Nat.le_trans hr hi)

theorem isTopContent_mono (h : r ≤ s) (hr : r.isTopContent = true) : s.isTopContent = true := by
  obtain ⟨hc, hi, -⟩ := h
  simp only [isTopContent, Bool.or_eq_true, decide_eq_true_eq] at hr ⊢
  rcases hr with hr | hr
  · exact .inl (Confidentiality.eq_top hc hr)
  · exact .inr (Criticality.eq_top hi hr)

end Rating

/-- Two data assets differ only in that the second one may be rated higher. -/
structure DataAsset.Raised (d e : DataAsset) : Prop where
  same : e = { d with
    confidentiality := e.confidentiality, integrity := e.integrity, availability := e.availability }
  rating : d.rating ≤ e.rating

theorem DataAsset.Raised.id {d e : DataAsset} (h : d.Raised e) : e.id = d.id := by
  rw [h.same]

namespace Model

/-- The model with other data. -/
def withData (m : Model) (data : Dict DataAsset) : Model := { m with dataAssets := data }

/-- Two models differ only in that data may be rated higher in the second one. -/
def Raised (m m' : Model) : Prop :=
  m' = m.withData m'.dataAssets ∧
    ∀ id, Option.Rel DataAsset.Raised (m.dataAssets.get? id) (m'.dataAssets.get? id)

/-- The data of a model can be replaced by data that is rated higher. -/
def RaisedBy (m : Model) (data : Dict DataAsset) : Prop :=
  ∀ id, Option.Rel DataAsset.Raised (m.dataAssets.get? id) (data.get? id)

namespace RaisedBy

variable {m : Model} {data : Dict DataAsset} (h : m.RaisedBy data)

include h

theorem dataOf (ids : List String) :
    List.Forall₂ DataAsset.Raised (m.dataOf ids) ((m.withData data).dataOf ids) := by
  show List.Forall₂ _ (ids.filterMap m.dataAssets.get?) (ids.filterMap data.get?)
  induction ids with
  | nil => exact .nil
  | cons id ids ih =>
    have hid := h id
    rw [List.filterMap_cons, List.filterMap_cons]
    cases hd : m.dataAssets.get? id with
    | none =>
      cases he : data.get? id with
      | none => exact ih
      | some e =>
        rw [hd, he] at hid
        cases hid
    | some d =>
      cases he : data.get? id with
      | none =>
        rw [hd, he] at hid
        cases hid
      | some e =>
        rw [hd, he] at hid
        cases hid with
        | some hde => exact .cons hde ih

theorem exists_of_mem_values {d : DataAsset} (hd : d ∈ m.dataAssets.values) :
    ∃ e ∈ data.values, d.Raised e := by
  obtain ⟨k, hk⟩ := Dict.mem_values_iff.1 hd
  have hrel := h k
  rw [hk] at hrel
  cases he : data.get? k with
  | none =>
    rw [he] at hrel
    cases hrel
  | some e =>
    rw [he] at hrel
    cases hrel with
    | some hde => exact ⟨e, Dict.mem_values_of_get? he, hde⟩

theorem rating_data (ids : List String) :
    List.Forall₂ (· ≤ ·) ((m.dataOf ids).map (·.rating))
      (((m.withData data).dataOf ids).map (·.rating)) := by
  rw [List.forall₂_map_left_iff, List.forall₂_map_right_iff]
  exact (h.dataOf ids).imp fun _ _ hde => hde.rating

theorem rating_asset (a : TechnicalAsset) : a.rating m ≤ a.rating (m.withData data) :=
  Rating.highest_mono le_rfl (h.rating_data _)

theorem rating_link (l : Link) : l.rating m ≤ l.rating (m.withData data) :=
  Rating.highest_mono le_rfl (h.rating_data _)

theorem ratingOf (ids : List String) : m.ratingOf ids ≤ (m.withData data).ratingOf ids := by
  refine Rating.highest_mono le_rfl ?_
  rw [List.forall₂_map_left_iff, List.forall₂_map_right_iff]
  exact List.forall₂_same.2 fun a _ => h.rating_asset a

theorem rating_boundary (b : TrustBoundary) : b.rating m ≤ b.rating (m.withData data) :=
  h.ratingOf _

theorem rating_runtime (s : SharedRuntime) : s.rating m ≤ s.rating (m.withData data) :=
  h.ratingOf _

end RaisedBy

end Model

end ThreatModel
