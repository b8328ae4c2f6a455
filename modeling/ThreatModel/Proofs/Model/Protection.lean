import ThreatModel.Proofs.Model.Enclosure
import ThreatModel.Proofs.Model.Sensitivity

/-!
# Highest ratings are least upper bounds

A highest rating is the supremum of the ratings that are found, and look-ups pass over ids without an
element, of which a checked model has none. So each highest rating is the supremum over just those
elements that an asset, a link, a runtime or a boundary deals with (`Accepted.highestRatings`). What is
nested in a boundary adds its assets to it, so ratings go up with the nesting and are the same all
around a circle.
-/

namespace ThreatModel

namespace Model

open Relation (ReflTransGen)

variable {m : Model} {b c : TrustBoundary}

/-- The assets that lie in a boundary or in one that is nested in it, however deep. -/
def assetsBelow (m : Model) (b : TrustBoundary) : Set TechnicalAsset :=
  {a | a ∈ m.technicalAssets.values ∧
    ∃ c, ReflTransGen (Nests m.trustBoundaries) b c ∧ a.id ∈ c.assetsInside}

/-- Each highest rating of a model is the least upper bound over what an element deals with. -/
structure HighestRatings (m : Model) : Prop where
  asset : ∀ a ∈ m.technicalAssets.values,
    (a.rating m).IsHighest (insert a.ownRating
      (DataAsset.rating '' {d | d ∈ m.dataAssets.values ∧ d.id ∈ a.dataProcessed ++ a.dataStored}))
  link : ∀ l ∈ m.links,
    (l.rating m).IsHighest
      (DataAsset.rating '' {d | d ∈ m.dataAssets.values ∧ d.id ∈ l.dataSent ++ l.dataReceived})
  runtime : ∀ r ∈ m.sharedRuntimes.values,
    (r.rating m).IsHighest
      ((·.rating m) '' {a | a ∈ m.technicalAssets.values ∧ a.id ∈ r.assetsRunning})
  boundary : ∀ b ∈ m.trustBoundaries.values, (b.rating m).IsHighest ((·.rating m) '' m.assetsBelow b)

/-- No highest rating of a model is above the one in another model. -/
structure RatingsRise (m m' : Model) : Prop where
  asset : ∀ a : TechnicalAsset, a.rating m ≤ a.rating m'
  link : ∀ l : Link, l.rating m ≤ l.rating m'
  runtime : ∀ r : SharedRuntime, r.rating m ≤ r.rating m'
  boundary : ∀ b : TrustBoundary, b.rating m ≤ b.rating m'

namespace Accepted

theorem isLUB_rating_boundary (h : m.Accepted) (hb : b ∈ m.trustBoundaries.values) :
    IsLUB ((·.rating m) '' m.assetsBelow b) (b.rating m) := by
  refine Rating.isLUB_highest_lowest fun a => ?_
  rw [h.coherent.technicalAssets.mem_filterMap_get?_iff, assetsWithin, List.mem_flatMap]
  simp only [h.mem_boundariesWithin_iff hb]
  rfl

theorem highestRatings (h : m.Accepted) : m.HighestRatings where
  asset a _ := by
    refine Rating.isHighest_of_isLUB (Rating.isLUB_highest fun d => ?_)
    exact h.coherent.dataAssets.mem_filterMap_get?_iff
  link l _ := by
    refine Rating.isHighest_of_isLUB (Rating.isLUB_highest_lowest fun d => ?_)
    exact h.coherent.dataAssets.mem_filterMap_get?_iff
  runtime r _ := by
    refine Rating.isHighest_of_isLUB (Rating.isLUB_highest_lowest fun a => ?_)
    exact h.coherent.technicalAssets.mem_filterMap_get?_iff
  boundary b hb := Rating.isHighest_of_isLUB (h.isLUB_rating_boundary hb)

/-! ## Along the nesting -/

theorem assetsBelow_subset (hdown : ReflTransGen (Nests m.trustBoundaries) b c) :
    m.assetsBelow c ⊆ m.assetsBelow b :=
  fun _ ⟨ha, u, hu, hin⟩ => ⟨ha, u, hdown.trans hu, hin⟩

/-- A boundary is rated at least as high as what is nested in it. -/
theorem rating_le_of_nests (h : m.Accepted) (hb : b ∈ m.trustBoundaries.values)
    (hdown : ReflTransGen (Nests m.trustBoundaries) b c) : c.rating m ≤ b.rating m :=
  (h.isLUB_rating_boundary (h.mem_values_of_nests hb hdown)).mono (h.isLUB_rating_boundary hb)
    (Set.image_mono (assetsBelow_subset hdown))

end Accepted

/-! ## Data that is rated higher -/

theorem RaisedBy.insert {d e : DataAsset} (hd : m.dataAssets.get? d.id = some d) (he : d.Raised e) :
    m.RaisedBy (m.dataAssets.insert d.id e) := by
  intro k
  rw [Dict.get?_insert]
  split
  · next heq =>
    rw [heq, hd]
    exact .some he
  · cases m.dataAssets.get? k with
    | none => exact .none
    | some x => exact .some ⟨rfl, le_rfl⟩

theorem RaisedBy.ratingsRise {data : Dict DataAsset} (h : m.RaisedBy data) :
    m.RatingsRise (m.withData data) where
  asset := h.rating_asset
  link := h.rating_link
  runtime := h.rating_runtime
  boundary := h.rating_boundary

/-- In a checked model the highest ratings are least upper bounds. So a boundary is rated at least as
high as what is nested in it, on a circle all are rated the same, and data that is rated higher makes no
highest rating lower. -/
theorem highest_ratings_least_upper_bounds (h : m.Accepted) :
    m.HighestRatings ∧ (∀ r : Rating, r.IsHighest ∅ ↔ r = .lowest) ∧
      (∀ b ∈ m.trustBoundaries.values, ∀ c, ReflTransGen (Nests m.trustBoundaries) b c →
        c.rating m ≤ b.rating m ∧
          (ReflTransGen (Nests m.trustBoundaries) c b → c.rating m = b.rating m)) ∧
      ∀ d ∈ m.dataAssets.values, ∀ e, d.Raised e →
        m.RatingsRise (m.withData (m.dataAssets.insert d.id e)) := by
  refine ⟨h.highestRatings, fun r => Rating.isHighest_empty_iff, fun b hb c hdown => ?_,
    fun d hd e he => ?_⟩
  · have hle := h.rating_le_of_nests hb hdown
    exact ⟨hle, fun hup =>
      le_antisymm hle (h.rating_le_of_nests (h.mem_values_of_nests hb hdown) hup)⟩
  · exact (RaisedBy.insert (h.coherent.dataAssets.get?_of_mem hd) he).ratingsRise

end Model

/-- In the shop with the ring both boundaries are rated the same, and they are rated at least as high
with orders that are strictly confidential. -/
theorem ringedShop_highest_ratings :
    ∃ m, Validation.build ⟨2024, 3, 1⟩ ringedShop = .ok m ∧
      ∃ cloud ∈ m.trustBoundaries.get? "cloud", ∃ vault ∈ m.trustBoundaries.get? "vault",
        ∃ orders ∈ m.dataAssets.get? "orders",
          (vault.rating m).IsHighest ((·.rating m) '' m.assetsBelow vault) ∧
            vault.rating m = cloud.rating m ∧ orders.confidentiality = .confidential ∧
            m.RatingsRise (m.withData (m.dataAssets.insert orders.id
              { orders with confidentiality := .strictlyConfidential })) := by
  have hchecked : (Validation.build ⟨2024, 3, 1⟩ ringedShop).toOption.map (fun m =>
      decide (∃ cloud ∈ m.trustBoundaries.get? "cloud", ∃ vault ∈ m.trustBoundaries.get? "vault",
        "vault" ∈ cloud.nested ∧ "cloud" ∈ vault.nested ∧
          ∃ orders ∈ m.dataAssets.get? "orders", orders.confidentiality = .confidential)) =
        some true := by
    decide +kernel
  obtain ⟨m, hm, hchecked⟩ := Model.exists_of_build hchecked
  obtain ⟨cloud, hcloud, vault, hvault, hdown, hup, orders, horders, hrated⟩ :=
    of_decide_eq_true hchecked
  obtain ⟨hhighest, -, hnesting, hraised⟩ :=
    Model.highest_ratings_least_upper_bounds (Model.Accepted.of_build hm)
  have hdown : Relation.ReflTransGen (Model.Nests m.trustBoundaries) cloud vault :=
    .single ⟨"vault", hdown, hvault⟩
  have hup : Relation.ReflTransGen (Model.Nests m.trustBoundaries) vault cloud :=
    .single ⟨"cloud", hup, hcloud⟩
  refine ⟨m, hm, cloud, hcloud, vault, hvault, orders, horders,
    hhighest.boundary vault (Dict.mem_values_of_get? hvault),
    (hnesting cloud (Dict.mem_values_of_get? hcloud) vault hdown).2 hup, hrated, ?_⟩
  refine hraised orders (Dict.mem_values_of_get? horders) _ ⟨rfl, ?_, Nat.le_refl _, Nat.le_refl _⟩
  show orders.confidentiality ≤ .strictlyConfidential
  rw [hrated]
  decide

end ThreatModel
