import ThreatModel.Attractiveness.Scores
import ThreatModel.Proofs.Model.Neighbours
import ThreatModel.Proofs.Model.Sensitivity
import ThreatModel.Rule.Necessity

/-!
# Data that is in use

Data enters what is said about a model only through the four lists of ids that assets and links
carry. So data that is in none of them can be exchanged (`Model.AgreesInUse`): every list that is
looked up gives the same data as before, and with it all ratings and scores stay.
-/

namespace ThreatModel

open BuiltinRule (dataInUse)

namespace Model

/-- Some data is that of a model as far as it is in use there. -/
def AgreesInUse (m : Model) (data : Dict DataAsset) : Prop :=
  ∀ id ∈ dataInUse m, data.get? id = m.dataAssets.get? id

/-- The model without the data asset of an id. -/
def withoutData (m : Model) (id : String) : Model := m.withData (m.dataAssets.erase id)

theorem agreesInUse_erase {m : Model} {id : String} (h : id ∉ dataInUse m) :
    m.AgreesInUse (m.dataAssets.erase id) := by
  intro id' hid'
  have hother : id' ≠ id := fun heq => h (heq ▸ hid')
  rw [Dict.get?_erase, if_neg hother]

/-! ## Where data is used -/

theorem heldData_subset {m : Model} {a : TechnicalAsset} (ha : a ∈ m.technicalAssets.values) :
    a.heldData ⊆ dataInUse m := fun _ hid =>
  List.mem_flatMap.2 ⟨a, ha, List.mem_append_left _ hid⟩

theorem linksData_subset {m : Model} {a : TechnicalAsset} (ha : a ∈ m.technicalAssets.values) :
    a.links.flatMap (·.data) ⊆ dataInUse m := fun _ hid =>
  List.mem_flatMap.2 ⟨a, ha, List.mem_append_right _ hid⟩

theorem linkData_subset {m : Model} {l : Link} (hl : l ∈ m.links) : l.data ⊆ dataInUse m := by
  obtain ⟨a, ha, hl⟩ := List.mem_flatMap.1 hl
  exact fun _ hid => linksData_subset ha (List.mem_flatMap.2 ⟨l, hl, hid⟩)

/-- Data that is not in use is in none of the lists that assets and links carry. -/
theorem not_mem_dataInUse_iff {m : Model} {id : String} :
    id ∉ dataInUse m ↔ ∀ a ∈ m.technicalAssets.values, id ∉ a.dataProcessed ∧ id ∉ a.dataStored ∧
      ∀ l ∈ a.links, id ∉ l.dataSent ∧ id ∉ l.dataReceived := by
  simp only [dataInUse, TechnicalAsset.heldData, Link.data, List.mem_flatMap, List.mem_append,
    not_exists, not_and, not_or]
  exact forall₂_congr fun a _ => and_assoc

namespace AgreesInUse

variable {m : Model} {data : Dict DataAsset} (h : m.AgreesInUse data)

include h

/-! ## Data and ratings -/

theorem dataOf {ids : List String} (hids : ids ⊆ dataInUse m) :
    (m.withData data).dataOf ids = m.dataOf ids :=
  List.filterMap_congr fun id hid => h id (hids hid)

theorem rating_asset {a : TechnicalAsset} (ha : a ∈ m.technicalAssets.values) :
    a.rating (m.withData data) = a.rating m := by
  rw [TechnicalAsset.rating, TechnicalAsset.rating, h.dataOf (heldData_subset ha)]

theorem rating_link {l : Link} (hl : l ∈ m.links) : l.rating (m.withData data) = l.rating m := by
  rw [Link.rating, Link.rating, h.dataOf (linkData_subset hl)]

theorem ratingOf (ids : List String) : (m.withData data).ratingOf ids = m.ratingOf ids := by
  refine congrArg (Rating.highest .lowest) (List.map_congr_left fun a ha => ?_)
  obtain ⟨id, -, hid⟩ := List.mem_filterMap.1 ha
  exact h.rating_asset (Dict.mem_values_of_get? hid)

theorem rating_boundary (b : TrustBoundary) : b.rating (m.withData data) = b.rating m :=
  h.ratingOf _

theorem rating_runtime (s : SharedRuntime) : s.rating (m.withData data) = s.rating m :=
  h.ratingOf _

/-! ## Scores -/

variable {ν : Type} [Scalar ν]

theorem owns : (Attractiveness.owns (m.withData data) : Dict ν) = Attractiveness.owns m := by
  refine congrArg Dict.ofList (List.map_congr_left fun a ha => congrArg (Prod.mk a.id) ?_)
  have hweight : Attractiveness.weight (m.withData data) a = Attractiveness.weight m a := by
    rw [Attractiveness.weight, Attractiveness.weight, h.dataOf (heldData_subset ha),
      h.dataOf (linksData_subset ha)]
  rw [Attractiveness.own, Attractiveness.own, hweight]

/-- The scores follow from the assets and from how attractive these are by themselves. -/
theorem scores : (Attractiveness.scores (m.withData data) : Dict ν) = Attractiveness.scores m := by
  rw [Attractiveness.scores, Attractiveness.scores, h.owns]
  rfl

end AgreesInUse

end Model

end ThreatModel
