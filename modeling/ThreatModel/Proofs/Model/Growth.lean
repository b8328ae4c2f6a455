import ThreatModel.Model.Protection
import ThreatModel.Proofs.Model.Neighbours

/-!
# One more asset

An asset that nothing refers to and that refers to nothing leaves a model as it was for all other
assets (`Model.Joining`): the index stays, the links stay, and whatever is looked up by an id of the
model is found as before. The new asset only appears where all assets are listed.
-/

namespace ThreatModel

/-- An asset that has no links, data, tags and custom parts, is rated lowest and whose technology no
rule asks a model for. -/
structure TechnicalAsset.Unrelated (a : TechnicalAsset) : Prop where
  links : a.links = []
  dataProcessed : a.dataProcessed = []
  dataStored : a.dataStored = []
  tags : a.tags = []
  customDevelopedParts : a.customDevelopedParts = false
  rating : a.ownRating = .lowest
  technology : a.technology ∉ [.vault, .identityStoreLdap, .identityStoreDatabase, .buildPipeline,
    .sourcecodeRepository, .devOpsClient]

namespace Model

/-- The model with one more technical asset, apart from its index. -/
def withAsset (m : Model) (a : TechnicalAsset) : Model :=
  { m with technicalAssets := m.technicalAssets.insert a.id a }

/-- The model with one more technical asset. -/
def addAsset (m : Model) (a : TechnicalAsset) : Model := (m.withAsset a).reindex

/-- An unrelated asset can be added to a model. -/
structure Joining (m : Model) (a : TechnicalAsset) : Prop where
  coherent : m.Coherent
  fresh : m.technicalAssets.contains a.id = false
  unrelated : a.Unrelated

namespace Joining

variable {m : Model} {a : TechnicalAsset} (h : m.Joining a)

include h

/-! ## All assets -/

theorem exists_values : ∃ before after, m.technicalAssets.values = before ++ after ∧
    (m.withAsset a).technicalAssets.values = before ++ a :: after :=
  Dict.exists_values_insert a h.fresh

theorem subset_values : m.technicalAssets.values ⊆ (m.withAsset a).technicalAssets.values := by
  obtain ⟨before, after, hold, hnew⟩ := h.exists_values
  rw [hold, hnew]
  simp

theorem subset_inScope : m.inScope ⊆ (m.withAsset a).inScope := by
  intro b hb
  obtain ⟨hb, hscope⟩ := List.mem_filter.1 hb
  exact List.mem_filter.2 ⟨h.subset_values hb, hscope⟩

theorem filter_values {p : TechnicalAsset → Bool} (hp : p a = false) :
    (m.withAsset a).technicalAssets.values.filter p = m.technicalAssets.values.filter p := by
  obtain ⟨before, after, hold, hnew⟩ := h.exists_values
  rw [hold, hnew]
  simp [hp]

theorem any_values {p : TechnicalAsset → Bool} (hp : p a = false) :
    (m.withAsset a).technicalAssets.values.any p = m.technicalAssets.values.any p := by
  obtain ⟨before, after, hold, hnew⟩ := h.exists_values
  rw [hold, hnew]
  simp [hp]

theorem flatMap_values {α : Type} {f : TechnicalAsset → List α} (hf : f a = []) :
    (m.withAsset a).technicalAssets.values.flatMap f = m.technicalAssets.values.flatMap f := by
  obtain ⟨before, after, hold, hnew⟩ := h.exists_values
  rw [hold, hnew]
  simp [hf]

theorem filter_inScope {p : TechnicalAsset → Bool} (hp : p a = false) :
    (m.withAsset a).inScope.filter p = m.inScope.filter p := by
  rw [inScope, inScope, List.filter_filter, List.filter_filter]
  exact h.filter_values (by simp [hp])

theorem any_inScope {p : TechnicalAsset → Bool} (hp : p a = false) :
    (m.withAsset a).inScope.any p = m.inScope.any p := by
  rw [inScope, inScope, List.any_filter, List.any_filter]
  exact h.any_values (by simp [hp])

theorem flatMap_inScope {α : Type} {p : TechnicalAsset → Bool} {f : TechnicalAsset → List α}
    (hf : f a = []) :
    ((m.withAsset a).inScope.filter p).flatMap f = (m.inScope.filter p).flatMap f := by
  obtain ⟨before, after, hold, hnew⟩ := h.exists_values
  rw [inScope, inScope, hold, hnew, List.filter_filter, List.filter_filter, List.filter_append,
    List.filter_append, List.filter_cons]
  split
  · simp [hf]
  · rfl

/-! ## The index -/

theorem links_withAsset : (m.withAsset a).links = m.links := h.flatMap_values h.unrelated.links

/-- The links and the boundaries are the same, and with them the index. -/
theorem addAsset_eq : m.addAsset a = m.withAsset a := by
  have hindex : m.buildIndex = m.index := congrArg Model.index h.coherent.index
  rw [addAsset, reindex, buildIndex, h.links_withAsset]
  exact congrArg (fun i => { m.withAsset a with index := i }) hindex

theorem incomingLinks_self : m.incomingLinks a.id = [] := by
  rw [h.coherent.incomingLinks_eq, List.filter_eq_nil_iff]
  intro l hl
  have hknown := h.coherent.targets l hl
  have hfresh := h.fresh
  simp only [decide_eq_true_eq]
  intro heq
  rw [heq, hfresh] at hknown
  cases hknown

theorem directBoundary_self : m.directBoundary a.id = none := by
  rw [← h.coherent.index, directBoundary_reindex, List.find?_eq_none.2, Option.bind_none]
  intro b hb hid
  have hknown := h.coherent.inside b hb a.id (of_decide_eq_true hid)
  rw [h.fresh] at hknown
  cases hknown

/-! ## Looking up -/

theorem get?_withAsset {id : String} (hid : m.technicalAssets.contains id = true) :
    (m.withAsset a).technicalAssets.get? id = m.technicalAssets.get? id := by
  rw [withAsset, Dict.get?_insert, if_neg]
  intro heq
  rw [heq, h.fresh] at hid
  cases hid

theorem contains_source {l : Link} (hl : l ∈ m.links) :
    m.technicalAssets.contains l.sourceId = true := by
  obtain ⟨owner, howner, hl⟩ := List.mem_flatMap.1 hl
  exact Dict.contains_eq_true_iff.2 ⟨owner, h.coherent.get?_source howner hl⟩

theorem get?_source_withAsset {l : Link} (hl : l ∈ m.links) :
    (m.withAsset a).technicalAssets.get? l.sourceId = m.technicalAssets.get? l.sourceId :=
  h.get?_withAsset (h.contains_source hl)

theorem target?_withAsset {l : Link} (hl : l ∈ m.links) :
    (m.withAsset a).target? l = m.target? l := h.get?_withAsset (h.coherent.targets l hl)

theorem filterMap_withAsset {ids : List String}
    (hids : ∀ id ∈ ids, m.technicalAssets.contains id = true) :
    ids.filterMap (m.withAsset a).technicalAssets.get? = ids.filterMap m.technicalAssets.get? :=
  List.filterMap_congr fun id hid => h.get?_withAsset (hids id hid)

theorem mem_links_of_mem_incomingLinks {l : Link} {id : String} (hl : l ∈ m.incomingLinks id) :
    l ∈ m.links := by
  rw [h.coherent.incomingLinks_eq] at hl
  exact List.mem_of_mem_filter hl

theorem accesses_withAsset (id : String) : (m.withAsset a).accesses id = m.accesses id := by
  refine List.filterMap_congr fun l hl => ?_
  rw [h.get?_source_withAsset (h.mem_links_of_mem_incomingLinks hl)]

theorem accesses_self : m.accesses a.id = [] := by
  rw [accesses, h.incomingLinks_self]
  rfl

/-! ## Ratings -/

theorem ratingOf_withAsset {ids : List String}
    (hids : ∀ id ∈ ids, m.technicalAssets.contains id = true) :
    (m.withAsset a).ratingOf ids = m.ratingOf ids := by
  rw [ratingOf, h.filterMap_withAsset hids]
  rfl

theorem rating_self : a.rating m = .lowest := by
  rw [TechnicalAsset.rating, TechnicalAsset.heldData, h.unrelated.dataProcessed,
    h.unrelated.dataStored, h.unrelated.rating]
  rfl

end Joining

end Model

end ThreatModel
