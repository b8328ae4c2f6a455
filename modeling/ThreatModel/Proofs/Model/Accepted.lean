import ThreatModel.Proofs.Risk.Identity
import ThreatModel.Proofs.Validation.WellFormed

/-!
# Models that rules are run on

Rules are run on a model that validation has accepted and whose assets may have been scored since
(`Model.Accepted`). Scores touch nothing that the invariant speaks of, so it holds then as well, and
with it the form of link ids, which keeps them apart when they are joined with other ids
(`Model.Coherent`). All that is shown about single rules starts from here.
-/

namespace ThreatModel

open Validation

namespace Model

/-- The model with other scores of its assets. -/
def rescored (m : Model) (raa : String → Float) : Model :=
  { m with technicalAssets := m.technicalAssets.mapWithKey fun id a => { a with raa := raa id } }

/-- A model that validation has accepted, with any scores of its assets. -/
def Accepted (m : Model) : Prop :=
  ∃ today x accepted raa, build today x = .ok accepted ∧ m = accepted.rescored raa

/-- The invariant of checked models together with the form of link ids. -/
structure Coherent (m : Model) : Prop extends m.WellFormed where
  link_id : ∀ l ∈ m.links, ∃ title, l.id = l.sourceId ++ ">" ++ Text.slug title

/-! ## Scores -/

variable {m : Model} {raa : String → Float}

/-- Every asset is one of the model before, up to its score. -/
theorem exists_of_mem_rescored {a : TechnicalAsset}
    (ha : a ∈ (m.rescored raa).technicalAssets.values) :
    ∃ b ∈ m.technicalAssets.values, a = { b with raa := a.raa } := by
  obtain ⟨id, hid⟩ := Dict.mem_values_iff.1 ha
  rw [rescored, Dict.get?_mapWithKey, Option.map_eq_some_iff] at hid
  obtain ⟨b, hb, rfl⟩ := hid
  exact ⟨b, Dict.mem_values_of_get? hb, rfl⟩

theorem flatMap_rescored {α : Type} (f : TechnicalAsset → List α)
    (hf : ∀ a raa, f { a with raa := raa } = f a) :
    (m.rescored raa).technicalAssets.values.flatMap f = m.technicalAssets.values.flatMap f := by
  simp only [rescored, Dict.mapWithKey, Dict.values, List.map_map, List.flatMap_map]
  exact List.flatMap_congr fun e _ => hf e.2 _

theorem links_rescored : (m.rescored raa).links = m.links :=
  flatMap_rescored (·.links) fun _ _ => rfl

theorem contains_rescored (id : String) :
    (m.rescored raa).technicalAssets.contains id = m.technicalAssets.contains id := by
  rw [Dict.contains, rescored, Dict.get?_mapWithKey, Option.isSome_map]
  rfl

theorem elementTags_rescored : (m.rescored raa).elementTags = m.elementTags := by
  rw [elementTags, links_rescored, flatMap_rescored (·.tags) fun _ _ => rfl]
  rfl

/-- An index that fits the graph fits it whatever the scores are. -/
theorem reindex_rescored (h : m.reindex = m) : (m.rescored raa).reindex = m.rescored raa := by
  have hindex : m.buildIndex = m.index := congrArg Model.index h
  rw [reindex, buildIndex, links_rescored]
  exact congrArg (fun i => { m.rescored raa with index := i }) hindex

/-- The scores of the assets are no part of the invariant. -/
theorem WellFormed.rescored (h : m.WellFormed) : (m.rescored raa).WellFormed where
  dataAssets := h.dataAssets
  technicalAssets k a ha := by
    rw [Model.rescored, Dict.get?_mapWithKey, Option.map_eq_some_iff] at ha
    obtain ⟨b, hb, rfl⟩ := ha
    exact h.technicalAssets k b hb
  trustBoundaries := h.trustBoundaries
  sharedRuntimes := h.sharedRuntimes
  individualCategories := h.individualCategories
  assetData a ha := by
    obtain ⟨b, hb, heq⟩ := exists_of_mem_rescored ha
    rw [heq]
    exact h.assetData b hb
  linkData l hl := by
    rw [links_rescored] at hl
    exact h.linkData l hl
  targets l hl := by
    rw [links_rescored] at hl
    rw [contains_rescored]
    exact h.targets l hl
  inside b hb id hid := (contains_rescored id).trans (h.inside b hb id hid)
  nested := h.nested
  running r hr id hid := (contains_rescored id).trans (h.running r hr id hid)
  risks c hc r hr := by
    obtain ⟨hdata, hasset, hlink, hboundary, hruntime, hbreach⟩ := h.risks c hc r hr
    exact ⟨hdata, fun id hid => (contains_rescored id).trans (hasset id hid), hlink, hboundary,
      hruntime, fun id hid => (contains_rescored id).trans (hbreach id hid)⟩
  inside_nodup := h.inside_nodup
  tags_available tag htag := by
    rw [elementTags_rescored] at htag
    exact h.tags_available tag htag
  tags_folded := h.tags_folded
  link_source a ha := by
    obtain ⟨b, hb, heq⟩ := exists_of_mem_rescored ha
    rw [heq]
    exact h.link_source b hb
  link_ids_nodup := by
    rw [links_rescored]
    exact h.link_ids_nodup
  links_sorted a ha := by
    obtain ⟨b, hb, heq⟩ := exists_of_mem_rescored ha
    rw [heq]
    exact h.links_sorted b hb
  link?_of_mem l hl := by
    rw [links_rescored] at hl
    exact h.link?_of_mem l hl
  risk_ids := h.risk_ids
  tracking := h.tracking
  index := reindex_rescored h.index

/-! ## Accepted models -/

/-- What validation has accepted is accepted. -/
theorem Accepted.of_build {today : Date} {x : ModelInput} (h : build today x = .ok m) :
    m.Accepted := by
  refine ⟨today, x, m, fun id => ((m.technicalAssets.get? id).map (·.raa)).getD 0, h, ?_⟩
  have hassets : m.technicalAssets.mapWithKey (fun id a =>
      { a with raa := ((m.technicalAssets.get? id).map (·.raa)).getD 0 }) = m.technicalAssets := by
    refine Dict.ext_get? fun k => ?_
    rw [Dict.get?_mapWithKey]
    cases hk : m.technicalAssets.get? k with
    | none => rfl
    | some a => simp
  rw [rescored, hassets]

/-- What is computed from a model that validation accepts is computed from an accepted one. -/
theorem exists_of_build {α : Type} {today : Date} {x : ModelInput} {f : Model → α} {v : α}
    (h : (build today x).toOption.map f = some v) : ∃ m, build today x = .ok m ∧ f m = v :=
  exists_eq_ok_of_map h

/-- What holds of a model that validation accepts is found by evaluating it there. -/
theorem exists_of_build_decide {today : Date} {x : ModelInput} {p : Model → Prop} [DecidablePred p]
    (h : (build today x).toOption.map (fun m => decide (p m)) = some true) :
    ∃ m, build today x = .ok m ∧ p m := by
  obtain ⟨m, hm, hp⟩ := exists_of_build h
  exact ⟨m, hm, of_decide_eq_true hp⟩

theorem Accepted.coherent (h : m.Accepted) : m.Coherent := by
  obtain ⟨today, x, accepted, raa, hbuild, rfl⟩ := h
  obtain ⟨p, hp, rfl⟩ := build_eq_ok_iff.1 hbuild
  refine ⟨hp.wellFormed.rescored, fun l hl => ?_⟩
  rw [links_rescored] at hl
  obtain ⟨a, ha, hl⟩ := List.mem_flatMap.1 hl
  obtain ⟨hsource, title, hid⟩ := (hp.technicalAsset_of_mem ha).2.2 l hl
  exact ⟨title, hsource ▸ hid⟩

end Model

end ThreatModel
