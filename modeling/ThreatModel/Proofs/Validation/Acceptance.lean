import Mathlib.Tactic.MkIffOfInductiveProp
import ThreatModel.Proofs.Model.Index
import ThreatModel.Proofs.Validation.Build

/-!
# Which models are accepted

`ModelInput.Valid` says of a stated model alone, without any order of checks, that it is acceptable:
words stand for values, ids are ids and distinct within their kind, what is referred to is stated
somewhere. `build_accepts_iff` proves that validation accepts exactly these. The checks are made
against collections that are still growing; the main argument is that each collection is complete
when it is first looked at, so that a lookup in it asks for the stated ids (`Parts.Knows`).
-/

namespace ThreatModel

open Validation

/-! ## Acceptable texts -/

/-- A text is a word of a value set, up to blanks around it and the case of ASCII letters. -/
def IsWord (α : Type) [ValueSet α] (text : String) : Prop :=
  ∃ v ∈ (ValueSet.all : List α), ValueSet.sameWord (ValueSet.word v) (Text.trim text) = true

/-- A text is a word of a value set or blank. -/
def IsWordOrBlank (α : Type) [ValueSet α] (text : String) : Prop :=
  Text.trim text = "" ∨ IsWord α text

/-- A text is a date in the form of model files or blank. -/
def IsDateOrBlank (text : String) : Prop :=
  Text.trim text = "" ∨ (Date.parse? (Text.trim text)).isSome = true

/-- A text is, up to blanks around it, one of some ids, or blank. -/
def IsReferenceOrBlank (ids : List String) (text : String) : Prop :=
  Text.trim text = "" ∨ Text.trim text ∈ ids

/-! ## What a stated model declares -/

namespace ModelInput

def dataIds (m : ModelInput) : List String := m.dataAssets.values.map (·.id)

def assetIds (m : ModelInput) : List String := m.technicalAssets.values.map (·.id)

def boundaryIds (m : ModelInput) : List String := m.trustBoundaries.values.map (·.id)

def runtimeIds (m : ModelInput) : List String := m.sharedRuntimes.values.map (·.id)

def categoryIds (m : ModelInput) : List String := m.individualCategories.values.map (·.id)

/-- The ids of all links: the id of the source and the slug of the title. -/
def linkIds (m : ModelInput) : List String :=
  m.technicalAssets.values.flatMap fun a => a.links.keys.map (linkId a.id)

/-- The members of all trust boundaries. -/
def inside (m : ModelInput) : List String := m.trustBoundaries.values.flatMap (·.assetsInside)

end ModelInput

/-! ## Acceptable elements -/

/-- A data asset is acceptable in a stated model `m`. -/
@[mk_iff] structure DataAssetInput.Valid (m : ModelInput) (x : DataAssetInput) : Prop where
  id : IsId x.id
  usage : IsWordOrBlank Usage x.usage
  tags : ∀ tag ∈ x.tags, Text.fold tag ∈ tagsOf m
  quantity : IsWord Quantity x.quantity
  confidentiality : IsWord Confidentiality x.confidentiality
  integrity : IsWord Criticality x.integrity
  availability : IsWord Criticality x.availability

/-- A link is acceptable in a stated model `m`, apart from its title. -/
@[mk_iff] structure LinkInput.Valid (m : ModelInput) (x : LinkInput) : Prop where
  target : x.target ∈ m.assetIds
  data : ∀ id ∈ x.dataSent ++ x.dataReceived, id ∈ m.dataIds
  protocol : IsWord Protocol x.protocol
  tags : ∀ tag ∈ x.tags, Text.fold tag ∈ tagsOf m
  authentication : IsWord Authentication x.authentication
  authorization : IsWord Authorization x.authorization
  usage : IsWord Usage x.usage

/-- A technical asset is acceptable in a stated model `m`. The slugs of its link titles differ. -/
@[mk_iff] structure TechnicalAssetInput.Valid (m : ModelInput) (x : TechnicalAssetInput) :
    Prop where
  id : IsId x.id
  data : ∀ id ∈ x.dataProcessed ++ x.dataStored, id ∈ m.dataIds
  formats : ∀ text ∈ x.formatsAccepted, IsWord DataFormat text
  links : ∀ l ∈ x.links.values, l.Valid m
  slugs : (x.links.keys.map Text.slug).Nodup
  kind : IsWord AssetKind x.kind
  usage : IsWord Usage x.usage
  size : IsWord AssetSize x.size
  technology : IsWord Technology x.technology
  machine : IsWord Machine x.machine
  encryption : IsWord Encryption x.encryption
  confidentiality : IsWord Confidentiality x.confidentiality
  integrity : IsWord Criticality x.integrity
  availability : IsWord Criticality x.availability
  tags : ∀ tag ∈ x.tags, Text.fold tag ∈ tagsOf m

/-- A trust boundary is acceptable in a stated model `m`. -/
@[mk_iff] structure TrustBoundaryInput.Valid (m : ModelInput) (x : TrustBoundaryInput) : Prop where
  id : IsId x.id
  kind : IsWord BoundaryKind x.kind
  tags : ∀ tag ∈ x.tags, Text.fold tag ∈ tagsOf m
  inside : ∀ id ∈ x.assetsInside, id ∈ m.assetIds
  nested : ∀ id ∈ x.nested, id ∈ m.boundaryIds

/-- A shared runtime is acceptable in a stated model `m`. -/
@[mk_iff] structure SharedRuntimeInput.Valid (m : ModelInput) (x : SharedRuntimeInput) : Prop where
  id : IsId x.id
  running : ∀ id ∈ x.assetsRunning, id ∈ m.assetIds
  tags : ∀ tag ∈ x.tags, Text.fold tag ∈ tagsOf m

/-- A risk of an individual category is acceptable in a stated model `m`. -/
@[mk_iff] structure IndividualRiskInput.Valid (m : ModelInput) (x : IndividualRiskInput) :
    Prop where
  severity : IsWordOrBlank Severity x.severity
  likelihood : IsWordOrBlank Likelihood x.likelihood
  impact : IsWordOrBlank Impact x.impact
  breachProbability : IsWordOrBlank BreachProbability x.breachProbability
  dataAsset : IsReferenceOrBlank m.dataIds x.dataAsset
  technicalAsset : IsReferenceOrBlank m.assetIds x.technicalAsset
  link : IsReferenceOrBlank m.linkIds x.link
  boundary : IsReferenceOrBlank m.boundaryIds x.boundary
  runtime : IsReferenceOrBlank m.runtimeIds x.runtime
  breachAssets : ∀ id ∈ x.breachAssets, id ∈ m.assetIds

/-- An individual category is acceptable in a stated model `m`. -/
@[mk_iff] structure IndividualCategoryInput.Valid (m : ModelInput) (x : IndividualCategoryInput) :
    Prop where
  id : IsId x.id
  function : IsWord Responsibility x.function
  stride : IsWord Stride x.stride
  risks : ∀ r ∈ x.risks.values, r.Valid m

/-- A tracking record is acceptable. -/
@[mk_iff] structure TrackingInput.Valid (x : TrackingInput) : Prop where
  date : IsDateOrBlank x.date
  status : IsWord RiskStatus x.status

/-- A stated model is acceptable. -/
structure ModelInput.Valid (m : ModelInput) : Prop where
  businessCriticality : IsWord Criticality m.businessCriticality
  date : IsDateOrBlank m.date
  dataAssets : ∀ d ∈ m.dataAssets.values, d.Valid m
  dataIds_nodup : m.dataIds.Nodup
  technicalAssets : ∀ a ∈ m.technicalAssets.values, a.Valid m
  assetIds_nodup : m.assetIds.Nodup
  trustBoundaries : ∀ b ∈ m.trustBoundaries.values, b.Valid m
  boundaryIds_nodup : m.boundaryIds.Nodup
  /-- No asset is listed twice over all boundaries. -/
  inside_nodup : m.inside.Nodup
  sharedRuntimes : ∀ r ∈ m.sharedRuntimes.values, r.Valid m
  runtimeIds_nodup : m.runtimeIds.Nodup
  individualCategories : ∀ c ∈ m.individualCategories.values, c.Valid m
  categoryIds_nodup : m.categoryIds.Nodup
  tracking : ∀ r ∈ m.tracking.values, r.Valid
  tracking_nodup : (m.tracking.keys.map Text.fold).Nodup

namespace Validation

/-! ## When a sequence of checks succeeds -/

section Sequences

variable {ε α β : Type}

theorem exists_bind_iff {x : Except ε α} {f : α → Except ε β} :
    (∃ b, (x >>= f) = .ok b) ↔ ∃ a, x = .ok a ∧ ∃ b, f a = .ok b := by
  simp only [bind_eq_ok_iff]
  rw [exists_comm]
  simp only [exists_and_left]

theorem exists_pure_iff {a : α} : (∃ b, (pure a : Except ε α) = .ok b) ↔ True :=
  ⟨fun _ => trivial, fun _ => ⟨a, rfl⟩⟩

theorem exists_mapM_iff {f : α → Except ε β} {l : List α} :
    (∃ l', l.mapM f = .ok l') ↔ ∀ x ∈ l, ∃ y, f x = .ok y := by
  simp only [mapM_eq_ok_iff, exists_forall₂_iff]

end Sequences

/-! ## When a text can be read -/

section Texts

variable {α : Type} [ValueSet α] {text : String}

theorem exists_reads_iff : (∃ v : α, Reads text v) ↔ IsWord α text := by
  rw [IsWord, ← List.find?_isSome, Option.isSome_iff_exists]
  rfl

theorem exists_readsOr_iff {default : α} :
    (∃ v, ReadsOr default text v) ↔ IsWordOrBlank α text := by
  unfold ReadsOr IsWordOrBlank
  rw [← Text.blank_eq_true_iff]
  by_cases h : Text.blank text = true
  · simp [h]
  · simp only [if_neg h, exists_reads_iff, or_iff_right h]

theorem exists_readsDate_iff : (∃ d, ReadsDate text d) ↔ IsDateOrBlank text := by
  unfold ReadsDate IsDateOrBlank
  rw [← Text.blank_eq_true_iff]
  by_cases h : Text.blank text = true
  · simp [h]
  · simp only [if_neg h, or_iff_right h]
    exact ⟨fun ⟨_, hd, heq⟩ => heq ▸ hd, fun hd => ⟨_, hd, rfl⟩⟩

theorem exists_readsReference_iff {P : String → Prop} :
    (∃ id, ReadsReference text id ∧ ∀ x ∈ id, P x) ↔ Text.trim text = "" ∨ P (Text.trim text) := by
  unfold ReadsReference
  by_cases h : Text.trim text = ""
  · simp [h]
  · simp [h]

theorem exists_folded_iff {tags available : List String} :
    (∃ folded : List String, folded = tags.map Text.fold ∧ ∀ t ∈ folded, t ∈ available) ↔
      ∀ tag ∈ tags, Text.fold tag ∈ available := by
  simp

end Texts

/-! ## When an element is accepted -/

section Elements

variable {m : ModelInput} {t : String}

theorem exists_dataAsset_iff {x : DataAssetInput} :
    (∃ d, MakesDataAsset m (t, x) d) ↔ x.Valid m := by
  simp only [MakesDataAsset, exists_and_left, dataAsset, exists_bind_iff, exists_pure_iff,
    value_eq_ok_iff, valueOr_eq_ok_iff, checkTags_eq_ok_iff, exists_and_right, and_true,
    exists_reads_iff, exists_readsOr_iff, exists_folded_iff, DataAssetInput.valid_iff]

/-- Where a link leads is not looked at with the link. -/
theorem exists_link_iff {known : Dict DataAsset}
    (hknown : ∀ id, known.contains id = true ↔ id ∈ m.dataIds) (source assetTitle t : String)
    {x : LinkInput} :
    (x.target ∈ m.assetIds ∧ ∃ l, link (tagsOf m) known source assetTitle t x = .ok l) ↔
      x.Valid m := by
  simp only [link, exists_bind_iff, exists_pure_iff, value_eq_ok_iff, checkTags_eq_ok_iff,
    checkReferences_eq_ok_iff, exists_const, hknown, exists_and_right, and_true, exists_reads_iff,
    exists_folded_iff, LinkInput.valid_iff]

theorem exists_sharedRuntime_iff {assets : Dict TechnicalAsset}
    (hassets : ∀ id, assets.contains id = true ↔ id ∈ m.assetIds) {x : SharedRuntimeInput} :
    (∃ r, MakesSharedRuntime m assets (t, x) r) ↔ x.Valid m := by
  simp only [MakesSharedRuntime, exists_and_left, sharedRuntime, exists_bind_iff, exists_pure_iff,
    checkTags_eq_ok_iff, hassets, and_true, exists_folded_iff, SharedRuntimeInput.valid_iff]

theorem exists_trackingRecord_iff {x : TrackingInput} :
    (∃ r, MakesRecord (t, x) r) ↔ x.Valid := by
  simp only [MakesRecord, trackingRecord, exists_bind_iff, exists_pure_iff, value_eq_ok_iff,
    date?_eq_ok_iff, exists_and_right, and_true, exists_reads_iff, exists_readsDate_iff,
    TrackingInput.valid_iff]

/-- A boundary's members and nested boundaries are not looked at with the boundary. -/
theorem exists_trustBoundary_iff {x : TrustBoundaryInput} :
    ((∃ b, MakesTrustBoundary m (t, x) b) ∧
      (∀ id ∈ x.assetsInside, id ∈ m.assetIds) ∧ ∀ id ∈ x.nested, id ∈ m.boundaryIds) ↔
      x.Valid m := by
  simp only [MakesTrustBoundary, exists_and_left, trustBoundary, exists_bind_iff, exists_pure_iff,
    value_eq_ok_iff, checkTags_eq_ok_iff, exists_and_right, and_true, exists_reads_iff,
    exists_folded_iff, TrustBoundaryInput.valid_iff, and_assoc]

/-- The links of an asset are accepted if each is and the slugs of their titles differ, because the
rest of their ids is the same. -/
theorem exists_links_iff {known : Dict DataAsset}
    (hknown : ∀ id, known.contains id = true ↔ id ∈ m.dataIds) (source t : String)
    (stated : Dict LinkInput) :
    ((∀ l ∈ stated.values, l.target ∈ m.assetIds) ∧
      ∃ links, stated.entries.foldlM (addLink (tagsOf m) known source t) [] = .ok links) ↔
      (∀ l ∈ stated.values, l.Valid m) ∧ (stated.keys.map Text.slug).Nodup := by
  -- The ids of the links have the same beginning, so they differ when the slugs after it do.
  have hids {links : List Link}
      (h : List.Forall₂ (fun e l => link (tagsOf m) known source t e.1 e.2 = .ok l) stated.entries
        links) : (links.map (·.id)).Nodup ↔ (stated.keys.map Text.slug).Nodup := by
    have hsame : links.map (·.id) = (stated.keys.map Text.slug).map (source ++ ">" ++ ·) := by
      rw [map_eq_of_forall₂ h fun e l hl => (link_spec hl).1.id, Dict.keys, List.map_map,
        List.map_map]
      rfl
    rw [hsame, List.nodup_map_iff fun a b => (String.append_right_inj _).1]
  simp only [Dict.values, List.forall_mem_map, foldlM_addLink_eq_ok_iff, List.map_nil,
    List.not_mem_nil, not_false_eq_true, implies_true, true_and]
  constructor
  · rintro ⟨htargets, _, links, hlinks, hnodup, rfl⟩
    refine ⟨fun e he => ?_, (hids hlinks).1 hnodup⟩
    obtain ⟨l, -, hl⟩ := exists_right_of_mem hlinks he
    exact (exists_link_iff hknown source t e.1).1 ⟨htargets e he, l, hl⟩
  · rintro ⟨hvalid, hslugs⟩
    obtain ⟨links, hlinks⟩ := exists_forall₂_iff.2 fun e he =>
      ((exists_link_iff hknown source t e.1).2 (hvalid e he)).2
    exact ⟨fun e he => (hvalid e he).target, _, links, hlinks, (hids hlinks).2 hslugs, rfl⟩

/-- Where the links of an asset lead is not looked at with the asset. -/
theorem exists_technicalAsset_iff {known : Dict DataAsset}
    (hknown : ∀ id, known.contains id = true ↔ id ∈ m.dataIds) {x : TechnicalAssetInput} :
    ((∀ l ∈ x.links.values, l.target ∈ m.assetIds) ∧
      ∃ a, MakesTechnicalAsset m known (t, x) a) ↔ x.Valid m := by
  simp only [MakesTechnicalAsset, technicalAsset, exists_bind_iff, exists_pure_iff, value_eq_ok_iff,
    checkId_eq_ok_iff, checkTags_eq_ok_iff, checkReferences_eq_ok_iff, exists_const, hknown,
    exists_and_right, and_true, exists_reads_iff, exists_mapM_iff, exists_folded_iff,
    TechnicalAssetInput.valid_iff]
  -- All conditions but that on the links have become those of a valid asset.
  have hlinks := exists_links_iff hknown x.id t x.links
  constructor
  · rintro ⟨htargets, hid, hdata, hformats, hloop, hrest⟩
    obtain ⟨hvalid, hslugs⟩ := hlinks.1 ⟨htargets, hloop⟩
    exact ⟨hid, hdata, hformats, hvalid, hslugs, hrest⟩
  · rintro ⟨hid, hdata, hformats, hvalid, hslugs, hrest⟩
    obtain ⟨htargets, hloop⟩ := hlinks.2 ⟨hvalid, hslugs⟩
    exact ⟨htargets, hid, hdata, hformats, hloop, hrest⟩

/-- A graph has exactly the elements that a stated model declares. -/
structure Knows (g : Model) (m : ModelInput) : Prop where
  dataAssets : ∀ id, g.dataAssets.contains id = true ↔ id ∈ m.dataIds
  technicalAssets : ∀ id, g.technicalAssets.contains id = true ↔ id ∈ m.assetIds
  links : ∀ id, (g.link? id).isSome = true ↔ id ∈ m.linkIds
  trustBoundaries : ∀ id, g.trustBoundaries.contains id = true ↔ id ∈ m.boundaryIds
  sharedRuntimes : ∀ id, g.sharedRuntimes.contains id = true ↔ id ∈ m.runtimeIds

theorem exists_individualRisk_iff {g : Model} (hg : Knows g m) {category : String}
    {x : IndividualRiskInput} :
    (∃ r, individualRisk g category t x = .ok r) ↔ x.Valid m := by
  simp only [individualRisk, exists_bind_iff, exists_pure_iff, valueOr_eq_ok_iff,
    reference_eq_ok_iff, checkReferences_eq_ok_iff, exists_const, exists_and_right, and_true,
    exists_readsOr_iff, exists_readsReference_iff, hg.dataAssets, hg.technicalAssets, hg.links,
    hg.trustBoundaries, hg.sharedRuntimes, IsReferenceOrBlank, IndividualRiskInput.valid_iff]

theorem exists_individualCategory_iff {g : Model} (hg : Knows g m) {x : IndividualCategoryInput} :
    (∃ c, MakesCategory g (t, x) c) ↔ x.Valid m := by
  simp only [MakesCategory, individualCategory, exists_bind_iff, exists_pure_iff, value_eq_ok_iff,
    checkId_eq_ok_iff, exists_const, exists_and_right, and_true, exists_reads_iff, exists_mapM_iff,
    exists_individualRisk_iff hg, IndividualCategoryInput.valid_iff, Dict.values,
    List.forall_mem_map]

end Elements

/-! ## Complete collections -/

section Collections

variable {α β : Type} {R : String × α → β → Prop} {key : β → String} {stated : Dict α}
  {d : Dict β}

/-- The keys of a complete collection are the stated ids. -/
theorem contains_iff_mem_ids (h : Collects R key stated.entries d) {id : α → String}
    (hid : ∀ e v, R e v → key v = id e.2) (k : String) :
    d.contains k = true ↔ k ∈ stated.values.map id := by
  rw [Dict.map_values]
  exact h.contains_iff _ hid k

/-- The stated ids of a complete collection differ, and each entry is accepted. -/
theorem accepted (h : Collects R key stated.entries d) {id : α → String}
    (hid : ∀ e v, R e v → key v = id e.2) :
    (∀ e ∈ stated.entries, ∃ v, R e v) ∧ (stated.values.map id).Nodup := by
  rw [Dict.map_values]
  exact (Collects.exists_iff _ hid).1 ⟨d, h⟩

/-- Conversely there is a complete collection then. -/
theorem exists_collects {id : α → String} (hall : ∀ t, ∀ x ∈ stated.values, ∃ v, R (t, x) v)
    (hid : ∀ e v, R e v → key v = id e.2) (hnodup : (stated.values.map id).Nodup) :
    ∃ d, Collects R key stated.entries d := by
  rw [Dict.map_values] at hnodup
  exact (Collects.exists_iff _ hid).2
    ⟨fun e he => hall e.1 e.2 (Dict.mem_values_of_mem_entries he), hnodup⟩

/-- What a complete collection lists is what the entries list. -/
theorem forall_mem_iff {γ : Type} (h : Collects R key stated.entries d) {f : α → List γ}
    {g : β → List γ} (hfg : ∀ e v, R e v → (g v).Perm (f e.2)) {P : γ → Prop} :
    (∀ v ∈ d.values, ∀ y ∈ g v, P y) ↔ ∀ x ∈ stated.values, ∀ y ∈ f x, P y := by
  have hperm := h.flatMap_perm (f := fun e => f e.2) hfg
  have hmem (y : γ) : y ∈ d.values.flatMap g ↔ y ∈ stated.entries.flatMap (f ·.2) := hperm.mem_iff
  simp only [List.mem_flatMap] at hmem
  constructor
  · intro hall x hx y hy
    obtain ⟨e, he, rfl⟩ := List.mem_map.1 hx
    obtain ⟨v, hv, hy⟩ := (hmem y).2 ⟨e, he, hy⟩
    exact hall v hv y hy
  · intro hall v hv y hy
    obtain ⟨e, he, hy⟩ := (hmem y).1 ⟨v, hv, hy⟩
    exact hall e.2 (Dict.mem_values_of_mem_entries he) y hy

end Collections

/-- What an asset's links say is what the entries say, in another order. -/
theorem map_links_perm {γ : Type} {x : TechnicalAssetInput} {t : String} {a : TechnicalAsset}
    (h : x.States t a) {f : String × LinkInput → γ} {g : Link → γ}
    (hfg : ∀ e l, LinkInput.States e.2 x.id e.1 l → g l = f e) :
    (a.links.map g).Perm (x.links.entries.map f) := by
  obtain ⟨stated, hstated, hperm⟩ := h.links
  rw [← map_eq_of_forall₂ hstated hfg]
  exact hperm.symm.map g

section Graph

variable {today : Date} {m : ModelInput} {p : Parts}

/-- The collections are complete when the individual categories are looked at. -/
theorem Parts.knows_graph
    (hdata : Collects (MakesDataAsset m) (·.id) m.dataAssets.entries p.dataAssets)
    (hassets : Collects (MakesTechnicalAsset m p.dataAssets) (·.id) m.technicalAssets.entries
      p.technicalAssets)
    (hboundaries : Collects (MakesTrustBoundary m) (·.id) m.trustBoundaries.entries
      p.trustBoundaries)
    (hruntimes : Collects (MakesSharedRuntime m p.technicalAssets) (·.id) m.sharedRuntimes.entries
      p.sharedRuntimes) : Knows (p.graph today m) m where
  dataAssets := contains_iff_mem_ids hdata fun _ _ hd => hd.states.id
  technicalAssets := contains_iff_mem_ids hassets fun _ _ ha => ha.states.id
  links id := by
    have hperm : (p.technicalAssets.values.flatMap fun a => a.links.map (·.id)).Perm
        (m.technicalAssets.entries.flatMap fun e => e.2.links.entries.map fun l =>
          linkId e.2.id l.1) :=
      hassets.flatMap_perm fun _ _ ha => map_links_perm ha.states fun _ _ hl => hl.id
    rw [Parts.graph, Model.isSome_link?_reindex, Model.links, List.map_flatMap, hperm.mem_iff]
    simp only [ModelInput.linkIds, Dict.map_keys, Dict.values, List.flatMap_map]
  trustBoundaries := contains_iff_mem_ids hboundaries fun _ _ hb => hb.states.id
  sharedRuntimes := contains_iff_mem_ids hruntimes fun _ _ hr => hr.states.id

theorem Parts.GraphChecked.knows (h : p.GraphChecked m) : Knows (p.graph today m) m :=
  Parts.knows_graph h.dataAssets h.technicalAssets h.trustBoundaries h.sharedRuntimes

/-- Where links lead is looked at last; what is asked for then is what the entries state. -/
theorem targets_iff {known : Dict DataAsset} {assets : Dict TechnicalAsset}
    (h : Collects (MakesTechnicalAsset m known) (·.id) m.technicalAssets.entries assets) :
    (∀ a ∈ assets.values, ∀ l ∈ a.links, assets.contains l.targetId = true) ↔
      ∀ x ∈ m.technicalAssets.values, ∀ l ∈ x.links.values, l.target ∈ m.assetIds := by
  have hids := contains_iff_mem_ids h fun _ _ ha => ha.states.id
  have hlists := forall_mem_iff h (f := fun x => x.links.entries.map (·.2.target))
    (g := fun a => a.links.map (·.targetId)) (P := (· ∈ m.assetIds)) fun _ _ ha =>
      map_links_perm ha.states fun _ _ hl => hl.targetId
  simpa only [hids, ModelInput.assetIds, Dict.values, List.forall_mem_map] using hlists

/-- So it is with boundaries nested in each other. -/
theorem nested_iff {boundaries : Dict TrustBoundary}
    (h : Collects (MakesTrustBoundary m) (·.id) m.trustBoundaries.entries boundaries) :
    (∀ b ∈ boundaries.values, ∀ id ∈ b.nested, boundaries.contains id = true) ↔
      ∀ x ∈ m.trustBoundaries.values, ∀ id ∈ x.nested, id ∈ m.boundaryIds := by
  simp only [contains_iff_mem_ids h fun _ _ hb => hb.states.id]
  exact forall_mem_iff h fun _ _ hb => .of_eq hb.states.nested

theorem Parts.Checked.valid (h : p.Checked today m) : m.Valid := by
  have hknows : Knows (p.graph today m) m := h.knows
  obtain ⟨hdata, hdataIds⟩ := accepted h.dataAssets fun _ _ hd => hd.states.id
  obtain ⟨hassets, hassetIds⟩ :=
    accepted h.technicalAssets fun _ _ ha => ha.states.id
  obtain ⟨hboundaries, hboundaryIds⟩ :=
    accepted h.trustBoundaries fun _ _ hb => hb.states.id
  obtain ⟨hruntimes, hruntimeIds⟩ :=
    accepted h.sharedRuntimes fun _ _ hr => hr.states.id
  obtain ⟨hcategories, hcategoryIds⟩ :=
    accepted h.individualCategories fun _ _ hc => hc.states.id
  obtain ⟨htracking, hkeys⟩ :=
    (Collects.exists_iff _ fun _ _ hr => hr.states.syntheticRiskId).1 ⟨_, h.tracking⟩
  -- Targets, members and nested boundaries are checked apart from the elements that state them.
  have htargets := List.forall_mem_map.1 ((targets_iff h.technicalAssets).1 h.targets)
  have hnested := List.forall_mem_map.1 ((nested_iff h.trustBoundaries).1 h.nested)
  have hinside (e : String × TrustBoundaryInput) (he : e ∈ m.trustBoundaries.entries) :
      ∀ id ∈ e.2.assetsInside, id ∈ m.assetIds := fun id hid =>
    (hknows.technicalAssets id).1 (h.inside id (List.mem_flatMap.2 ⟨e, he, hid⟩))
  exact {
    businessCriticality := exists_reads_iff.1 ⟨_, h.criticality⟩
    date := exists_readsDate_iff.1 ⟨_, h.date⟩
    dataAssets := List.forall_mem_map.2 fun e he => exists_dataAsset_iff.1 (hdata e he)
    dataIds_nodup := hdataIds
    technicalAssets := List.forall_mem_map.2 fun e he =>
      (exists_technicalAsset_iff hknows.dataAssets).1 ⟨htargets e he, hassets e he⟩
    assetIds_nodup := hassetIds
    trustBoundaries := List.forall_mem_map.2 fun e he =>
      exists_trustBoundary_iff.1 ⟨hboundaries e he, hinside e he, hnested e he⟩
    boundaryIds_nodup := hboundaryIds
    inside_nodup := by
      rw [ModelInput.inside, Dict.values, List.flatMap_map]
      exact h.inside_nodup
    sharedRuntimes := List.forall_mem_map.2 fun e he =>
      (exists_sharedRuntime_iff hknows.technicalAssets).1 (hruntimes e he)
    runtimeIds_nodup := hruntimeIds
    individualCategories := List.forall_mem_map.2 fun e he =>
      (exists_individualCategory_iff hknows).1 (hcategories e he)
    categoryIds_nodup := hcategoryIds
    tracking := List.forall_mem_map.2 fun e he => exists_trackingRecord_iff.1 (htracking e he)
    tracking_nodup := by
      rw [Dict.map_keys]
      exact hkeys }

/-- The graph of a valid model can be built, each collection from those before. -/
theorem exists_graphChecked (h : m.Valid) : ∃ p : Parts, p.GraphChecked m := by
  obtain ⟨criticality, hcriticality⟩ := exists_reads_iff.2 h.businessCriticality
  obtain ⟨date, hdate⟩ := exists_readsDate_iff.2 h.date
  obtain ⟨dataAssets, hdata⟩ : ∃ d, Collects (MakesDataAsset m) (·.id) m.dataAssets.entries d :=
    exists_collects (fun t x hx => exists_dataAsset_iff.2 (h.dataAssets x hx))
      (fun _ _ hd => hd.states.id) h.dataIds_nodup
  have hdataIds := contains_iff_mem_ids hdata fun _ _ hd => hd.states.id
  obtain ⟨assets, hassets⟩ : ∃ d,
      Collects (MakesTechnicalAsset m dataAssets) (·.id) m.technicalAssets.entries d :=
    exists_collects
      (fun t x hx => ((exists_technicalAsset_iff hdataIds).2 (h.technicalAssets x hx)).2)
      (fun _ _ ha => ha.states.id) h.assetIds_nodup
  have hassetIds := contains_iff_mem_ids hassets fun _ _ ha => ha.states.id
  obtain ⟨boundaries, hboundaries⟩ : ∃ d,
      Collects (MakesTrustBoundary m) (·.id) m.trustBoundaries.entries d :=
    exists_collects (fun t x hx => (exists_trustBoundary_iff.2 (h.trustBoundaries x hx)).1)
      (fun _ _ hb => hb.states.id) h.boundaryIds_nodup
  obtain ⟨runtimes, hruntimes⟩ : ∃ d,
      Collects (MakesSharedRuntime m assets) (·.id) m.sharedRuntimes.entries d :=
    exists_collects (fun t x hx => (exists_sharedRuntime_iff hassetIds).2 (h.sharedRuntimes x hx))
      (fun _ _ hr => hr.states.id) h.runtimeIds_nodup
  -- Members of boundaries are looked up in the assets, which are complete by now.
  have hinside : ∀ id ∈ m.trustBoundaries.entries.flatMap (·.2.assetsInside),
      assets.contains id = true := by
    intro id hid
    obtain ⟨e, he, hid⟩ := List.mem_flatMap.1 hid
    have hvalid := h.trustBoundaries e.2 (Dict.mem_values_of_mem_entries he)
    exact (hassetIds id).2 (hvalid.inside id hid)
  have hnodup : (m.trustBoundaries.entries.flatMap (·.2.assetsInside)).Nodup := by
    have := h.inside_nodup
    rwa [ModelInput.inside, Dict.values, List.flatMap_map] at this
  have htargets := (targets_iff hassets).2 fun x hx l hl =>
    ((h.technicalAssets x hx).links l hl).target
  have hnested := (nested_iff hboundaries).2 fun x hx => (h.trustBoundaries x hx).nested
  exact ⟨⟨criticality, date, dataAssets, assets, boundaries, runtimes, .empty, .empty⟩,
    ⟨hcriticality, hdate, hdata, hassets, htargets, hboundaries, hinside, hnodup, hnested,
      hruntimes⟩⟩

/-- What is checked against the graph of a valid model is accepted as well. -/
theorem exists_checked (today : Date) (h : m.Valid) : ∃ p : Parts, p.Checked today m := by
  obtain ⟨g, hg⟩ := exists_graphChecked h
  obtain ⟨categories, hcategories⟩ : ∃ d,
      Collects (MakesCategory (g.graph today m)) (·.category.id) m.individualCategories.entries d :=
    exists_collects
      (fun t x hx => (exists_individualCategory_iff hg.knows).2 (h.individualCategories x hx))
      (fun _ _ hc => hc.states.id) h.categoryIds_nodup
  obtain ⟨tracking, htracking⟩ : ∃ d,
      Collects MakesRecord (·.syntheticRiskId) m.tracking.entries d := by
    refine (Collects.exists_iff _ fun _ _ hr => hr.states.syntheticRiskId).2 ⟨fun e he => ?_, ?_⟩
    · exact exists_trackingRecord_iff.2 (h.tracking e.2 (Dict.mem_values_of_mem_entries he))
    · have := h.tracking_nodup
      rwa [Dict.map_keys] at this
  -- The graph of the parts does not depend on the two collections that are filled in here.
  exact ⟨{ g with individualCategories := categories, tracking := tracking },
    { hg with individualCategories := hcategories, tracking := htracking }⟩

/-- Validation accepts the valid models and no others. -/
theorem build_accepts_iff (today : Date) (m : ModelInput) :
    (∃ g, build today m = .ok g) ↔ m.Valid := by
  simp only [build_eq_ok_iff]
  constructor
  · rintro ⟨_, p, hp, rfl⟩
    exact hp.valid
  · intro h
    obtain ⟨p, hp⟩ := exists_checked today h
    exact ⟨_, p, hp, rfl⟩

end Graph

end Validation

end ThreatModel
