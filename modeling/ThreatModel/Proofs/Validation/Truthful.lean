import ThreatModel.Proofs.Validation.Refusal

/-!
# Faults are real

What a fault says can be looked up in the stated model: `Fault.HoldsOf` says how for each kind of
fault, without any check and for the whole model at once. `build_fails_truthfully` proves that
validation ends with no other faults. A check may look at a collection that is still being filled,
so for each of them it is shown that what is missing there is missing in the stated model as well,
and that what is there already was stated before.
-/

namespace ThreatModel

open Validation

/-! ## Words -/

/-- A field that is to hold a word: its name, its text, and whether that text will do. -/
structure StatedWord where
  field : String
  text : String
  isWord : Prop

def DataAssetInput.words (x : DataAssetInput) : List StatedWord :=
  [⟨"usage", x.usage, IsWordOrBlank Usage x.usage⟩,
    ⟨"quantity", x.quantity, IsWord Quantity x.quantity⟩,
    ⟨"confidentiality", x.confidentiality, IsWord Confidentiality x.confidentiality⟩,
    ⟨"integrity", x.integrity, IsWord Criticality x.integrity⟩,
    ⟨"availability", x.availability, IsWord Criticality x.availability⟩]

def LinkInput.words (x : LinkInput) : List StatedWord :=
  [⟨"protocol", x.protocol, IsWord Protocol x.protocol⟩,
    ⟨"authentication", x.authentication, IsWord Authentication x.authentication⟩,
    ⟨"authorization", x.authorization, IsWord Authorization x.authorization⟩,
    ⟨"usage", x.usage, IsWord Usage x.usage⟩]

def TechnicalAssetInput.words (x : TechnicalAssetInput) : List StatedWord :=
  [⟨"type", x.kind, IsWord AssetKind x.kind⟩,
    ⟨"usage", x.usage, IsWord Usage x.usage⟩,
    ⟨"size", x.size, IsWord AssetSize x.size⟩,
    ⟨"technology", x.technology, IsWord Technology x.technology⟩,
    ⟨"machine", x.machine, IsWord Machine x.machine⟩,
    ⟨"encryption", x.encryption, IsWord Encryption x.encryption⟩,
    ⟨"confidentiality", x.confidentiality, IsWord Confidentiality x.confidentiality⟩,
    ⟨"integrity", x.integrity, IsWord Criticality x.integrity⟩,
    ⟨"availability", x.availability, IsWord Criticality x.availability⟩] ++
  x.formatsAccepted.map fun text => ⟨"data_formats_accepted", text, IsWord DataFormat text⟩

def TrustBoundaryInput.words (x : TrustBoundaryInput) : List StatedWord :=
  [⟨"type", x.kind, IsWord BoundaryKind x.kind⟩]

def IndividualCategoryInput.words (x : IndividualCategoryInput) : List StatedWord :=
  [⟨"function", x.function, IsWord Responsibility x.function⟩,
    ⟨"stride", x.stride, IsWord Stride x.stride⟩]

def IndividualRiskInput.words (x : IndividualRiskInput) : List StatedWord :=
  [⟨"severity", x.severity, IsWordOrBlank Severity x.severity⟩,
    ⟨"exploitation_likelihood", x.likelihood, IsWordOrBlank Likelihood x.likelihood⟩,
    ⟨"exploitation_impact", x.impact, IsWordOrBlank Impact x.impact⟩,
    ⟨"data_breach_probability", x.breachProbability,
      IsWordOrBlank BreachProbability x.breachProbability⟩]

def TrackingInput.words (x : TrackingInput) : List StatedWord :=
  [⟨"status", x.status, IsWord RiskStatus x.status⟩]

def ModelInput.words (m : ModelInput) : List StatedWord :=
  [⟨"business_criticality", m.businessCriticality, IsWord Criticality m.businessCriticality⟩]

/-- A field of the element that is called so in messages. -/
inductive ModelInput.StatesWord (m : ModelInput) : String → StatedWord → Prop
  | application {w : StatedWord} (hw : w ∈ m.words) : StatesWord m "application" w
  | dataAsset {t : String} {x : DataAssetInput} {w : StatedWord}
      (hx : m.dataAssets.get? t = some x) (hw : w ∈ x.words) :
      StatesWord m (named "data asset" t) w
  | technicalAsset {t : String} {x : TechnicalAssetInput} {w : StatedWord}
      (hx : m.technicalAssets.get? t = some x) (hw : w ∈ x.words) :
      StatesWord m (named "technical asset" t) w
  | link {t s : String} {x : TechnicalAssetInput} {l : LinkInput} {w : StatedWord}
      (hx : m.technicalAssets.get? t = some x) (hl : x.links.get? s = some l) (hw : w ∈ l.words) :
      StatesWord m (named "technical asset" t ++ " " ++ named "communication link" s) w
  | trustBoundary {t : String} {x : TrustBoundaryInput} {w : StatedWord}
      (hx : m.trustBoundaries.get? t = some x) (hw : w ∈ x.words) :
      StatesWord m (named "trust boundary" t) w
  | individualCategory {t : String} {x : IndividualCategoryInput} {w : StatedWord}
      (hx : m.individualCategories.get? t = some x) (hw : w ∈ x.words) :
      StatesWord m (named "individual risk category" t) w
  | individualRisk {t s : String} {x : IndividualCategoryInput} {r : IndividualRiskInput}
      {w : StatedWord} (hx : m.individualCategories.get? t = some x) (hr : x.risks.get? s = some r)
      (hw : w ∈ r.words) : StatesWord m (named "individual risk instance" s) w
  | tracking {k : String} {x : TrackingInput} {w : StatedWord} (hx : m.tracking.get? k = some x)
      (hw : w ∈ x.words) : StatesWord m (named "risk tracking" k) w

/-! ## References -/

/-- What an element can refer to. -/
inductive ReferenceKind where
  | dataAsset
  | asset
  /-- An asset inside a boundary. -/
  | member
  | nested
  | tag
  | link
  | boundary
  | runtime

/-- The name of a kind of reference in messages. -/
def ReferenceKind.name : ReferenceKind → String
  | .dataAsset => "data asset target"
  | .asset => "technical asset target"
  | .member => "technical asset"
  | .nested => "nested trust boundary"
  | .tag => "tag in overall tag list"
  | .link => "communication link"
  | .boundary => "trust boundary"
  | .runtime => "shared runtime"

/-- All that a reference of a kind may name. -/
def ModelInput.idsOf (m : ModelInput) : ReferenceKind → List String
  | .dataAsset => m.dataIds
  | .asset | .member => m.assetIds
  | .nested | .boundary => m.boundaryIds
  | .tag => tagsOf m
  | .link => m.linkIds
  | .runtime => m.runtimeIds

/-- A reference of the element that is called so in messages. Tags are folded; what an individual
risk is most relevant for is trimmed, and nothing if nothing is left. -/
inductive ModelInput.Mentions (m : ModelInput) : String → ReferenceKind → String → Prop
  | dataTag {t tag : String} {x : DataAssetInput} (hx : m.dataAssets.get? t = some x)
      (htag : tag ∈ x.tags) : Mentions m (named "data asset" t) .tag (Text.fold tag)
  | assetData {t id : String} {x : TechnicalAssetInput} (hx : m.technicalAssets.get? t = some x)
      (hid : id ∈ x.dataProcessed ++ x.dataStored) :
      Mentions m (named "technical asset" t) .dataAsset id
  | assetTag {t tag : String} {x : TechnicalAssetInput} (hx : m.technicalAssets.get? t = some x)
      (htag : tag ∈ x.tags) : Mentions m (named "technical asset" t) .tag (Text.fold tag)
  | linkData {t s id : String} {x : TechnicalAssetInput} {l : LinkInput}
      (hx : m.technicalAssets.get? t = some x) (hl : x.links.get? s = some l)
      (hid : id ∈ l.dataSent ++ l.dataReceived) :
      Mentions m (named "communication link" s ++ " of " ++ named "technical asset" t) .dataAsset id
  | linkTag {t s tag : String} {x : TechnicalAssetInput} {l : LinkInput}
      (hx : m.technicalAssets.get? t = some x) (hl : x.links.get? s = some l)
      (htag : tag ∈ l.tags) :
      Mentions m (named "communication link" s ++ " of " ++ named "technical asset" t) .tag
        (Text.fold tag)
  | linkTarget {t s : String} {x : TechnicalAssetInput} {l : LinkInput}
      (hx : m.technicalAssets.get? t = some x) (hl : x.links.get? s = some l) :
      Mentions m (named "communication link" s ++ " of " ++ named "technical asset" t) .asset
        l.target
  | inside {t id : String} {x : TrustBoundaryInput} (hx : m.trustBoundaries.get? t = some x)
      (hid : id ∈ x.assetsInside) : Mentions m (named "trust boundary" t) .member id
  | nested {t id : String} {x : TrustBoundaryInput} (hx : m.trustBoundaries.get? t = some x)
      (hid : id ∈ x.nested) : Mentions m (named "trust boundary" t) .nested id
  | boundaryTag {t tag : String} {x : TrustBoundaryInput} (hx : m.trustBoundaries.get? t = some x)
      (htag : tag ∈ x.tags) : Mentions m (named "trust boundary" t) .tag (Text.fold tag)
  | running {t id : String} {x : SharedRuntimeInput} (hx : m.sharedRuntimes.get? t = some x)
      (hid : id ∈ x.assetsRunning) : Mentions m (named "shared runtime" t) .asset id
  | runtimeTag {t tag : String} {x : SharedRuntimeInput} (hx : m.sharedRuntimes.get? t = some x)
      (htag : tag ∈ x.tags) : Mentions m (named "shared runtime" t) .tag (Text.fold tag)
  | risk {t s : String} {k : ReferenceKind} {text : String} {x : IndividualCategoryInput}
      {r : IndividualRiskInput} (hx : m.individualCategories.get? t = some x)
      (hr : x.risks.get? s = some r)
      (htext : (k, text) ∈ [(.dataAsset, r.dataAsset), (.asset, r.technicalAsset), (.link, r.link),
        (.boundary, r.boundary), (.runtime, r.runtime)]) (hne : Text.trim text ≠ "") :
      Mentions m (named "individual risk" s) k (Text.trim text)
  | breach {t s id : String} {x : IndividualCategoryInput} {r : IndividualRiskInput}
      (hx : m.individualCategories.get? t = some x) (hr : x.risks.get? s = some r)
      (hid : id ∈ r.breachAssets) :
      Mentions m ("data breach technical assets of " ++ named "individual risk" s) .asset id

/-! ## Ids -/

/-- The ids of the elements of each kind. -/
def ModelInput.elementIds (m : ModelInput) : List (List String) :=
  [m.dataIds, m.assetIds, m.boundaryIds, m.runtimeIds, m.categoryIds]

/-- The ids that have to differ: those of the elements of one kind, of the links of one asset, and
of the tracking records. -/
def ModelInput.distinctIds (m : ModelInput) : List (List String) :=
  m.elementIds ++ (m.technicalAssets.values.map fun a => a.links.keys.map (linkId a.id)) ++
    [m.tracking.keys.map Text.fold]

/-! ## What faults say -/

/-- What a fault says is the case in a stated model. -/
def Fault.HoldsOf (m : ModelInput) : Fault → Prop
  | .unknownValue field element text =>
    ∃ isWord, m.StatesWord element ⟨field, text, isWord⟩ ∧ ¬ isWord
  | .invalidId id => (∃ ids ∈ m.elementIds, id ∈ ids) ∧ ¬ IsId id
  | .duplicateId id => ∃ ids ∈ m.distinctIds, 2 ≤ ids.count id
  | .missingReference kind location id =>
    ∃ k : ReferenceKind, k.name = kind ∧ m.Mentions location k id ∧ id ∉ m.idsOf k
  | .multipleBoundaries asset title =>
    2 ≤ m.inside.count asset ∧ ∃ b, m.trustBoundaries.get? title = some b ∧ asset ∈ b.assetsInside
  | .invalidDate text => text = m.date ∧ ¬ IsDateOrBlank text
  | .invalidTrackingDate key text =>
    ∃ x, m.tracking.get? key = some x ∧ x.date = text ∧ ¬ IsDateOrBlank text

namespace Fault

variable {m : ModelInput}

theorem holdsOf_word {element field text : String} {isWord : Prop}
    (h : m.StatesWord element ⟨field, text, isWord⟩) (hword : ¬ isWord) :
    (unknownValue field element text).HoldsOf m := ⟨isWord, h, hword⟩

theorem holdsOf_reference {location id : String} {k : ReferenceKind} (h : m.Mentions location k id)
    (hid : id ∉ m.idsOf k) : (missingReference k.name location id).HoldsOf m := ⟨k, rfl, h, hid⟩

end Fault

/-- A text that stands once more behind the first time stands there twice. -/
theorem two_le_count {before after : List String} {s : String} (h : s ∈ before) :
    2 ≤ (before ++ s :: after).count s := by
  have hpos : 0 < before.count s := List.count_pos_iff.2 h
  rw [List.count_append, List.count_cons_self]
  omega

/-! ## Elements fail for what they state -/

namespace Validation

variable {m : ModelInput} {t : String}

theorem not_mem_of_contains {α : Type} {d : Dict α} {ids : List String} {id : String}
    (h : ∀ id, d.contains id = true ↔ id ∈ ids) (hid : d.contains id = false) : id ∉ ids := by
  rw [← h, hid]
  exact Bool.false_ne_true

theorem failsOnly_dataAsset {x : DataAssetInput} (hx : m.dataAssets.get? t = some x) :
    FailsOnly (·.HoldsOf m) (dataAsset (tagsOf m) t x) := by
  have hword {field text : String} {isWord : Prop} (hw : ⟨field, text, isWord⟩ ∈ x.words) :
      ¬ isWord → (Fault.unknownValue field (named "data asset" t) text).HoldsOf m :=
    Fault.holdsOf_word (.dataAsset hx hw)
  unfold dataAsset
  refine .bind (failsOnly_valueOr (hword (by simp [DataAssetInput.words]))) fun _ _ => ?_
  refine .bind (failsOnly_checkTags fun _ htag => Fault.holdsOf_reference (.dataTag hx htag))
    fun _ _ => ?_
  refine .bind (failsOnly_value (hword (by simp [DataAssetInput.words]))) fun _ _ => ?_
  refine .bind (failsOnly_value (hword (by simp [DataAssetInput.words]))) fun _ _ => ?_
  refine .bind (failsOnly_value (hword (by simp [DataAssetInput.words]))) fun _ _ => ?_
  refine .bind (failsOnly_value (hword (by simp [DataAssetInput.words]))) fun _ _ => ?_
  exact failsOnly_pure _

theorem failsOnly_link {known : Dict DataAsset}
    (hknown : ∀ id, known.contains id = true ↔ id ∈ m.dataIds) {x : TechnicalAssetInput}
    {s : String} {l : LinkInput} (hx : m.technicalAssets.get? t = some x)
    (hl : x.links.get? s = some l) :
    FailsOnly (·.HoldsOf m) (link (tagsOf m) known x.id t s l) := by
  have hword {field text : String} {isWord : Prop} (hw : ⟨field, text, isWord⟩ ∈ l.words) :=
    Fault.holdsOf_word (.link hx hl hw)
  unfold link
  refine .bind (failsOnly_checkReferences fun _ hid hmissing =>
    Fault.holdsOf_reference (.linkData hx hl hid) (not_mem_of_contains hknown hmissing))
    fun _ _ => ?_
  refine .bind (failsOnly_value (hword (by simp [LinkInput.words]))) fun _ _ => ?_
  refine .bind (failsOnly_checkTags fun _ htag => Fault.holdsOf_reference (.linkTag hx hl htag))
    fun _ _ => ?_
  refine .bind (failsOnly_value (hword (by simp [LinkInput.words]))) fun _ _ => ?_
  refine .bind (failsOnly_value (hword (by simp [LinkInput.words]))) fun _ _ => ?_
  refine .bind (failsOnly_value (hword (by simp [LinkInput.words]))) fun _ _ => ?_
  exact failsOnly_pure _

/-- Two links fail for one id only if their titles give it. -/
theorem failsOnly_links {known : Dict DataAsset}
    (hknown : ∀ id, known.contains id = true ↔ id ∈ m.dataIds) {x : TechnicalAssetInput}
    (hx : m.technicalAssets.get? t = some x) :
    FailsOnly (·.HoldsOf m) (x.links.entries.foldlM (addLink (tagsOf m) known x.id t) []) := by
  refine failsOnly_foldlM fun before e after links hsplit hbefore => ?_
  obtain ⟨stated, hstated, -, -, hlinks⟩ := foldlM_addLink_eq_ok_iff.1 hbefore
  rw [List.nil_append] at hlinks
  subst hlinks -- the links so far are all that the entries before have been made into
  have hl : x.links.get? e.1 = some e.2 := Dict.get?_eq_some_iff.2 (by simp [hsplit])
  refine .bind (failsOnly_link hknown hx hl) fun l hok => ?_
  refine .bind (failsOnly_require fun hold => ?_) fun _ _ => failsOnly_pure _
  have hid : l.id = linkId x.id e.1 := (link_spec hok).1.id
  have hids : links.map (·.id) = before.map fun e => linkId x.id e.1 :=
    map_eq_of_forall₂ hstated fun _ _ hs => (link_spec hs).1.id
  refine ⟨x.links.keys.map (linkId x.id), ?_, ?_⟩
  · exact List.mem_append_left _ (List.mem_append_right _
      (List.mem_map.2 ⟨x, Dict.mem_values_of_get? hx, rfl⟩))
  · rw [Dict.map_keys, hsplit, List.map_append, List.map_cons, ← hid, ← hids]
    exact two_le_count (by simpa using hold)

theorem failsOnly_technicalAsset {known : Dict DataAsset}
    (hknown : ∀ id, known.contains id = true ↔ id ∈ m.dataIds) {x : TechnicalAssetInput}
    (hx : m.technicalAssets.get? t = some x) :
    FailsOnly (·.HoldsOf m) (technicalAsset (tagsOf m) known t x) := by
  have hword {field text : String} {isWord : Prop} (hw : ⟨field, text, isWord⟩ ∈ x.words) :=
    Fault.holdsOf_word (.technicalAsset hx hw)
  have hmem : x.id ∈ m.assetIds := List.mem_map_of_mem (Dict.mem_values_of_get? hx)
  unfold technicalAsset
  refine .bind (failsOnly_checkId fun hid =>
    ⟨⟨m.assetIds, by simp [ModelInput.elementIds], hmem⟩, hid⟩) fun _ _ => ?_
  refine .bind (failsOnly_checkReferences fun _ hid hmissing =>
    Fault.holdsOf_reference (.assetData hx hid) (not_mem_of_contains hknown hmissing))
    fun _ _ => ?_
  refine .bind (failsOnly_mapM fun text htext =>
    failsOnly_value (hword (by simp [TechnicalAssetInput.words, htext]))) fun _ _ => ?_
  refine .bind (failsOnly_links hknown hx) fun _ _ => ?_
  refine .bind (failsOnly_value (hword (by simp [TechnicalAssetInput.words]))) fun _ _ => ?_
  refine .bind (failsOnly_value (hword (by simp [TechnicalAssetInput.words]))) fun _ _ => ?_
  refine .bind (failsOnly_value (hword (by simp [TechnicalAssetInput.words]))) fun _ _ => ?_
  refine .bind (failsOnly_value (hword (by simp [TechnicalAssetInput.words]))) fun _ _ => ?_
  refine .bind (failsOnly_value (hword (by simp [TechnicalAssetInput.words]))) fun _ _ => ?_
  refine .bind (failsOnly_value (hword (by simp [TechnicalAssetInput.words]))) fun _ _ => ?_
  refine .bind (failsOnly_value (hword (by simp [TechnicalAssetInput.words]))) fun _ _ => ?_
  refine .bind (failsOnly_value (hword (by simp [TechnicalAssetInput.words]))) fun _ _ => ?_
  refine .bind (failsOnly_value (hword (by simp [TechnicalAssetInput.words]))) fun _ _ => ?_
  refine .bind (failsOnly_checkTags fun _ htag => Fault.holdsOf_reference (.assetTag hx htag))
    fun _ _ => ?_
  exact failsOnly_pure _

theorem failsOnly_trustBoundary {x : TrustBoundaryInput} (hx : m.trustBoundaries.get? t = some x) :
    FailsOnly (·.HoldsOf m) (trustBoundary (tagsOf m) t x) := by
  have hword {field text : String} {isWord : Prop} (hw : ⟨field, text, isWord⟩ ∈ x.words) :=
    Fault.holdsOf_word (.trustBoundary hx hw)
  unfold trustBoundary
  refine .bind (failsOnly_value (hword (by simp [TrustBoundaryInput.words]))) fun _ _ => ?_
  refine .bind (failsOnly_checkTags fun _ htag => Fault.holdsOf_reference (.boundaryTag hx htag))
    fun _ _ => ?_
  exact failsOnly_pure _

theorem failsOnly_sharedRuntime {x : SharedRuntimeInput} (hx : m.sharedRuntimes.get? t = some x) :
    FailsOnly (·.HoldsOf m) (sharedRuntime (tagsOf m) t x) := by
  unfold sharedRuntime
  refine .bind (failsOnly_checkTags fun _ htag => Fault.holdsOf_reference (.runtimeTag hx htag))
    fun _ _ => ?_
  exact failsOnly_pure _

theorem failsOnly_individualRisk {g : Model} (hg : Knows g m) {x : IndividualCategoryInput}
    {s : String} {r : IndividualRiskInput} (hx : m.individualCategories.get? t = some x)
    (hr : x.risks.get? s = some r) : FailsOnly (·.HoldsOf m) (individualRisk g x.id s r) := by
  have hword {field text : String} {isWord : Prop} (hw : ⟨field, text, isWord⟩ ∈ r.words) :=
    Fault.holdsOf_word (.individualRisk hx hr hw)
  unfold individualRisk
  refine .bind (failsOnly_valueOr (hword (by simp [IndividualRiskInput.words]))) fun _ _ => ?_
  refine .bind (failsOnly_valueOr (hword (by simp [IndividualRiskInput.words]))) fun _ _ => ?_
  refine .bind (failsOnly_valueOr (hword (by simp [IndividualRiskInput.words]))) fun _ _ => ?_
  refine .bind (failsOnly_valueOr (hword (by simp [IndividualRiskInput.words]))) fun _ _ => ?_
  refine .bind (failsOnly_reference fun hne hmissing => Fault.holdsOf_reference
    (k := .dataAsset) (.risk hx hr (by simp) hne) (not_mem_of_contains hg.dataAssets hmissing))
    fun _ _ => ?_
  refine .bind (failsOnly_reference fun hne hmissing => Fault.holdsOf_reference
    (k := .asset) (.risk hx hr (by simp) hne) (not_mem_of_contains hg.technicalAssets hmissing))
    fun _ _ => ?_
  refine .bind (failsOnly_reference fun hne hmissing => Fault.holdsOf_reference
    (k := .link) (.risk hx hr (by simp) hne) fun hid => ?_) fun _ _ => ?_
  · rw [← Bool.not_eq_true, hg.links] at hmissing
    exact hmissing hid
  refine .bind (failsOnly_reference fun hne hmissing => Fault.holdsOf_reference
    (k := .boundary) (.risk hx hr (by simp) hne) (not_mem_of_contains hg.trustBoundaries hmissing))
    fun _ _ => ?_
  refine .bind (failsOnly_reference fun hne hmissing => Fault.holdsOf_reference
    (k := .runtime) (.risk hx hr (by simp) hne) (not_mem_of_contains hg.sharedRuntimes hmissing))
    fun _ _ => ?_
  refine .bind (failsOnly_checkReferences fun _ hid hmissing => Fault.holdsOf_reference
    (k := .asset) (.breach hx hr hid) (not_mem_of_contains hg.technicalAssets hmissing))
    fun _ _ => ?_
  exact failsOnly_pure _

theorem failsOnly_individualCategory {g : Model} (hg : Knows g m) {x : IndividualCategoryInput}
    (hx : m.individualCategories.get? t = some x) :
    FailsOnly (·.HoldsOf m) (individualCategory g t x) := by
  have hword {field text : String} {isWord : Prop} (hw : ⟨field, text, isWord⟩ ∈ x.words) :=
    Fault.holdsOf_word (.individualCategory hx hw)
  have hmem : x.id ∈ m.categoryIds := List.mem_map_of_mem (Dict.mem_values_of_get? hx)
  unfold individualCategory
  refine .bind (failsOnly_checkId fun hid =>
    ⟨⟨m.categoryIds, by simp [ModelInput.elementIds], hmem⟩, hid⟩) fun _ _ => ?_
  refine .bind (failsOnly_value (hword (by simp [IndividualCategoryInput.words]))) fun _ _ => ?_
  refine .bind (failsOnly_value (hword (by simp [IndividualCategoryInput.words]))) fun _ _ => ?_
  refine .bind (failsOnly_mapM fun e he =>
    failsOnly_individualRisk hg hx (Dict.get?_eq_some_iff.2 he)) fun _ _ => ?_
  exact failsOnly_pure _

theorem failsOnly_trackingRecord {k : String} {x : TrackingInput}
    (hx : m.tracking.get? k = some x) : FailsOnly (·.HoldsOf m) (trackingRecord k x) := by
  have hword {field text : String} {isWord : Prop} (hw : ⟨field, text, isWord⟩ ∈ x.words) :=
    Fault.holdsOf_word (.tracking hx hw)
  unfold trackingRecord
  refine .bind (failsOnly_date? fun hdate => ⟨x, hx, rfl, hdate⟩) fun _ _ => ?_
  refine .bind (failsOnly_value (hword (by simp [TrackingInput.words]))) fun _ _ => ?_
  exact failsOnly_pure _

/-! ## Collections fail for what their entries state -/

/-- A loop that fills a collection fails only in a round for an entry, and there an id is taken only
if the entries give it twice. -/
theorem AddsOne.failsOnly_foldlM {α β : Type} {P : Fault → Prop} {R : String × α → β → Prop}
    {key : β → String} {step : Dict β → String × α → Except Fault (Dict β)} (h : AddsOne R key step)
    (id : String × α → String) (hid : ∀ e v, R e v → key v = id e) {l : List (String × α)}
    (hstep : ∀ d, ∀ e ∈ l, (d.contains (id e) = true → 2 ≤ (l.map id).count (id e)) →
      FailsOnly P (step d e)) : FailsOnly P (l.foldlM step .empty) := by
  refine Validation.failsOnly_foldlM fun before e after d hl hbefore => ?_
  refine hstep d e (by simp [hl]) fun htaken => ?_
  have hmem : id e ∈ before.map id :=
    (((collects_iff h before d).1 hbefore).contains_iff id hid _).1 htaken
  rw [hl, List.map_append, List.map_cons]
  exact two_le_count hmem

/-- A loop over entries that are made into elements first fails for an entry or a repeated id. -/
theorem failsOnly_foldlM_make {α β : Type} {P : Fault → Prop} {make : String × α → Except Fault β}
    {key : β → String} (id : String × α → String) (hid : ∀ e v, make e = .ok v → key v = id e)
    {l : List (String × α)} (hmake : ∀ e ∈ l, FailsOnly P (make e))
    (htwice : ∀ k, 2 ≤ (l.map id).count k → P (.duplicateId k)) :
    FailsOnly P (l.foldlM (fun d e => do
      let v ← make e
      checkNew d (key v)
      return d.insert (key v) v) .empty) := by
  refine (addsOne_make make key).failsOnly_foldlM id hid fun d e he hcount => ?_
  refine .bind (hmake e he) fun v hv => ?_
  refine .bind (failsOnly_checkNew fun htaken => ?_) fun _ _ => failsOnly_pure _
  rw [hid e v hv] at htaken ⊢
  exact htwice _ (hcount htaken)

/-- An id that the entries of one kind give twice. -/
theorem holdsOf_duplicate {α : Type} {stated : Dict α} {id : α → String}
    (h : stated.values.map id ∈ m.elementIds) {k : String}
    (hk : 2 ≤ (stated.entries.map fun e => id e.2).count k) : (Fault.duplicateId k).HoldsOf m := by
  refine ⟨_, List.mem_append_left _ (List.mem_append_left _ h), ?_⟩
  rwa [Dict.map_values]

theorem failsOnly_dataAssets :
    FailsOnly (·.HoldsOf m) (m.dataAssets.entries.foldlM (addDataAsset (tagsOf m)) .empty) := by
  have hids : m.dataIds ∈ m.elementIds := by simp [ModelInput.elementIds]
  refine addsOne_dataAsset.failsOnly_foldlM (fun e => e.2.id) (fun _ _ hd => hd.states.id)
    fun d e he htwice => ?_
  unfold addDataAsset
  have hmem : e.2.id ∈ m.dataIds := List.mem_map_of_mem (Dict.mem_values_of_mem_entries he)
  refine .bind (failsOnly_checkId fun hid => ⟨⟨_, hids, hmem⟩, hid⟩) fun _ _ => ?_
  refine .bind (failsOnly_checkNew fun htaken => holdsOf_duplicate hids (htwice htaken))
    fun _ _ => ?_
  exact .bind (failsOnly_dataAsset (Dict.get?_eq_some_iff.2 he)) fun _ _ => failsOnly_pure _

theorem failsOnly_technicalAssets {known : Dict DataAsset}
    (hknown : ∀ id, known.contains id = true ↔ id ∈ m.dataIds) :
    FailsOnly (·.HoldsOf m)
      (m.technicalAssets.entries.foldlM (addTechnicalAsset (tagsOf m) known) .empty) := by
  refine failsOnly_foldlM_make (fun e => e.2.id) (fun e a ha => (technicalAsset_spec ha).2.1.id)
    (fun e he => failsOnly_technicalAsset hknown (Dict.get?_eq_some_iff.2 he)) fun k hk => ?_
  exact holdsOf_duplicate (by simp [ModelInput.elementIds, ModelInput.assetIds]) hk

/-- A boundary cannot take an asset that it or a boundary before it has. -/
theorem failsOnly_place {assets : Dict TechnicalAsset}
    (hassets : ∀ id, assets.contains id = true ↔ id ∈ m.assetIds)
    {before after : List (String × TrustBoundaryInput)} {e : String × TrustBoundaryInput}
    (hsplit : m.trustBoundaries.entries = before ++ e :: after) {placed : List String}
    (hplaced : placed = (before.flatMap (·.2.assetsInside)).reverse) :
    FailsOnly (·.HoldsOf m) (e.2.assetsInside.foldlM (place assets e.1) placed) := by
  refine failsOnly_foldlM fun first id rest placed' hinside hfirst => ?_
  have hx : m.trustBoundaries.get? e.1 = some e.2 := Dict.get?_eq_some_iff.2 (by simp [hsplit])
  have hid : id ∈ e.2.assetsInside := by simp [hinside]
  obtain ⟨-, -, -, hplaced'⟩ := foldlM_place_eq_ok_iff.1 hfirst
  unfold place
  refine .bind (failsOnly_require fun hmissing => Fault.holdsOf_reference (k := .member)
    (.inside hx hid) (not_mem_of_contains hassets hmissing)) fun _ _ => ?_
  refine .bind (failsOnly_require fun htaken => ⟨?_, e.2, hx, hid⟩) fun _ _ => failsOnly_pure _
  -- What is placed so far stands before this one in the list of all members.
  have hmem : id ∈ before.flatMap (·.2.assetsInside) ++ first := by
    simpa [hplaced', hplaced, or_comm] using htaken
  have hall : m.inside = (before.flatMap (·.2.assetsInside) ++ first) ++
      id :: (rest ++ after.flatMap (·.2.assetsInside)) := by
    simp [ModelInput.inside, Dict.values, List.flatMap_map, hsplit, hinside]
  rw [hall]
  exact two_le_count hmem

theorem failsOnly_trustBoundaries {assets : Dict TechnicalAsset}
    (hassets : ∀ id, assets.contains id = true ↔ id ∈ m.assetIds) :
    FailsOnly (·.HoldsOf m)
      (m.trustBoundaries.entries.foldlM (addTrustBoundary (tagsOf m) assets) (.empty, [])) := by
  have hids : m.boundaryIds ∈ m.elementIds := by simp [ModelInput.elementIds]
  refine failsOnly_foldlM fun before e after s hsplit hbefore => ?_
  obtain ⟨hboundaries, hplaced⟩ := (foldlM_pair_eq_ok_iff (addBoundary (tagsOf m))
    (fun placed e => e.2.assetsInside.foldlM (place assets e.1) placed)
    (addTrustBoundary_eq_ok_iff (tagsOf m) assets) before (.empty, []) s).1 hbefore
  rw [collects_iff addsOne_boundary] at hboundaries
  obtain ⟨-, -, -, hplaced⟩ := foldlM_placeAll_eq_ok_iff.1 hplaced
  rw [List.append_nil] at hplaced
  have he : e ∈ m.trustBoundaries.entries := by simp [hsplit]
  have hmem : e.2.id ∈ m.boundaryIds := List.mem_map_of_mem (Dict.mem_values_of_mem_entries he)
  unfold addTrustBoundary
  refine .bind (failsOnly_checkId fun hid => ⟨⟨_, hids, hmem⟩, hid⟩) fun _ _ => ?_
  refine .bind (failsOnly_checkNew fun htaken => holdsOf_duplicate hids ?_) fun _ _ => ?_
  · rw [hboundaries.contains_iff (fun e => e.2.id) fun _ _ hb => hb.states.id] at htaken
    rw [hsplit, List.map_append, List.map_cons]
    exact two_le_count htaken
  refine .bind (failsOnly_place hassets hsplit hplaced) fun _ _ => ?_
  exact .bind (failsOnly_trustBoundary (Dict.get?_eq_some_iff.2 he)) fun _ _ => failsOnly_pure _

theorem failsOnly_checkNesting {boundaries : Dict TrustBoundary}
    (h : Collects (MakesTrustBoundary m) (·.id) m.trustBoundaries.entries boundaries) :
    FailsOnly (·.HoldsOf m) (checkNesting boundaries) := by
  refine failsOnly_forM fun b hb => ?_
  obtain ⟨e, he, hmakes⟩ := h.exists_of_mem hb
  refine failsOnly_checkReferences fun id hid hmissing => ?_
  rw [hmakes.states.title]
  rw [hmakes.states.nested] at hid
  exact Fault.holdsOf_reference (k := .nested) (.nested (Dict.get?_eq_some_iff.2 he) hid)
    (not_mem_of_contains (contains_iff_mem_ids h fun _ _ hb => hb.states.id) hmissing)

theorem failsOnly_sharedRuntimes {assets : Dict TechnicalAsset}
    (hassets : ∀ id, assets.contains id = true ↔ id ∈ m.assetIds) :
    FailsOnly (·.HoldsOf m)
      (m.sharedRuntimes.entries.foldlM (addSharedRuntime (tagsOf m) assets) .empty) := by
  have hids : m.runtimeIds ∈ m.elementIds := by simp [ModelInput.elementIds]
  refine (addsOne_sharedRuntime assets).failsOnly_foldlM (fun e => e.2.id)
    (fun _ _ hr => hr.states.id) fun d e he htwice => ?_
  have hx : m.sharedRuntimes.get? e.1 = some e.2 := Dict.get?_eq_some_iff.2 he
  have hmem : e.2.id ∈ m.runtimeIds := List.mem_map_of_mem (Dict.mem_values_of_mem_entries he)
  unfold addSharedRuntime
  refine .bind (failsOnly_checkId fun hid => ⟨⟨_, hids, hmem⟩, hid⟩) fun _ _ => ?_
  refine .bind (failsOnly_checkNew fun htaken => holdsOf_duplicate hids (htwice htaken))
    fun _ _ => ?_
  refine .bind (failsOnly_checkReferences fun _ hid hmissing => Fault.holdsOf_reference
    (k := .asset) (.running hx hid) (not_mem_of_contains hassets hmissing)) fun _ _ => ?_
  exact .bind (failsOnly_sharedRuntime hx) fun _ _ => failsOnly_pure _

theorem failsOnly_individualCategories {g : Model} (hg : Knows g m) :
    FailsOnly (·.HoldsOf m)
      (m.individualCategories.entries.foldlM (addIndividualCategory g) .empty) := by
  refine failsOnly_foldlM_make (fun e => e.2.id) (fun e c hc => (individualCategory_spec hc).2.1.id)
    (fun e he => failsOnly_individualCategory hg (Dict.get?_eq_some_iff.2 he)) fun k hk => ?_
  exact holdsOf_duplicate (by simp [ModelInput.elementIds, ModelInput.categoryIds]) hk

theorem failsOnly_tracking :
    FailsOnly (·.HoldsOf m) (m.tracking.entries.foldlM addTrackingRecord .empty) := by
  refine failsOnly_foldlM_make (fun e => Text.fold e.1)
    (fun e r hr => (trackingRecord_spec hr).syntheticRiskId)
    (fun e he => failsOnly_trackingRecord (Dict.get?_eq_some_iff.2 he)) fun k hk => ?_
  refine ⟨m.tracking.keys.map Text.fold, List.mem_append_right _ (List.mem_singleton_self _), ?_⟩
  rwa [Dict.map_keys]

/-- The title of an asset and its links are looked at again when all assets are there. -/
theorem failsOnly_checkTargets {known : Dict DataAsset} {assets : Dict TechnicalAsset}
    (h : Collects (MakesTechnicalAsset m known) (·.id) m.technicalAssets.entries assets) :
    FailsOnly (·.HoldsOf m) (checkTargets assets) := by
  refine failsOnly_forM fun a ha => failsOnly_forM fun l hl => ?_
  obtain ⟨e, he, hmakes⟩ := h.exists_of_mem ha
  obtain ⟨stated, hstated, hperm⟩ := hmakes.states.links
  obtain ⟨s, hs, hlink⟩ := exists_left_of_mem hstated (hperm.mem_iff.2 hl)
  refine failsOnly_checkReferences fun id hid hmissing => ?_
  rw [List.mem_singleton.1 hid] at hmissing ⊢
  rw [hmakes.states.title, hlink.title, hlink.targetId]
  rw [hlink.targetId] at hmissing
  exact Fault.holdsOf_reference (k := .asset)
    (.linkTarget (Dict.get?_eq_some_iff.2 he) (Dict.get?_eq_some_iff.2 hs))
    (not_mem_of_contains (contains_iff_mem_ids h fun _ _ ha => ha.states.id) hmissing)

/-! ## Validation fails for what the model states -/

theorem failsOnly_build (today : Date) : FailsOnly (·.HoldsOf m) (build today m) := by
  have htags : m.tagsAvailable.map Text.fold = tagsOf m := rfl
  simp only [build, htags]
  refine .bind (failsOnly_value (Fault.holdsOf_word (.application (by simp [ModelInput.words]))))
    fun criticality _ => ?_
  refine .bind (failsOnly_date? fun hdate => ⟨rfl, hdate⟩) fun date _ => ?_
  -- From here on each collection is complete before the next one refers to it.
  refine .bind failsOnly_dataAssets fun dataAssets hdata => ?_
  rw [collects_iff addsOne_dataAsset] at hdata
  have hdataIds := contains_iff_mem_ids hdata fun _ _ hd => hd.states.id
  refine .bind (failsOnly_technicalAssets hdataIds) fun assets hassets => ?_
  rw [collects_iff (addsOne_technicalAsset dataAssets)] at hassets
  have hassetIds := contains_iff_mem_ids hassets fun _ _ ha => ha.states.id
  refine .bind (failsOnly_trustBoundaries hassetIds) fun state hloop => ?_
  obtain ⟨boundaries, placed⟩ := state
  obtain ⟨hboundaries, -⟩ := foldlM_addTrustBoundary_eq_ok_iff.1 ⟨placed, hloop⟩
  refine .bind (failsOnly_checkNesting hboundaries) fun _ _ => ?_
  refine .bind (failsOnly_sharedRuntimes hassetIds) fun runtimes hruntimes => ?_
  rw [collects_iff (addsOne_sharedRuntime assets)] at hruntimes
  let p : Parts := ⟨criticality, date, dataAssets, assets, boundaries, runtimes, .empty, .empty⟩
  have hgraph : Knows (p.graph today m) m :=
    Parts.knows_graph hdata hassets hboundaries hruntimes
  refine .bind (failsOnly_individualCategories hgraph) fun _ _ => ?_
  refine .bind failsOnly_tracking fun _ _ => ?_
  refine .bind (failsOnly_checkTargets hassets) fun _ _ => ?_
  exact failsOnly_pure _

/-- Whatever fault validation ends with, it is a fault of the stated model. -/
theorem build_fails_truthfully {today : Date} {fault : Fault} (h : build today m = .error fault) :
    fault.HoldsOf m :=
  failsOnly_build today fault h

/-- Two tracking records that are for one risk, which only folding their keys shows. -/
def trackedTwice : ModelInput where
  businessCriticality := "important"
  tracking := .ofList [(" Leak@* ", { status := "accepted", date := "2024-02-29" }),
    ("leak@*", { status := "false-positive" })]

theorem trackedTwice_duplicate :
    build ⟨2024, 3, 1⟩ trackedTwice = .error (.duplicateId "leak@*") ∧
      (Fault.duplicateId "leak@*").HoldsOf trackedTwice := by
  have h : build ⟨2024, 3, 1⟩ trackedTwice = .error (.duplicateId "leak@*") := by rfl
  exact ⟨h, build_fails_truthfully h⟩

end Validation

end ThreatModel
