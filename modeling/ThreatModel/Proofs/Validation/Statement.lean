import ThreatModel.Proofs.Validation.Success

/-!
# What an entry states

A stated element is an entry of texts under a title. `x.States t v` says that `v` is the element that
the entry `x` under the title `t` stands for, field by field: texts are kept, words are read, tags are
folded, references and flags are taken over. `v.Refers …` says that what the element refers to is
there. A check that succeeds gives an element with both (`dataAsset_spec` and its siblings); the
siblings differ in their fields only, the argument is the same reading of the sequence of checks.
-/

namespace ThreatModel

open Validation

/-! ## Data assets -/

/-- A data asset is what an entry under the title `t` says. -/
structure DataAssetInput.States (x : DataAssetInput) (t : String) (d : DataAsset) : Prop where
  id : d.id = x.id
  title : d.title = t
  description : d.description = textOr t x.description
  usage : ReadsOr .business x.usage d.usage
  tags : d.tags = x.tags.map Text.fold
  origin : d.origin = x.origin
  owner : d.owner = x.owner
  quantity : Reads x.quantity d.quantity
  confidentiality : Reads x.confidentiality d.confidentiality
  integrity : Reads x.integrity d.integrity
  availability : Reads x.availability d.availability
  justificationCiaRating : d.justificationCiaRating = x.justificationCiaRating

theorem Validation.dataAsset_spec {available : List String} {t : String} {x : DataAssetInput}
    {d : DataAsset} (h : dataAsset available t x = .ok d) :
    x.States t d ∧ ∀ tag ∈ d.tags, tag ∈ available := by
  simp only [dataAsset, bind_eq_ok_iff, pure_eq_ok_iff, value_eq_ok_iff, valueOr_eq_ok_iff,
    checkTags_eq_ok_iff] at h
  obtain ⟨usage, husage, tags, ⟨htags, havailable⟩, quantity, hquantity, confidentiality,
    hconfidentiality, integrity, hintegrity, availability, havailability, rfl⟩ := h
  exact ⟨⟨rfl, rfl, rfl, husage, htags, rfl, rfl, hquantity, hconfidentiality, hintegrity,
    havailability, rfl⟩, havailable⟩

/-! ## Communication links -/

/-- A link is what an entry under the title `t` says that belongs to the asset with the id
`source`. Its weight is at least one, and its constraint is stated the other way round. -/
structure LinkInput.States (x : LinkInput) (source t : String) (l : Link) : Prop where
  id : l.id = source ++ ">" ++ Text.slug t
  sourceId : l.sourceId = source
  targetId : l.targetId = x.target
  title : l.title = t
  description : l.description = textOr t x.description
  protocol : Reads x.protocol l.protocol
  tags : l.tags = x.tags.map Text.fold
  vpn : l.vpn = x.vpn
  ipFiltered : l.ipFiltered = x.ipFiltered
  readonly : l.readonly = x.readonly
  authentication : Reads x.authentication l.authentication
  authorization : Reads x.authorization l.authorization
  usage : Reads x.usage l.usage
  dataSent : l.dataSent = x.dataSent
  dataReceived : l.dataReceived = x.dataReceived
  diagramWeight : l.diagramWeight = max x.diagramWeight 1
  diagramConstraint : l.diagramConstraint = !x.diagramConstraint

/-- What a link carries exists, and its tags are available. -/
structure Link.Refers (available : List String) (known : Dict DataAsset) (l : Link) : Prop where
  data : ∀ id ∈ l.dataSent ++ l.dataReceived, known.contains id = true
  tags : ∀ tag ∈ l.tags, tag ∈ available

theorem Validation.link_spec {available : List String} {known : Dict DataAsset}
    {source assetTitle t : String} {x : LinkInput} {l : Link}
    (h : link available known source assetTitle t x = .ok l) :
    x.States source t l ∧ l.Refers available known := by
  simp only [link, bind_eq_ok_iff, pure_eq_ok_iff, value_eq_ok_iff, checkTags_eq_ok_iff,
    checkReferences_eq_ok_iff] at h
  obtain ⟨_, hdata, protocol, hprotocol, tags, ⟨htags, havailable⟩, authentication,
    hauthentication, authorization, hauthorization, usage, husage, rfl⟩ := h
  exact ⟨⟨rfl, rfl, rfl, rfl, rfl, hprotocol, htags, rfl, rfl, rfl, hauthentication,
    hauthorization, husage, rfl, rfl, rfl, rfl⟩, hdata, havailable⟩

/-! ## Technical assets -/

/-- A technical asset is what an entry under the title `t` says. Its links are those stated, in the
order of their ids instead of their titles, and its attractiveness is not known yet. -/
structure TechnicalAssetInput.States (x : TechnicalAssetInput) (t : String) (a : TechnicalAsset) :
    Prop where
  id : a.id = x.id
  title : a.title = t
  description : a.description = textOr t x.description
  kind : Reads x.kind a.kind
  usage : Reads x.usage a.usage
  usedAsClientByHuman : a.usedAsClientByHuman = x.usedAsClientByHuman
  outOfScope : a.outOfScope = x.outOfScope
  justificationOutOfScope : a.justificationOutOfScope = x.justificationOutOfScope
  size : Reads x.size a.size
  technology : Reads x.technology a.technology
  machine : Reads x.machine a.machine
  internet : a.internet = x.internet
  multiTenant : a.multiTenant = x.multiTenant
  redundant : a.redundant = x.redundant
  customDevelopedParts : a.customDevelopedParts = x.customDevelopedParts
  encryption : Reads x.encryption a.encryption
  owner : a.owner = x.owner
  confidentiality : Reads x.confidentiality a.confidentiality
  integrity : Reads x.integrity a.integrity
  availability : Reads x.availability a.availability
  justificationCiaRating : a.justificationCiaRating = x.justificationCiaRating
  tags : a.tags = x.tags.map Text.fold
  dataProcessed : a.dataProcessed = x.dataProcessed
  dataStored : a.dataStored = x.dataStored
  formatsAccepted : List.Forall₂ Reads x.formatsAccepted a.formatsAccepted
  links : ∃ stated,
    List.Forall₂ (fun e l => LinkInput.States e.2 x.id e.1 l) x.links.entries stated ∧
      stated.Perm a.links
  diagramOrder : a.diagramOrder = x.diagramOrder
  raa : a.raa = 0

/-- What a technical asset and its links refer to exists; the links are in the strict order of their
ids. Where the links lead is not looked at. -/
structure TechnicalAsset.Refers (available : List String) (known : Dict DataAsset)
    (a : TechnicalAsset) : Prop where
  data : ∀ id ∈ a.dataProcessed ++ a.dataStored, known.contains id = true
  tags : ∀ tag ∈ a.tags, tag ∈ available
  links : ∀ l ∈ a.links, l.Refers available known
  sorted : a.links.Pairwise (·.id < ·.id)

/-- One more link, whose id none of the links so far has. -/
theorem Validation.addLink_eq_ok_iff {available : List String} {known : Dict DataAsset}
    {source assetTitle : String} {links links' : List Link} {e : String × LinkInput} :
    addLink available known source assetTitle links e = .ok links' ↔
      ∃ l, link available known source assetTitle e.1 e.2 = .ok l ∧ l.id ∉ links.map (·.id) ∧
        links' = links ++ [l] := by
  simp only [addLink, bind_eq_ok_iff, require_eq_ok_iff, pure_eq_ok_iff]
  constructor
  · rintro ⟨l, hl, _, hnew, rfl⟩
    exact ⟨l, hl, by simpa using hnew, rfl⟩
  · rintro ⟨l, hl, hnew, rfl⟩
    exact ⟨l, hl, (), by simpa using hnew, rfl⟩

/-- The links of an asset: one for each entry, with distinct ids. -/
theorem Validation.foldlM_addLink_eq_ok_iff {available : List String} {known : Dict DataAsset}
    {source assetTitle : String} {entries : List (String × LinkInput)} {links links' : List Link} :
    entries.foldlM (addLink available known source assetTitle) links = .ok links' ↔
      ∃ stated, List.Forall₂ (fun e l => link available known source assetTitle e.1 e.2 = .ok l)
          entries stated ∧
        (stated.map (·.id)).Nodup ∧ (∀ l ∈ stated, l.id ∉ links.map (·.id)) ∧
          links' = links ++ stated := by
  induction entries generalizing links with
  | nil =>
    rw [List.foldlM_nil, pure_eq_ok_iff]
    constructor
    · rintro rfl
      exact ⟨[], .nil, .nil, by simp, by simp⟩
    · rintro ⟨_, hstated, -, -, rfl⟩
      cases hstated
      simp
  | cons e entries ih =>
    rw [List.foldlM_cons, bind_eq_ok_iff]
    simp only [addLink_eq_ok_iff, ih]
    constructor
    · rintro ⟨_, ⟨l, hl, hnew, rfl⟩, stated, hstated, hnodup, hfresh, rfl⟩
      simp only [List.map_append, List.mem_append, not_or] at hfresh
      refine ⟨l :: stated, .cons hl hstated, ?_, ?_, by simp⟩
      · refine List.nodup_cons.2 ⟨fun hmem => ?_, hnodup⟩
        obtain ⟨k, hk, heq⟩ := List.mem_map.1 hmem
        exact (hfresh k hk).2 (by simp [heq])
      · exact List.forall_mem_cons.2 ⟨hnew, fun k hk => (hfresh k hk).1⟩
    · rintro ⟨_, hstated, hnodup, hfresh, rfl⟩
      obtain ⟨l, stated, hl, hrest, rfl⟩ := List.forall₂_cons_left_iff.1 hstated
      rw [List.map_cons, List.nodup_cons] at hnodup
      obtain ⟨hnew, hfresh⟩ := List.forall_mem_cons.1 hfresh
      refine ⟨_, ⟨l, hl, hnew, rfl⟩, stated, hrest, hnodup.2, fun k hk => ?_, by simp⟩
      rw [List.map_append, List.mem_append, not_or]
      refine ⟨hfresh k hk, fun hmem => hnodup.1 ?_⟩
      rw [List.map_singleton, List.mem_singleton] at hmem
      exact hmem ▸ List.mem_map_of_mem hk

/-- Links with distinct ids are sorted strictly. -/
theorem Validation.pairwise_sortLinks {links : List Link} (h : (links.map (·.id)).Nodup) :
    (sortLinks links).Pairwise (·.id < ·.id) := by
  have hperm : (sortLinks links).Perm links := List.mergeSort_perm ..
  have hle : (sortLinks links).Pairwise fun a b => decide (a.id ≤ b.id) = true := by
    refine List.pairwise_mergeSort ?_ ?_ links
    · intro a b c hab hbc
      simp only [decide_eq_true_eq] at *
      exact String.le_trans hab hbc
    · intro a b
      simpa using String.le_total a.id b.id
  have hne : (sortLinks links).Pairwise fun a b => a.id ≠ b.id :=
    List.pairwise_map.1 ((hperm.map _).nodup_iff.2 h)
  refine List.Pairwise.imp₂ ?_ hle hne
  intro a b hab hab'
  rw [decide_eq_true_eq] at hab
  exact String.not_le.1 fun hba => hab' (String.le_antisymm hab hba)

theorem Validation.technicalAsset_spec {available : List String} {known : Dict DataAsset}
    {t : String} {x : TechnicalAssetInput} {a : TechnicalAsset}
    (h : technicalAsset available known t x = .ok a) :
    IsId a.id ∧ x.States t a ∧ a.Refers available known := by
  simp only [technicalAsset, bind_eq_ok_iff, pure_eq_ok_iff, value_eq_ok_iff, checkId_eq_ok_iff,
    checkTags_eq_ok_iff, checkReferences_eq_ok_iff, mapM_eq_ok_iff,
    foldlM_addLink_eq_ok_iff] at h
  obtain ⟨_, hid, _, hdata, formats, hformats, links, ⟨_, hlinks, hnodup, -, rfl⟩, kind, hkind,
    usage, husage, size, hsize, technology, htechnology, machine, hmachine, encryption,
    hencryption, confidentiality, hconfidentiality, integrity, hintegrity, availability,
    havailability, tags, ⟨htags, havailable⟩, rfl⟩ := h
  have hperm : (sortLinks links).Perm links := List.mergeSort_perm ..
  refine ⟨hid, ⟨rfl, rfl, rfl, hkind, husage, rfl, rfl, rfl, hsize, htechnology, hmachine, rfl, rfl,
    rfl, rfl, hencryption, rfl, hconfidentiality, hintegrity, havailability, rfl, htags, rfl, rfl,
    hformats, ⟨links, ?_, hperm.symm⟩, rfl, rfl⟩, hdata, havailable, ?_, ?_⟩
  · exact hlinks.imp fun e l hl => (link_spec hl).1
  · intro l hl
    obtain ⟨e, -, hl⟩ := exists_left_of_mem hlinks (hperm.mem_iff.1 hl)
    exact (link_spec hl).2
  · exact pairwise_sortLinks hnodup

/-! ## Trust boundaries and shared runtimes -/

/-- A trust boundary is what an entry under the title `t` says. -/
structure TrustBoundaryInput.States (x : TrustBoundaryInput) (t : String) (b : TrustBoundary) :
    Prop where
  id : b.id = x.id
  title : b.title = t
  description : b.description = textOr t x.description
  kind : Reads x.kind b.kind
  tags : b.tags = x.tags.map Text.fold
  assetsInside : b.assetsInside = x.assetsInside
  nested : b.nested = x.nested

theorem Validation.trustBoundary_spec {available : List String} {t : String}
    {x : TrustBoundaryInput} {b : TrustBoundary} (h : trustBoundary available t x = .ok b) :
    x.States t b ∧ ∀ tag ∈ b.tags, tag ∈ available := by
  simp only [trustBoundary, bind_eq_ok_iff, pure_eq_ok_iff, value_eq_ok_iff,
    checkTags_eq_ok_iff] at h
  obtain ⟨kind, hkind, tags, ⟨htags, havailable⟩, rfl⟩ := h
  exact ⟨⟨rfl, rfl, rfl, hkind, htags, rfl, rfl⟩, havailable⟩

/-- A shared runtime is what an entry under the title `t` says. -/
structure SharedRuntimeInput.States (x : SharedRuntimeInput) (t : String) (r : SharedRuntime) :
    Prop where
  id : r.id = x.id
  title : r.title = t
  description : r.description = textOr t x.description
  tags : r.tags = x.tags.map Text.fold
  assetsRunning : r.assetsRunning = x.assetsRunning

theorem Validation.sharedRuntime_spec {available : List String} {t : String}
    {x : SharedRuntimeInput} {r : SharedRuntime} (h : sharedRuntime available t x = .ok r) :
    x.States t r ∧ ∀ tag ∈ r.tags, tag ∈ available := by
  simp only [sharedRuntime, bind_eq_ok_iff, pure_eq_ok_iff, checkTags_eq_ok_iff] at h
  obtain ⟨tags, ⟨htags, havailable⟩, rfl⟩ := h
  exact ⟨⟨rfl, rfl, rfl, htags, rfl⟩, havailable⟩

/-! ## Individual risks and their categories -/

/-- A risk of the category with the id `category` is what an entry under the title `t` says. Its
severity is the stated one, it is unchecked, and its id is composed of what it refers to. -/
structure IndividualRiskInput.States (x : IndividualRiskInput) (category t : String) (r : Risk) :
    Prop where
  category : r.category = category
  status : r.status = .unchecked
  severity : ReadsOr .medium x.severity r.severity
  likelihood : ReadsOr .likely x.likelihood r.likelihood
  impact : ReadsOr .medium x.impact r.impact
  title : r.title = t
  syntheticId : r.syntheticId = r.composedId
  dataAsset : ReadsReference x.dataAsset r.dataAsset
  technicalAsset : ReadsReference x.technicalAsset r.technicalAsset
  link : ReadsReference x.link r.link
  boundary : ReadsReference x.boundary r.boundary
  runtime : ReadsReference x.runtime r.runtime
  breachProbability : ReadsOr .possible x.breachProbability r.breachProbability
  breachAssets : r.breachAssets = x.breachAssets

/-- What a risk refers to exists in a model. -/
structure Risk.Refers (m : Model) (r : Risk) : Prop where
  dataAsset : ∀ id ∈ r.dataAsset, m.dataAssets.contains id = true
  technicalAsset : ∀ id ∈ r.technicalAsset, m.technicalAssets.contains id = true
  link : ∀ id ∈ r.link, (m.link? id).isSome = true
  boundary : ∀ id ∈ r.boundary, m.trustBoundaries.contains id = true
  runtime : ∀ id ∈ r.runtime, m.sharedRuntimes.contains id = true
  breachAssets : ∀ id ∈ r.breachAssets, m.technicalAssets.contains id = true

theorem Validation.individualRisk_spec {m : Model} {category t : String} {x : IndividualRiskInput}
    {r : Risk} (h : individualRisk m category t x = .ok r) :
    x.States category t r ∧ r.Refers m := by
  simp only [individualRisk, bind_eq_ok_iff, pure_eq_ok_iff, valueOr_eq_ok_iff,
    reference_eq_ok_iff, checkReferences_eq_ok_iff] at h
  obtain ⟨severity, hseverity, likelihood, hlikelihood, impact, himpact, probability, hprobability,
    dataAsset, ⟨hdata, hdata'⟩, asset, ⟨hasset, hasset'⟩, link, ⟨hlink, hlink'⟩,
    boundary, ⟨hboundary, hboundary'⟩, runtime, ⟨hruntime, hruntime'⟩, _, hbreach, rfl⟩ := h
  exact ⟨⟨rfl, rfl, hseverity, hlikelihood, himpact, rfl, rfl, hdata, hasset, hlink, hboundary,
    hruntime, hprobability, rfl⟩, hdata', hasset', hlink', hboundary', hruntime', hbreach⟩

/-- A category with its risks is what an entry under the title `t` says. -/
structure IndividualCategoryInput.States (x : IndividualCategoryInput) (t : String)
    (c : IndividualCategory) : Prop where
  id : c.category.id = x.id
  title : c.category.title = t
  description : c.category.description = textOr t x.description
  impact : c.category.impact = x.impact
  asvs : c.category.asvs = x.asvs
  cheatSheet : c.category.cheatSheet = x.cheatSheet
  action : c.category.action = x.action
  mitigation : c.category.mitigation = x.mitigation
  check : c.category.check = x.check
  detectionLogic : c.category.detectionLogic = x.detectionLogic
  riskAssessment : c.category.riskAssessment = x.riskAssessment
  falsePositives : c.category.falsePositives = x.falsePositives
  function : Reads x.function c.category.function
  stride : Reads x.stride c.category.stride
  modelFailurePossible : c.category.modelFailurePossible = x.modelFailurePossible
  cwe : c.category.cwe = x.cwe
  risks : List.Forall₂ (fun e r => IndividualRiskInput.States e.2 x.id e.1 r) x.risks.entries
    c.risks

theorem Validation.individualCategory_spec {m : Model} {t : String} {x : IndividualCategoryInput}
    {c : IndividualCategory} (h : individualCategory m t x = .ok c) :
    IsId c.category.id ∧ x.States t c ∧ ∀ r ∈ c.risks, r.Refers m := by
  simp only [individualCategory, bind_eq_ok_iff, pure_eq_ok_iff, value_eq_ok_iff, checkId_eq_ok_iff,
    mapM_eq_ok_iff] at h
  obtain ⟨_, hid, function, hfunction, stride, hstride, risks, hrisks, rfl⟩ := h
  refine ⟨hid, ⟨rfl, rfl, rfl, rfl, rfl, rfl, rfl, rfl, rfl, rfl, rfl, rfl, hfunction, hstride, rfl,
    rfl, ?_⟩, ?_⟩
  · exact hrisks.imp fun e r hr => (individualRisk_spec hr).1
  · intro r hr
    obtain ⟨e, -, hr⟩ := exists_left_of_mem hrisks hr
    exact (individualRisk_spec hr).2

/-! ## Tracking records -/

/-- A tracking record is what an entry under the key `k` says. -/
structure TrackingInput.States (x : TrackingInput) (k : String) (r : TrackingRecord) : Prop where
  syntheticRiskId : r.syntheticRiskId = Text.fold k
  justification : r.justification = x.justification
  ticket : r.ticket = x.ticket
  checkedBy : r.checkedBy = x.checkedBy
  status : Reads x.status r.status
  date : ReadsDate x.date r.date

theorem Validation.trackingRecord_spec {k : String} {x : TrackingInput} {r : TrackingRecord}
    (h : trackingRecord k x = .ok r) : x.States k r := by
  simp only [trackingRecord, bind_eq_ok_iff, pure_eq_ok_iff, value_eq_ok_iff, date?_eq_ok_iff] at h
  obtain ⟨date, hdate, status, hstatus, rfl⟩ := h
  exact ⟨rfl, rfl, rfl, rfl, hstatus, hdate⟩

end ThreatModel
