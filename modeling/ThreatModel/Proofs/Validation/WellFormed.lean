import ThreatModel.Proofs.Model.Index
import ThreatModel.Proofs.Text.Folding
import ThreatModel.Proofs.Validation.Build

/-!
# Checked models are well formed and lossless

`Model.WellFormed` is what the rules rely on: elements stand under their own ids, every reference has
an element, no asset is in two places, links are told apart by their ids. `ModelInput.StatesModel`
relates a stated model to a checked one: the elements of each kind are those stated under the titles,
one for each title. Validation establishes both, from what it has found (`Parts.Checked`). Of the
invariant only the distinct link ids are found by no check: two assets may well have links with the
same title. Such links differ by their source, which ends at the first `>` of the link id since an
id has none.
-/

namespace ThreatModel

open Validation

/-! ## Well-formed models -/

/-- Every element is stored under its own id, and that is an id by its characters. -/
def Dict.KeyedBy {α : Type} (id : α → String) (d : Dict α) : Prop :=
  ∀ k v, d.get? k = some v → id v = k ∧ IsId k

/-- The ids of elements under their own ids are the keys, in their order. -/
theorem Dict.KeyedBy.map_values {α : Type} {id : α → String} {d : Dict α} (h : d.KeyedBy id) :
    d.values.map id = d.keys := by
  rw [Dict.values, Dict.keys, List.map_map]
  exact List.map_congr_left fun e he => (h e.1 e.2 (Dict.get?_eq_some_iff.2 he)).1

/-- Elements under their own ids have distinct ids. -/
theorem Dict.KeyedBy.nodup {α : Type} {id : α → String} {d : Dict α} (h : d.KeyedBy id) :
    (d.values.map id).Nodup := h.map_values ▸ d.nodup_keys

/-- The tags of all elements. -/
def Model.elementTags (m : Model) : List String :=
  m.dataAssets.values.flatMap (·.tags) ++ m.technicalAssets.values.flatMap (·.tags) ++
    m.links.flatMap (·.tags) ++ m.trustBoundaries.values.flatMap (·.tags) ++
      m.sharedRuntimes.values.flatMap (·.tags)

/-- The joint invariant of a checked model. -/
structure Model.WellFormed (m : Model) : Prop where
  dataAssets : m.dataAssets.KeyedBy (·.id)
  technicalAssets : m.technicalAssets.KeyedBy (·.id)
  trustBoundaries : m.trustBoundaries.KeyedBy (·.id)
  sharedRuntimes : m.sharedRuntimes.KeyedBy (·.id)
  individualCategories : m.individualCategories.KeyedBy (·.category.id)
  /-- Data that an asset processes or stores. -/
  assetData : ∀ a ∈ m.technicalAssets.values, ∀ id ∈ a.dataProcessed ++ a.dataStored,
    m.dataAssets.contains id = true
  /-- Data that a link sends or receives. -/
  linkData : ∀ l ∈ m.links, ∀ id ∈ l.dataSent ++ l.dataReceived, m.dataAssets.contains id = true
  targets : ∀ l ∈ m.links, m.technicalAssets.contains l.targetId = true
  inside : ∀ b ∈ m.trustBoundaries.values, ∀ id ∈ b.assetsInside,
    m.technicalAssets.contains id = true
  nested : ∀ b ∈ m.trustBoundaries.values, ∀ id ∈ b.nested, m.trustBoundaries.contains id = true
  running : ∀ r ∈ m.sharedRuntimes.values, ∀ id ∈ r.assetsRunning,
    m.technicalAssets.contains id = true
  risks : ∀ c ∈ m.individualCategories.values, ∀ r ∈ c.risks, r.Refers m
  /-- No asset is listed twice over all boundaries. -/
  inside_nodup : (m.trustBoundaries.values.flatMap (·.assetsInside)).Nodup
  tags_available : ∀ tag ∈ m.elementTags, tag ∈ m.tagsAvailable
  tags_folded : ∀ tag ∈ m.tagsAvailable, Text.trim tag = tag ∧ Text.lower tag = tag
  link_source : ∀ a ∈ m.technicalAssets.values, ∀ l ∈ a.links, l.sourceId = a.id
  link_ids_nodup : (m.links.map (·.id)).Nodup
  links_sorted : ∀ a ∈ m.technicalAssets.values, a.links.Pairwise (·.id < ·.id)
  link?_of_mem : ∀ l ∈ m.links, m.link? l.id = some l
  /-- A risk of the model has the id of its category, and its own id is composed of what it refers
  to. -/
  risk_ids : ∀ c ∈ m.individualCategories.values, ∀ r ∈ c.risks,
    r.category = c.category.id ∧ r.syntheticId = r.composedId
  tracking : ∀ k r, m.tracking.get? k = some r →
    Text.trim k = k ∧ Text.lower k = k ∧ r.syntheticRiskId = k
  /-- The index fits the graph. -/
  index : m.reindex = m

/-! ## What a stated model says -/

/-- The elements of a dictionary are what the stated entries say: one for each entry, and nothing
else. -/
def Corresponds {α β : Type} (states : α → String → β → Prop) (stated : Dict α) (d : Dict β) :
    Prop :=
  ∃ built, List.Forall₂ (fun e v => states e.2 e.1 v) stated.entries built ∧ built.Perm d.values

/-- Every element is stated by an entry. -/
theorem Corresponds.exists_of_mem {α β : Type} {states : α → String → β → Prop} {stated : Dict α}
    {d : Dict β} (h : Corresponds states stated d) {v : β} (hv : v ∈ d.values) :
    ∃ e ∈ stated.entries, states e.2 e.1 v := by
  obtain ⟨built, hbuilt, hperm⟩ := h
  exact exists_left_of_mem hbuilt (hperm.mem_iff.2 hv)

/-- A model is what a stated model says; without a date it is of today. -/
structure ModelInput.StatesModel (today : Date) (x : ModelInput) (m : Model) : Prop where
  title : m.title = x.title
  author : m.author = ⟨x.author.name, x.author.homepage⟩
  date : ∃ date, ReadsDate x.date date ∧ m.date = date.getD today
  businessCriticality : Reads x.businessCriticality m.businessCriticality
  managementSummaryComment : m.managementSummaryComment = x.managementSummaryComment
  businessOverview :
    m.businessOverview = ⟨x.businessOverview.description, x.businessOverview.images⟩
  technicalOverview :
    m.technicalOverview = ⟨x.technicalOverview.description, x.technicalOverview.images⟩
  securityRequirements : m.securityRequirements = x.securityRequirements
  questions : m.questions = x.questions
  abuseCases : m.abuseCases = x.abuseCases
  tagsAvailable : m.tagsAvailable = x.tagsAvailable.map Text.fold
  dataAssets : Corresponds DataAssetInput.States x.dataAssets m.dataAssets
  technicalAssets : Corresponds TechnicalAssetInput.States x.technicalAssets m.technicalAssets
  trustBoundaries : Corresponds TrustBoundaryInput.States x.trustBoundaries m.trustBoundaries
  sharedRuntimes : Corresponds SharedRuntimeInput.States x.sharedRuntimes m.sharedRuntimes
  individualCategories :
    Corresponds IndividualCategoryInput.States x.individualCategories m.individualCategories
  tracking : Corresponds TrackingInput.States x.tracking m.tracking

/-! ## From entries to elements -/

namespace Validation

variable {α β : Type} {R : String × α → β → Prop} {key : β → String} {d : Dict β}

theorem Collects.keyedBy {l : List (String × α)} (h : Collects R key l d)
    (hid : ∀ e v, R e v → IsId (key v)) : d.KeyedBy key := by
  intro k v hv
  obtain ⟨e, -, he⟩ := h.exists_of_mem (Dict.mem_values_of_get? hv)
  have hkey : key v = k := h.key_eq hv
  exact ⟨hkey, hkey ▸ hid e v he⟩

theorem Collects.corresponds {stated : Dict α} {states : α → String → β → Prop}
    (h : Collects R key stated.entries d) (hstates : ∀ e v, R e v → states e.2 e.1 v) :
    Corresponds states stated d := by
  obtain ⟨vs, hvs, hperm⟩ := h.forall₂_perm
  exact ⟨vs, hvs.imp hstates, hperm⟩

/-! ## Link ids -/

/-- The source of a link can be told from the link's id. -/
theorem linkId_inj_source {a b s t : String} (ha : IsId a) (hb : IsId b)
    (h : a ++ ">" ++ s = b ++ ">" ++ t) : a = b := by
  have hfree (id : String) (hid : IsId id) : ∀ c ∈ id.toList, decide (c ≠ '>') = true := by
    intro c hc
    have := hid.2 c hc
    simp only [decide_eq_true_eq]
    rintro rfl
    revert this
    decide
  -- The source is what stands before the first `>`.
  have hprefix (id rest : String) (hid : IsId id) :
      (id ++ ">" ++ rest).toList.takeWhile (· ≠ '>') = id.toList := by
    rw [String.toList_append, String.toList_append, List.append_assoc,
      List.takeWhile_append_of_pos (hfree id hid)]
    simp
  rw [← String.toList_inj, ← hprefix a s ha, ← hprefix b t hb, h]

/-! ## The invariant -/

namespace Parts.Checked

variable {today : Date} {x : ModelInput} {p : Parts}

theorem technicalAsset_of_mem (h : p.Checked today x) {a : TechnicalAsset}
    (ha : a ∈ p.technicalAssets.values) :
    IsId a.id ∧ a.Refers (tagsOf x) p.dataAssets ∧ ∀ l ∈ a.links, l.sourceId = a.id ∧
      ∃ title, l.id = a.id ++ ">" ++ Text.slug title := by
  obtain ⟨e, -, he⟩ := h.technicalAssets.exists_of_mem ha
  obtain ⟨hid, hstates, hrefers⟩ := technicalAsset_spec he
  refine ⟨hid, hrefers, fun l hl => ?_⟩
  obtain ⟨stated, hstated, hperm⟩ := hstates.links
  obtain ⟨e', -, hl⟩ := exists_left_of_mem hstated (hperm.mem_iff.2 hl)
  rw [hstates.id]
  exact ⟨hl.sourceId, e'.1, hl.id⟩

theorem technicalAssets_keyedBy (h : p.Checked today x) : p.technicalAssets.KeyedBy (·.id) :=
  h.technicalAssets.keyedBy fun _ _ ha => (technicalAsset_spec ha).1

/-- Links of one asset differ by their order, links of two assets by their sources. -/
theorem link_ids_nodup (h : p.Checked today x) :
    ((p.technicalAssets.values.flatMap (·.links)).map (·.id)).Nodup := by
  rw [List.map_flatMap, List.nodup_flatMap]
  constructor
  · -- within an asset the ids ascend strictly
    intro a ha
    obtain ⟨-, hrefers, -⟩ := h.technicalAsset_of_mem ha
    refine List.pairwise_map.2 (hrefers.sorted.imp ?_)
    intro l k hlt heq
    exact String.lt_irrefl k.id (heq ▸ hlt)
  · -- equal ids in two assets would have equal sources
    have hne : p.technicalAssets.values.Pairwise fun a b => a.id ≠ b.id :=
      List.pairwise_map.1 h.technicalAssets_keyedBy.nodup
    refine hne.imp_of_mem ?_
    intro a b ha hb hab id hida hidb
    obtain ⟨la, hla, rfl⟩ := List.mem_map.1 hida
    obtain ⟨lb, hlb, heq⟩ := List.mem_map.1 hidb
    obtain ⟨haId, -, halinks⟩ := h.technicalAsset_of_mem ha
    obtain ⟨hbId, -, hblinks⟩ := h.technicalAsset_of_mem hb
    obtain ⟨-, ta, hta⟩ := halinks la hla
    obtain ⟨-, tb, htb⟩ := hblinks lb hlb
    exact hab (linkId_inj_source haId hbId (hta ▸ htb ▸ heq.symm))

theorem tags_available (h : p.Checked today x) :
    ∀ tag ∈ (p.model today x).elementTags, tag ∈ tagsOf x := by
  intro tag htag
  simp only [Model.elementTags, List.mem_append, List.mem_flatMap] at htag
  rcases htag with
    (((⟨d, hd, htag⟩ | ⟨a, ha, htag⟩) | ⟨l, hl, htag⟩) | ⟨b, hb, htag⟩) | ⟨r, hr, htag⟩
  · obtain ⟨e, -, -, he⟩ := h.dataAssets.exists_of_mem hd
    exact (dataAsset_spec he).2 tag htag
  · exact (h.technicalAsset_of_mem ha).2.1.tags tag htag
  · obtain ⟨a, ha, hl⟩ := List.mem_flatMap.1 hl
    exact ((h.technicalAsset_of_mem ha).2.1.links l hl).tags tag htag
  · obtain ⟨e, -, -, he⟩ := h.trustBoundaries.exists_of_mem hb
    exact (trustBoundary_spec he).2 tag htag
  · obtain ⟨e, -, -, -, he⟩ := h.sharedRuntimes.exists_of_mem hr
    exact (sharedRuntime_spec he).2 tag htag

/-- What the boundaries list is what the entries list. -/
theorem inside_perm (h : p.Checked today x) :
    (p.trustBoundaries.values.flatMap (·.assetsInside)).Perm
      (x.trustBoundaries.entries.flatMap (·.2.assetsInside)) :=
  h.trustBoundaries.flatMap_perm fun _ _ hb => .of_eq hb.states.assetsInside

theorem risk_of_mem (h : p.Checked today x) {c : IndividualCategory}
    (hc : c ∈ p.individualCategories.values) {r : Risk} (hr : r ∈ c.risks) :
    r.Refers (p.graph today x) ∧ r.category = c.category.id ∧ r.syntheticId = r.composedId := by
  obtain ⟨e, -, he⟩ := h.individualCategories.exists_of_mem hc
  obtain ⟨-, hstates, hrefers⟩ := individualCategory_spec he
  obtain ⟨e', -, hr'⟩ := exists_left_of_mem hstates.risks hr
  exact ⟨hrefers r hr, hr'.category.trans hstates.id.symm, hr'.syntheticId⟩

theorem wellFormed (h : p.Checked today x) : (p.model today x).WellFormed where
  dataAssets := h.dataAssets.keyedBy fun _ _ hd => hd.states.id ▸ hd.1
  technicalAssets := h.technicalAssets_keyedBy
  trustBoundaries := h.trustBoundaries.keyedBy fun _ _ hb => hb.states.id ▸ hb.1
  sharedRuntimes := h.sharedRuntimes.keyedBy fun _ _ hr => hr.states.id ▸ hr.1
  individualCategories :=
    h.individualCategories.keyedBy fun _ _ hc => (individualCategory_spec hc).1
  assetData a ha := (h.technicalAsset_of_mem ha).2.1.data
  linkData l hl := by
    obtain ⟨a, ha, hl⟩ := List.mem_flatMap.1 hl
    exact ((h.technicalAsset_of_mem ha).2.1.links l hl).data
  targets l hl := by
    obtain ⟨a, ha, hl⟩ := List.mem_flatMap.1 hl
    exact h.targets a ha l hl
  inside b hb id hid :=
    h.inside id (h.inside_perm.mem_iff.1 (List.mem_flatMap.2 ⟨b, hb, hid⟩))
  nested := h.nested
  running r hr := by
    obtain ⟨e, -, -, hrunning, he⟩ := h.sharedRuntimes.exists_of_mem hr
    exact (sharedRuntime_spec he).1.assetsRunning ▸ hrunning
  risks c hc r hr := by
    -- The graph lacks only what no reference of a risk is looked up in.
    obtain ⟨⟨hdata, hasset, hlink, hboundary, hruntime, hbreach⟩, -⟩ := h.risk_of_mem hc hr
    exact ⟨hdata, hasset, hlink, hboundary, hruntime, hbreach⟩
  inside_nodup := h.inside_perm.nodup_iff.2 h.inside_nodup
  tags_available := h.tags_available
  tags_folded tag htag := by
    obtain ⟨stated, -, rfl⟩ := List.mem_map.1 htag
    exact ⟨Text.trim_fold stated, Text.lower_fold stated⟩
  link_source a ha l hl := ((h.technicalAsset_of_mem ha).2.2 l hl).1
  link_ids_nodup := h.link_ids_nodup
  links_sorted a ha := (h.technicalAsset_of_mem ha).2.1.sorted
  link?_of_mem _ hl := Model.link?_reindex_of_mem (m := p.graph today x) h.link_ids_nodup hl
  risk_ids c hc r hr := (h.risk_of_mem hc hr).2
  tracking k r hr := by
    have hkey : r.syntheticRiskId = k := h.tracking.key_eq hr
    obtain ⟨e, -, he⟩ := h.tracking.exists_of_mem (Dict.mem_values_of_get? hr)
    have hfold : r.syntheticRiskId = Text.fold e.1 := he.states.syntheticRiskId
    rw [← hkey, hfold]
    exact ⟨Text.trim_fold e.1, Text.lower_fold e.1, rfl⟩
  index := rfl

theorem statesModel (h : p.Checked today x) : x.StatesModel today (p.model today x) where
  title := rfl
  author := rfl
  date := ⟨p.date, h.date, rfl⟩
  businessCriticality := h.criticality
  managementSummaryComment := rfl
  businessOverview := rfl
  technicalOverview := rfl
  securityRequirements := rfl
  questions := rfl
  abuseCases := rfl
  tagsAvailable := rfl
  dataAssets := h.dataAssets.corresponds fun _ _ hd => hd.states
  technicalAssets := h.technicalAssets.corresponds fun _ _ ha => ha.states
  trustBoundaries := h.trustBoundaries.corresponds fun _ _ hb => hb.states
  sharedRuntimes := h.sharedRuntimes.corresponds fun _ _ hr => hr.states
  individualCategories :=
    h.individualCategories.corresponds fun _ _ hc => hc.states
  tracking := h.tracking.corresponds fun _ _ hr => hr.states

end Parts.Checked

/-- Validation gives a well-formed model that says what was stated, nothing less and nothing
more. -/
theorem build_wellFormed_and_lossless {today : Date} {x : ModelInput} {m : Model}
    (h : build today x = .ok m) : m.WellFormed ∧ x.StatesModel today m := by
  obtain ⟨p, hp, rfl⟩ := build_eq_ok_iff.1 h
  exact ⟨hp.wellFormed, hp.statesModel⟩

/-- A shop that stores its orders, with an element of every kind. -/
def bookshop : ModelInput where
  title := "Bookshop"
  businessCriticality := "important"
  tagsAvailable := ["PCI"]
  dataAssets := .ofList [("Orders",
    { id := "orders", quantity := "many", confidentiality := "confidential",
      integrity := "critical", availability := "operational", tags := [" pci "] })]
  technicalAssets := .ofList [
    ("Shop", {
      id := "shop", kind := "process", usage := "business", size := "service"
      technology := "web-server", machine := "container", encryption := "none"
      confidentiality := "confidential", integrity := "critical", availability := "critical"
      dataProcessed := ["orders"]
      links := .ofList [("Order Storage",
        { target := "store", protocol := "jdbc-encrypted", authentication := "credentials",
          authorization := "technical-user", usage := "business", dataSent := ["orders"] })] }),
    ("Store", {
      id := "store", kind := "datastore", usage := "business", size := "component"
      technology := "database", machine := "virtual", encryption := "Transparent"
      confidentiality := "confidential", integrity := "critical", availability := "critical"
      dataStored := ["orders"] })]
  trustBoundaries := .ofList [("Cloud",
    { id := "cloud", kind := "network-cloud-provider", assetsInside := ["shop", "store"] })]
  sharedRuntimes := .ofList [("Cluster", { id := "cluster", assetsRunning := ["shop"] })]
  individualCategories := .ofList [("Data Leak",
    { id := "leak", function := "operations", stride := "information-disclosure"
      risks := .ofList [("Leak of orders",
        { link := " shop>order-storage ", dataAsset := "orders", breachAssets := ["store"] })] })]
  tracking := .ofList [(" Leak@* ", { status := "accepted", date := "2024-02-29" })]

theorem bookshop_wellFormed_and_lossless :
    ∃ m, build ⟨2024, 3, 1⟩ bookshop = .ok m ∧ m.WellFormed ∧
      bookshop.StatesModel ⟨2024, 3, 1⟩ m := by
  have hok : (build ⟨2024, 3, 1⟩ bookshop).isOk = true := by decide +kernel
  cases hm : build ⟨2024, 3, 1⟩ bookshop with
  | error fault => simp [hm, Except.isOk, Except.toBool] at hok
  | ok m => exact ⟨m, rfl, build_wellFormed_and_lossless hm⟩

end Validation

end ThreatModel
