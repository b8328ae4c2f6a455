import ThreatModel.Proofs.Validation.Collection
import ThreatModel.Proofs.Validation.Statement

/-!
# What a successful validation has found

The collections of a model are built one after the other, and each is checked against those built
before; only link targets wait until all assets are there. `build_eq_ok_iff` lists what is known when
the last check has passed, each collection by what was collected from its entries. Nothing later
looks at the order of the checks again: `Parts.Checked` is the interface to `build`.
-/

namespace ThreatModel.Validation

/-! ## What an entry is made into -/

/-- The tags that the elements of a stated model may have. -/
def tagsOf (x : ModelInput) : List String := x.tagsAvailable.map Text.fold

variable {x : ModelInput}

/-- An entry of a stated model is made into a data asset. -/
def MakesDataAsset (x : ModelInput) (e : String × DataAssetInput) (d : DataAsset) : Prop :=
  IsId e.2.id ∧ dataAsset (tagsOf x) e.1 e.2 = .ok d

theorem MakesDataAsset.states {e : String × DataAssetInput} {d : DataAsset}
    (h : MakesDataAsset x e d) : e.2.States e.1 d := (dataAsset_spec h.2).1

/-- An entry is made into a technical asset; so far some data assets are known. -/
def MakesTechnicalAsset (x : ModelInput) (known : Dict DataAsset)
    (e : String × TechnicalAssetInput) (a : TechnicalAsset) : Prop :=
  technicalAsset (tagsOf x) known e.1 e.2 = .ok a

theorem MakesTechnicalAsset.states {known : Dict DataAsset} {e : String × TechnicalAssetInput}
    {a : TechnicalAsset} (h : MakesTechnicalAsset x known e a) : e.2.States e.1 a :=
  (technicalAsset_spec h).2.1

/-- An entry is made into a trust boundary. -/
def MakesTrustBoundary (x : ModelInput) (e : String × TrustBoundaryInput) (b : TrustBoundary) :
    Prop :=
  IsId e.2.id ∧ trustBoundary (tagsOf x) e.1 e.2 = .ok b

theorem MakesTrustBoundary.states {e : String × TrustBoundaryInput} {b : TrustBoundary}
    (h : MakesTrustBoundary x e b) : e.2.States e.1 b := (trustBoundary_spec h.2).1

/-- An entry is made into a shared runtime of some assets. -/
def MakesSharedRuntime (x : ModelInput) (assets : Dict TechnicalAsset)
    (e : String × SharedRuntimeInput) (r : SharedRuntime) : Prop :=
  IsId e.2.id ∧ (∀ id ∈ e.2.assetsRunning, assets.contains id = true) ∧
    sharedRuntime (tagsOf x) e.1 e.2 = .ok r

theorem MakesSharedRuntime.states {assets : Dict TechnicalAsset} {e : String × SharedRuntimeInput}
    {r : SharedRuntime} (h : MakesSharedRuntime x assets e r) : e.2.States e.1 r :=
  (sharedRuntime_spec h.2.2).1

/-- An entry is made into a category of risks about a graph. -/
def MakesCategory (g : Model) (e : String × IndividualCategoryInput) (c : IndividualCategory) :
    Prop :=
  individualCategory g e.1 e.2 = .ok c

theorem MakesCategory.states {g : Model} {e : String × IndividualCategoryInput}
    {c : IndividualCategory} (h : MakesCategory g e c) : e.2.States e.1 c :=
  (individualCategory_spec h).2.1

/-- An entry is made into a tracking record. -/
def MakesRecord (e : String × TrackingInput) (r : TrackingRecord) : Prop :=
  trackingRecord e.1 e.2 = .ok r

theorem MakesRecord.states {e : String × TrackingInput} {r : TrackingRecord}
    (h : MakesRecord e r) : e.2.States e.1 r := trackingRecord_spec h

/-! ## What each collection is built from -/

/-- A loop over entries that are made into elements first. -/
theorem addsOne_make {α β : Type} (make : String × α → Except Fault β) (key : β → String) :
    AddsOne (fun e v => make e = .ok v) key fun d e => do
      let v ← make e
      checkNew d (key v)
      return d.insert (key v) v := by
  intro d e d'
  simp only [bind_eq_ok_iff, checkNew_eq_ok_iff, pure_eq_ok_iff]
  constructor
  · rintro ⟨v, hv, _, hnew, rfl⟩
    exact ⟨v, hv, hnew, rfl⟩
  · rintro ⟨v, hv, hnew, rfl⟩
    exact ⟨v, hv, (), hnew, rfl⟩

/-- A loop over entries whose ids are checked before they are made into elements. -/
theorem addsOne_checked {α β : Type} {make : String × α → Except Fault β} {key : β → String}
    {id : String × α → String} (hkey : ∀ e v, make e = .ok v → key v = id e) :
    AddsOne (fun e v => IsId (id e) ∧ make e = .ok v) key fun d e => do
      checkId (id e)
      checkNew d (id e)
      return d.insert (id e) (← make e) := by
  intro d e d'
  simp only [bind_eq_ok_iff, checkId_eq_ok_iff, checkNew_eq_ok_iff, pure_eq_ok_iff]
  constructor
  · rintro ⟨_, hid, _, hnew, v, hv, rfl⟩
    rw [← hkey e v hv] at hid hnew ⊢
    exact ⟨v, ⟨hid, hv⟩, hnew, rfl⟩
  · rintro ⟨v, ⟨hid, hv⟩, hnew, rfl⟩
    rw [hkey e v hv] at hnew ⊢
    exact ⟨(), hid, (), hnew, v, hv, rfl⟩

theorem addsOne_dataAsset : AddsOne (MakesDataAsset x) (·.id) (addDataAsset (tagsOf x)) :=
  addsOne_checked fun _ _ hv => (dataAsset_spec hv).1.id

theorem addsOne_technicalAsset (known : Dict DataAsset) :
    AddsOne (MakesTechnicalAsset x known) (·.id) (addTechnicalAsset (tagsOf x) known) :=
  addsOne_make _ _

/-- The part of the loop over trust boundaries that builds them. -/
def addBoundary (available : List String) (d : Dict TrustBoundary)
    (e : String × TrustBoundaryInput) : Except Fault (Dict TrustBoundary) := do
  checkId e.2.id
  checkNew d e.2.id
  return d.insert e.2.id (← trustBoundary available e.1 e.2)

theorem addsOne_boundary : AddsOne (MakesTrustBoundary x) (·.id) (addBoundary (tagsOf x)) :=
  addsOne_checked fun _ _ hv => (trustBoundary_spec hv).1.id

/-- The loop over trust boundaries builds them and places assets on the side. -/
theorem addTrustBoundary_eq_ok_iff (available : List String) (assets : Dict TechnicalAsset)
    (s : Dict TrustBoundary × List String) (e : String × TrustBoundaryInput)
    (s' : Dict TrustBoundary × List String) :
    addTrustBoundary available assets s e = .ok s' ↔
      addBoundary available s.1 e = .ok s'.1 ∧
        e.2.assetsInside.foldlM (place assets e.1) s.2 = .ok s'.2 := by
  simp only [addTrustBoundary, addBoundary, bind_eq_ok_iff, checkId_eq_ok_iff, checkNew_eq_ok_iff,
    pure_eq_ok_iff]
  constructor
  · rintro ⟨_, hid, _, hnew, placed, hplaced, b, hb, rfl⟩
    exact ⟨⟨(), hid, (), hnew, b, hb, rfl⟩, hplaced⟩
  · rintro ⟨⟨_, hid, _, hnew, b, hb, heq⟩, hplaced⟩
    exact ⟨(), hid, (), hnew, _, hplaced, b, hb, Prod.ext heq rfl⟩

theorem foldlM_addTrustBoundary_eq_ok_iff {assets : Dict TechnicalAsset}
    {l : List (String × TrustBoundaryInput)} {boundaries : Dict TrustBoundary} :
    (∃ placed, l.foldlM (addTrustBoundary (tagsOf x) assets) (.empty, []) =
        .ok (boundaries, placed)) ↔
      Collects (MakesTrustBoundary x) (·.id) l boundaries ∧
        (∀ id ∈ l.flatMap (·.2.assetsInside), assets.contains id = true) ∧
          (l.flatMap (·.2.assetsInside)).Nodup := by
  have hsplit := foldlM_pair_eq_ok_iff (addBoundary (tagsOf x))
    (fun placed e => e.2.assetsInside.foldlM (place assets e.1) placed)
    (addTrustBoundary_eq_ok_iff (tagsOf x) assets) l (.empty, [])
  simp only [hsplit, collects_iff addsOne_boundary, foldlM_placeAll_eq_ok_iff]
  simp

theorem addsOne_sharedRuntime (assets : Dict TechnicalAsset) :
    AddsOne (MakesSharedRuntime x assets) (·.id) (addSharedRuntime (tagsOf x) assets) := by
  intro d e d'
  simp only [addSharedRuntime, bind_eq_ok_iff, checkId_eq_ok_iff, checkNew_eq_ok_iff,
    checkReferences_eq_ok_iff, pure_eq_ok_iff]
  constructor
  · rintro ⟨_, hid, _, hnew, _, hrunning, v, hv, rfl⟩
    have hmakes : MakesSharedRuntime x assets e v := ⟨hid, hrunning, hv⟩
    rw [← hmakes.states.id] at hnew ⊢
    exact ⟨v, hmakes, hnew, rfl⟩
  · rintro ⟨v, hmakes, hnew, rfl⟩
    rw [hmakes.states.id] at hnew ⊢
    exact ⟨(), hmakes.1, (), hnew, (), hmakes.2.1, v, hmakes.2.2, rfl⟩

theorem addsOne_individualCategory (g : Model) :
    AddsOne (MakesCategory g) (·.category.id) (addIndividualCategory g) :=
  addsOne_make _ _

theorem addsOne_trackingRecord : AddsOne MakesRecord (·.syntheticRiskId) addTrackingRecord :=
  addsOne_make _ _

/-! ## Checks over a whole collection -/

theorem checkNesting_eq_ok_iff {d : Dict TrustBoundary} {u : Unit} :
    checkNesting d = .ok u ↔ ∀ b ∈ d.values, ∀ id ∈ b.nested, d.contains id = true := by
  simp only [checkNesting, List.forM_eq_forM, forM_eq_ok_iff, checkReferences_eq_ok_iff]

theorem checkTargets_eq_ok_iff {assets : Dict TechnicalAsset} {u : Unit} :
    checkTargets assets = .ok u ↔
      ∀ a ∈ assets.values, ∀ l ∈ a.links, assets.contains l.targetId = true := by
  simp only [checkTargets, List.forM_eq_forM, forM_eq_ok_iff, checkReferences_eq_ok_iff,
    List.forall_mem_singleton]

/-! ## The whole -/

/-- What validation builds from a stated model. -/
structure Parts where
  criticality : Criticality
  date : Option Date
  dataAssets : Dict DataAsset
  technicalAssets : Dict TechnicalAsset
  trustBoundaries : Dict TrustBoundary
  sharedRuntimes : Dict SharedRuntime
  individualCategories : Dict IndividualCategory
  tracking : Dict TrackingRecord

/-- The graph that individual risks are checked against. -/
def Parts.graph (p : Parts) (today : Date) (x : ModelInput) : Model :=
  Model.reindex {
    title := x.title
    author := ⟨x.author.name, x.author.homepage⟩
    date := p.date.getD today
    businessCriticality := p.criticality
    managementSummaryComment := x.managementSummaryComment
    businessOverview := ⟨x.businessOverview.description, x.businessOverview.images⟩
    technicalOverview := ⟨x.technicalOverview.description, x.technicalOverview.images⟩
    securityRequirements := x.securityRequirements
    questions := x.questions
    abuseCases := x.abuseCases
    tagsAvailable := tagsOf x
    dataAssets := p.dataAssets
    technicalAssets := p.technicalAssets
    trustBoundaries := p.trustBoundaries
    sharedRuntimes := p.sharedRuntimes }

/-- The model that the parts make up. -/
def Parts.model (p : Parts) (today : Date) (x : ModelInput) : Model :=
  { p.graph today x with individualCategories := p.individualCategories, tracking := p.tracking }

/-- The graph is what a stated model says, as far as validation has looked. -/
structure Parts.GraphChecked (x : ModelInput) (p : Parts) : Prop where
  criticality : Reads x.businessCriticality p.criticality
  date : ReadsDate x.date p.date
  dataAssets :
    Collects (MakesDataAsset x) (·.id) x.dataAssets.entries p.dataAssets
  technicalAssets :
    Collects (MakesTechnicalAsset x p.dataAssets) (·.id) x.technicalAssets.entries
      p.technicalAssets
  targets : ∀ a ∈ p.technicalAssets.values, ∀ l ∈ a.links,
    p.technicalAssets.contains l.targetId = true
  trustBoundaries :
    Collects (MakesTrustBoundary x) (·.id) x.trustBoundaries.entries p.trustBoundaries
  inside : ∀ id ∈ x.trustBoundaries.entries.flatMap (·.2.assetsInside),
    p.technicalAssets.contains id = true
  inside_nodup : (x.trustBoundaries.entries.flatMap (·.2.assetsInside)).Nodup
  nested : ∀ b ∈ p.trustBoundaries.values, ∀ id ∈ b.nested, p.trustBoundaries.contains id = true
  sharedRuntimes :
    Collects (MakesSharedRuntime x p.technicalAssets) (·.id) x.sharedRuntimes.entries
      p.sharedRuntimes

/-- All parts are what a stated model says, as far as validation has looked. -/
structure Parts.Checked (today : Date) (x : ModelInput) (p : Parts) : Prop
    extends p.GraphChecked x where
  individualCategories :
    Collects (MakesCategory (p.graph today x)) (·.category.id) x.individualCategories.entries
      p.individualCategories
  tracking :
    Collects MakesRecord (·.syntheticRiskId) x.tracking.entries p.tracking

/-- Validation succeeds with the model that checked parts make up. -/
theorem build_eq_ok_iff {today : Date} {m : Model} :
    build today x = .ok m ↔ ∃ p : Parts, p.Checked today x ∧ p.model today x = m := by
  have htags : x.tagsAvailable.map Text.fold = tagsOf x := rfl
  simp only [build, bind_eq_ok_iff, value_eq_ok_iff, date?_eq_ok_iff, pure_eq_ok_iff, htags,
    collects_iff addsOne_dataAsset, collects_iff (addsOne_technicalAsset _),
    collects_iff (addsOne_sharedRuntime _), collects_iff (addsOne_individualCategory _),
    collects_iff addsOne_trackingRecord, checkNesting_eq_ok_iff, checkTargets_eq_ok_iff]
  constructor
  · rintro ⟨criticality, hcriticality, date, hdate, dataAssets, hdata, assets, hassets,
      ⟨boundaries, placed⟩, hloop, _, hnested, runtimes, hruntimes, categories, hcategories,
      tracking, htracking, _, htargets, rfl⟩
    obtain ⟨hboundaries, hinside, hnodup⟩ :=
      foldlM_addTrustBoundary_eq_ok_iff.1 ⟨placed, hloop⟩
    exact ⟨⟨criticality, date, dataAssets, assets, boundaries, runtimes, categories, tracking⟩,
      ⟨⟨hcriticality, hdate, hdata, hassets, htargets, hboundaries, hinside, hnodup, hnested,
        hruntimes⟩, hcategories, htracking⟩, rfl⟩
  · rintro ⟨p, hp, rfl⟩
    obtain ⟨placed, hloop⟩ :=
      foldlM_addTrustBoundary_eq_ok_iff.2 ⟨hp.trustBoundaries, hp.inside, hp.inside_nodup⟩
    exact ⟨p.criticality, hp.criticality, p.date, hp.date, p.dataAssets, hp.dataAssets,
      p.technicalAssets, hp.technicalAssets, (p.trustBoundaries, placed), hloop, (), hp.nested,
      p.sharedRuntimes, hp.sharedRuntimes, p.individualCategories, hp.individualCategories,
      p.tracking, hp.tracking, (), hp.targets, rfl⟩

end ThreatModel.Validation
