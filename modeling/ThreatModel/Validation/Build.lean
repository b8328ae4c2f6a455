import ThreatModel.Validation.Element

/-!
# From stated to checked models

`Validation.build` checks a stated model and builds the cross-referenced graph. The checks run in a
fixed order and the first fault ends them: data assets, technical assets, boundaries and their nesting,
runtimes, individual categories, tracking records, and last the targets of links, which may be any
technical asset.
-/

namespace ThreatModel.Validation

/-- Adds a data asset. -/
def addDataAsset (available : List String) (d : Dict DataAsset) (e : String × DataAssetInput) :
    Except Fault (Dict DataAsset) := do
  checkId e.2.id
  checkNew d e.2.id
  return d.insert e.2.id (← dataAsset available e.1 e.2)

/-- Adds a technical asset. -/
def addTechnicalAsset (available : List String) (dataAssets : Dict DataAsset)
    (d : Dict TechnicalAsset) (e : String × TechnicalAssetInput) :
    Except Fault (Dict TechnicalAsset) := do
  let a ← technicalAsset available dataAssets e.1 e.2
  checkNew d a.id
  return d.insert a.id a

/-- Places an asset inside a boundary, which no asset may be twice. -/
def place (assets : Dict TechnicalAsset) (title : String) (placed : List String) (id : String) :
    Except Fault (List String) := do
  require (assets.contains id) (.missingReference "technical asset" (named "trust boundary" title) id)
  require (!placed.contains id) (.multipleBoundaries id title)
  return id :: placed

/-- Adds a trust boundary; the state has the boundaries and the assets placed so far. -/
def addTrustBoundary (available : List String) (assets : Dict TechnicalAsset)
    (s : Dict TrustBoundary × List String) (e : String × TrustBoundaryInput) :
    Except Fault (Dict TrustBoundary × List String) := do
  checkId e.2.id
  checkNew s.1 e.2.id
  let placed ← e.2.assetsInside.foldlM (place assets e.1) s.2
  return (s.1.insert e.2.id (← trustBoundary available e.1 e.2), placed)

/-- Fails unless all nested boundaries exist. -/
def checkNesting (d : Dict TrustBoundary) : Except Fault Unit :=
  d.values.forM fun b =>
    checkReferences d "nested trust boundary" (named "trust boundary" b.title) b.nested

/-- Adds a shared runtime. -/
def addSharedRuntime (available : List String) (assets : Dict TechnicalAsset)
    (d : Dict SharedRuntime) (e : String × SharedRuntimeInput) :
    Except Fault (Dict SharedRuntime) := do
  checkId e.2.id
  checkNew d e.2.id
  checkReferences assets "technical asset target" (named "shared runtime" e.1) e.2.assetsRunning
  return d.insert e.2.id (← sharedRuntime available e.1 e.2)

/-- Adds an individual category. -/
def addIndividualCategory (m : Model) (d : Dict IndividualCategory)
    (e : String × IndividualCategoryInput) : Except Fault (Dict IndividualCategory) := do
  let c ← individualCategory m e.1 e.2
  checkNew d c.category.id
  return d.insert c.category.id c

/-- Adds a tracking record. -/
def addTrackingRecord (d : Dict TrackingRecord) (e : String × TrackingInput) :
    Except Fault (Dict TrackingRecord) := do
  let r ← trackingRecord e.1 e.2
  checkNew d r.syntheticRiskId
  return d.insert r.syntheticRiskId r

/-- Fails unless all links end at an asset. -/
def checkTargets (assets : Dict TechnicalAsset) : Except Fault Unit :=
  assets.values.forM fun a => a.links.forM fun l =>
    checkReferences assets "technical asset target"
      (named "communication link" l.title ++ " of " ++ named "technical asset" a.title) [l.targetId]

/-- Checks a stated model and builds its graph. A model without a date is of today. -/
def build (today : Date) (x : ModelInput) : Except Fault Model := do
  let criticality ← value "business_criticality" "application" x.businessCriticality
  let date ← date? (.invalidDate x.date) x.date
  let available := x.tagsAvailable.map Text.fold
  let dataAssets ← x.dataAssets.entries.foldlM (addDataAsset available) .empty
  let assets ← x.technicalAssets.entries.foldlM (addTechnicalAsset available dataAssets) .empty
  let (boundaries, _) ←
    x.trustBoundaries.entries.foldlM (addTrustBoundary available assets) (.empty, [])
  checkNesting boundaries
  let runtimes ← x.sharedRuntimes.entries.foldlM (addSharedRuntime available assets) .empty
  let graph := Model.reindex {
    title := x.title
    author := ⟨x.author.name, x.author.homepage⟩
    date := date.getD today
    businessCriticality := criticality
    managementSummaryComment := x.managementSummaryComment
    businessOverview := ⟨x.businessOverview.description, x.businessOverview.images⟩
    technicalOverview := ⟨x.technicalOverview.description, x.technicalOverview.images⟩
    securityRequirements := x.securityRequirements
    questions := x.questions
    abuseCases := x.abuseCases
    tagsAvailable := available
    dataAssets := dataAssets
    technicalAssets := assets
    trustBoundaries := boundaries
    sharedRuntimes := runtimes }
  let categories ← x.individualCategories.entries.foldlM (addIndividualCategory graph) .empty
  let tracking ← x.tracking.entries.foldlM addTrackingRecord .empty
  checkTargets assets
  return { graph with individualCategories := categories, tracking := tracking }

end ThreatModel.Validation
