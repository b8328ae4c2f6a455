import ThreatModel.Model.Element
import ThreatModel.Risk.Individual
import ThreatModel.Risk.TrackingRecord

/-!
# Models

A model is the graph of its elements, keyed by id, together with an index that answers questions
about neighbours. The index is derived: `Model.reindex` computes it from the graph and has to be
applied after a change of the graph.
-/

namespace ThreatModel

/-- What is looked up often, derived from the graph. -/
structure Index where
  /-- The links to an asset, by source id and then link id. -/
  incoming : Dict (List Link) := .empty
  linksById : Dict Link := .empty
  /-- The boundary that an asset lies in directly. -/
  directBoundary : Dict String := .empty
  /-- The boundary that a boundary is nested in. -/
  parentBoundary : Dict String := .empty
  deriving DecidableEq, Inhabited

/-- The cross-referenced graph of a system. -/
structure Model where
  title : String
  author : Author := {}
  date : Date
  businessCriticality : Criticality
  managementSummaryComment : String := ""
  businessOverview : Overview := {}
  technicalOverview : Overview := {}
  securityRequirements : Dict String := .empty
  questions : Dict String := .empty
  abuseCases : Dict String := .empty
  tagsAvailable : List String := []
  dataAssets : Dict DataAsset := .empty
  technicalAssets : Dict TechnicalAsset := .empty
  trustBoundaries : Dict TrustBoundary := .empty
  sharedRuntimes : Dict SharedRuntime := .empty
  individualCategories : Dict IndividualCategory := .empty
  /-- Keyed by risk id or pattern in lower case. -/
  tracking : Dict TrackingRecord := .empty
  index : Index := {}
  deriving BEq, DecidableEq, Inhabited

namespace Model

/-! ## The index -/

/-- All links, by source asset and then in the order of the asset. -/
def links (m : Model) : List Link := m.technicalAssets.values.flatMap (·.links)

/-- Enters a link into an index. -/
def indexLink (i : Index) (l : Link) : Index :=
  { i with incoming := i.incoming.push l.targetId l, linksById := i.linksById.insert l.id l }

/-- Enters the members of a boundary into an index; the first boundary to list a member counts. -/
def indexBoundary (i : Index) (b : TrustBoundary) : Index :=
  { i with
    directBoundary := b.assetsInside.foldl (fun d a => d.insertNew a b.id) i.directBoundary
    parentBoundary := b.nested.foldl (fun d n => d.insertNew n b.id) i.parentBoundary }

/-- The index of the graph. -/
def buildIndex (m : Model) : Index :=
  m.trustBoundaries.values.foldl indexBoundary (m.links.foldl indexLink {})

/-- The model with an index that fits its graph. -/
def reindex (m : Model) : Model := { m with index := m.buildIndex }

/-- The index depends on the graph only. -/
theorem reindex_reindex (m : Model) : m.reindex.reindex = m.reindex := rfl

/-! ## Neighbours -/

/-- The link with an id. -/
def link? (m : Model) (id : String) : Option Link := m.index.linksById.get? id

/-- The links that end at an asset. -/
def incomingLinks (m : Model) (id : String) : List Link := (m.index.incoming.get? id).getD []

/-- The assets that the model is about. -/
def inScope (m : Model) : List TechnicalAsset := m.technicalAssets.values.filter (!·.outOfScope)

/-- The boundary that an asset lies in directly. -/
def directBoundary (m : Model) (assetId : String) : Option TrustBoundary :=
  (m.index.directBoundary.get? assetId).bind m.trustBoundaries.get?

/-- The boundary that a boundary is nested in. -/
def parentBoundary (m : Model) (boundaryId : String) : Option TrustBoundary :=
  (m.index.parentBoundary.get? boundaryId).bind m.trustBoundaries.get?

/-- The runtimes that an asset runs in. -/
def runtimesOf (m : Model) (assetId : String) : List SharedRuntime :=
  m.sharedRuntimes.values.filter (·.assetsRunning.contains assetId)

/-- The data assets with some ids; ids without one are passed over. -/
def dataOf (m : Model) (ids : List String) : List DataAsset := ids.filterMap m.dataAssets.get?

/-! ## JSON form -/

/-- The names of the fields in order. -/
def fieldNames : List String :=
  ["title", "author", "date", "business_criticality", "management_summary_comment",
    "business_overview", "technical_overview", "security_requirements", "questions", "abuse_cases",
    "tags_available", "data_assets", "technical_assets", "trust_boundaries", "shared_runtimes",
    "individual_risk_categories", "risk_tracking"]

/-- Reads a model, whose index is computed anew. -/
def ofJson? (j : Json) : Option Model := do
  let s ← j.slots? fieldNames
  return Model.reindex {
    title := ← Record.required s "title" Json.text?
    author := ← Record.optional s "author" Author.ofJson? {}
    date := ← Record.required s "date" TrackingRecord.dateOfJson?
    businessCriticality := ← Record.required s "business_criticality" Json.word?
    managementSummaryComment := ← Record.optional s "management_summary_comment" Json.text? ""
    businessOverview := ← Record.optional s "business_overview" Overview.ofJson? {}
    technicalOverview := ← Record.optional s "technical_overview" Overview.ofJson? {}
    securityRequirements := ← Record.optional s "security_requirements" Record.textDict .empty
    questions := ← Record.optional s "questions" Record.textDict .empty
    abuseCases := ← Record.optional s "abuse_cases" Record.textDict .empty
    tagsAvailable := ← Record.optional s "tags_available" Record.texts []
    dataAssets := ← Record.optional s "data_assets" (Record.dict DataAsset.ofJson?) .empty
    technicalAssets :=
      ← Record.optional s "technical_assets" (Record.dict TechnicalAsset.ofJson?) .empty
    trustBoundaries :=
      ← Record.optional s "trust_boundaries" (Record.dict TrustBoundary.ofJson?) .empty
    sharedRuntimes :=
      ← Record.optional s "shared_runtimes" (Record.dict SharedRuntime.ofJson?) .empty
    individualCategories :=
      ← Record.optional s "individual_risk_categories" (Record.dict IndividualCategory.ofJson?) .empty
    tracking := ← Record.optional s "risk_tracking" (Record.dict TrackingRecord.ofJson?) .empty }

/-- A model as an object, without its index. -/
def toJson (m : Model) : Json :=
  .object
    [("title", .string m.title), ("author", m.author.toJson), ("date", .string m.date.render),
      ("business_criticality", .ofWord m.businessCriticality),
      ("management_summary_comment", .string m.managementSummaryComment),
      ("business_overview", m.businessOverview.toJson),
      ("technical_overview", m.technicalOverview.toJson),
      ("security_requirements", .ofDict .string m.securityRequirements),
      ("questions", .ofDict .string m.questions), ("abuse_cases", .ofDict .string m.abuseCases),
      ("tags_available", .ofTexts m.tagsAvailable),
      ("data_assets", .ofDict DataAsset.toJson m.dataAssets),
      ("technical_assets", .ofDict TechnicalAsset.toJson m.technicalAssets),
      ("trust_boundaries", .ofDict TrustBoundary.toJson m.trustBoundaries),
      ("shared_runtimes", .ofDict SharedRuntime.toJson m.sharedRuntimes),
      ("individual_risk_categories", .ofDict IndividualCategory.toJson m.individualCategories),
      ("risk_tracking", .ofDict TrackingRecord.toJson m.tracking)]

end Model

end ThreatModel
