import ThreatModel.Input.Basic
import ThreatModel.Model.Basic
import ThreatModel.Text.Slug
import ThreatModel.Validation.Field

/-!
# Checks of elements

One function per kind of element turns what was stated under a title into the element, or tells the
first fault in a fixed order of checks.
-/

namespace ThreatModel.Validation

/-- A title after what it is the title of. -/
def named (kind title : String) : String := kind ++ " '" ++ title ++ "'"

/-- A data asset. -/
def dataAsset (available : List String) (title : String) (x : DataAssetInput) :
    Except Fault DataAsset := do
  let element := named "data asset" title
  return {
    id := x.id
    title := title
    description := textOr title x.description
    usage := ← valueOr .business "usage" element x.usage
    tags := ← checkTags available element x.tags
    origin := x.origin
    owner := x.owner
    quantity := ← value "quantity" element x.quantity
    confidentiality := ← value "confidentiality" element x.confidentiality
    integrity := ← value "integrity" element x.integrity
    availability := ← value "availability" element x.availability
    justificationCiaRating := x.justificationCiaRating }

/-- The id of the link with a title that starts at an asset. -/
def linkId (sourceId title : String) : String := sourceId ++ ">" ++ Text.slug title

/-- A communication link of a technical asset. -/
def link (available : List String) (dataAssets : Dict DataAsset) (sourceId assetTitle title : String)
    (x : LinkInput) : Except Fault Link := do
  let element := named "technical asset" assetTitle ++ " " ++ named "communication link" title
  let location := named "communication link" title ++ " of " ++ named "technical asset" assetTitle
  checkReferences dataAssets "data asset target" location (x.dataSent ++ x.dataReceived)
  return {
    id := linkId sourceId title
    sourceId := sourceId
    targetId := x.target
    title := title
    description := textOr title x.description
    protocol := ← value "protocol" element x.protocol
    tags := ← checkTags available location x.tags
    vpn := x.vpn
    ipFiltered := x.ipFiltered
    readonly := x.readonly
    authentication := ← value "authentication" element x.authentication
    authorization := ← value "authorization" element x.authorization
    usage := ← value "usage" element x.usage
    dataSent := x.dataSent
    dataReceived := x.dataReceived
    diagramWeight := max x.diagramWeight 1
    diagramConstraint := !x.diagramConstraint }

/-- Adds a link to the links of its asset, whose ids must differ. -/
def addLink (available : List String) (dataAssets : Dict DataAsset) (sourceId assetTitle : String)
    (links : List Link) (entry : String × LinkInput) : Except Fault (List Link) := do
  let l ← link available dataAssets sourceId assetTitle entry.1 entry.2
  require (!links.any (·.id = l.id)) (.duplicateId l.id)
  return links ++ [l]

/-- Links in the order of their ids. -/
def sortLinks (links : List Link) : List Link := links.mergeSort fun a b => a.id ≤ b.id

/-- A technical asset with its links, whose targets are checked once all assets are known. -/
def technicalAsset (available : List String) (dataAssets : Dict DataAsset) (title : String)
    (x : TechnicalAssetInput) : Except Fault TechnicalAsset := do
  let element := named "technical asset" title
  checkId x.id
  checkReferences dataAssets "data asset target" element (x.dataProcessed ++ x.dataStored)
  let formats ← x.formatsAccepted.mapM (value "data_formats_accepted" element)
  let links ← x.links.entries.foldlM (addLink available dataAssets x.id title) []
  return {
    id := x.id
    title := title
    description := textOr title x.description
    kind := ← value "type" element x.kind
    usage := ← value "usage" element x.usage
    usedAsClientByHuman := x.usedAsClientByHuman
    outOfScope := x.outOfScope
    justificationOutOfScope := x.justificationOutOfScope
    size := ← value "size" element x.size
    technology := ← value "technology" element x.technology
    machine := ← value "machine" element x.machine
    internet := x.internet
    multiTenant := x.multiTenant
    redundant := x.redundant
    customDevelopedParts := x.customDevelopedParts
    encryption := ← value "encryption" element x.encryption
    owner := x.owner
    confidentiality := ← value "confidentiality" element x.confidentiality
    integrity := ← value "integrity" element x.integrity
    availability := ← value "availability" element x.availability
    justificationCiaRating := x.justificationCiaRating
    tags := ← checkTags available element x.tags
    dataProcessed := x.dataProcessed
    dataStored := x.dataStored
    formatsAccepted := formats
    links := sortLinks links
    diagramOrder := x.diagramOrder
    raa := 0 }

/-- A trust boundary, apart from its members. -/
def trustBoundary (available : List String) (title : String) (x : TrustBoundaryInput) :
    Except Fault TrustBoundary := do
  let element := named "trust boundary" title
  return {
    id := x.id
    title := title
    description := textOr title x.description
    kind := ← value "type" element x.kind
    tags := ← checkTags available element x.tags
    assetsInside := x.assetsInside
    nested := x.nested }

/-- A shared runtime, apart from its members. -/
def sharedRuntime (available : List String) (title : String) (x : SharedRuntimeInput) :
    Except Fault SharedRuntime := do
  return {
    id := x.id
    title := title
    description := textOr title x.description
    tags := ← checkTags available (named "shared runtime" title) x.tags
    assetsRunning := x.assetsRunning }

/-- An optional reference, which must have an element if it is not blank. -/
def reference (found : String → Bool) (kind location text : String) :
    Except Fault (Option String) :=
  let id := Text.trim text
  if id.isEmpty then .ok none
  else if found id then .ok (some id)
  else .error (.missingReference kind location id)

/-- A risk of an individual category. Its severity is stated, not derived. -/
def individualRisk (m : Model) (categoryId title : String) (x : IndividualRiskInput) :
    Except Fault Risk := do
  let element := named "individual risk instance" title
  let location := named "individual risk" title
  let severity ← valueOr .medium "severity" element x.severity
  let likelihood ← valueOr .likely "exploitation_likelihood" element x.likelihood
  let impact ← valueOr .medium "exploitation_impact" element x.impact
  let probability ← valueOr .possible "data_breach_probability" element x.breachProbability
  let dataAsset ← reference m.dataAssets.contains "data asset target" location x.dataAsset
  let asset ←
    reference m.technicalAssets.contains "technical asset target" location x.technicalAsset
  let link ← reference (m.link? · |>.isSome) "communication link" location x.link
  let boundary ← reference m.trustBoundaries.contains "trust boundary" location x.boundary
  let runtime ← reference m.sharedRuntimes.contains "shared runtime" location x.runtime
  checkReferences m.technicalAssets "technical asset target"
    ("data breach technical assets of " ++ location) x.breachAssets
  return Risk.withComposedId {
    category := categoryId
    status := .unchecked
    severity := severity
    likelihood := likelihood
    impact := impact
    title := title
    syntheticId := ""
    dataAsset := dataAsset
    technicalAsset := asset
    link := link
    boundary := boundary
    runtime := runtime
    breachProbability := probability
    breachAssets := x.breachAssets }

/-- An individual category with its risks. -/
def individualCategory (m : Model) (title : String) (x : IndividualCategoryInput) :
    Except Fault IndividualCategory := do
  let element := named "individual risk category" title
  checkId x.id
  let category : Category := {
    id := x.id
    title := title
    description := textOr title x.description
    impact := x.impact
    asvs := x.asvs
    cheatSheet := x.cheatSheet
    action := x.action
    mitigation := x.mitigation
    check := x.check
    detectionLogic := x.detectionLogic
    riskAssessment := x.riskAssessment
    falsePositives := x.falsePositives
    function := ← value "function" element x.function
    stride := ← value "stride" element x.stride
    modelFailurePossible := x.modelFailurePossible
    cwe := x.cwe }
  let risks ← x.risks.entries.mapM fun e => individualRisk m x.id e.1 e.2
  return ⟨category, risks⟩

/-- A tracking record under its key in lower case. -/
def trackingRecord (key : String) (x : TrackingInput) : Except Fault TrackingRecord := do
  let date ← date? (.invalidTrackingDate key x.date) x.date
  let status ← value "status" (named "risk tracking" key) x.status
  return {
    syntheticRiskId := Text.fold key
    justification := x.justification
    ticket := x.ticket
    checkedBy := x.checkedBy
    status := status
    date := date }

end ThreatModel.Validation
