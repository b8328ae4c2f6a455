import ThreatModel.Input.Basic
import ThreatModel.Json.Record

/-!
# Reading and writing stated models

A stated model is read from any notation for records. Apart from the ids of elements and the targets
of links every field may be left out.
-/

namespace ThreatModel

/-- A member that is left out if its dictionary is empty. -/
def dictUnlessEmpty {α : Type} (name : String) (f : α → Json) (d : Dict α) : List (String × Json) :=
  if d.isEmpty then [] else [(name, .ofDict f d)]

namespace AuthorInput

/-- The names of the fields in order. -/
def fieldNames : List String :=
  ["name", "homepage"]

/-- The shape of the record. -/
def shape : Record.Shape := .ofFields fieldNames []

/-- Reads the record. -/
def read? {ν : Type} [RecordSource ν] (v : ν) : Option AuthorInput := do
  let s ← RecordSource.slots? fieldNames v
  return {
    name := ← Record.optional s "name" RecordSource.text? ""
    homepage := ← Record.optional s "homepage" RecordSource.text? "" }

/-- The record as an object. -/
def toJson (x : AuthorInput) : Json :=
  .object (
    [("name", .string x.name)] ++
    Json.textUnlessEmpty "homepage" x.homepage)

end AuthorInput

namespace OverviewInput

/-- The names of the fields in order. -/
def fieldNames : List String :=
  ["description", "images"]

/-- The shape of the record. -/
def shape : Record.Shape :=
  .ofFields fieldNames
    [("images", .list (.dict .scalar))]

/-- Reads the record. -/
def read? {ν : Type} [RecordSource ν] (v : ν) : Option OverviewInput := do
  let s ← RecordSource.slots? fieldNames v
  return {
    description := ← Record.optional s "description" RecordSource.text? ""
    images := ← Record.optional s "images" (Record.list Record.textDict) [] }

/-- The record as an object. -/
def toJson (x : OverviewInput) : Json :=
  .object (
    [("description", .string x.description)] ++
    Json.listUnlessEmpty "images" (Json.ofDict .string) x.images)

end OverviewInput

namespace DataAssetInput

/-- The names of the fields in order. -/
def fieldNames : List String :=
  ["id", "description", "usage", "tags", "origin", "owner", "quantity", "confidentiality",
    "integrity", "availability", "justification_cia_rating"]

/-- The shape of the record. -/
def shape : Record.Shape :=
  .ofFields fieldNames
    [("tags", .list .scalar)]

/-- Reads the record. -/
def read? {ν : Type} [RecordSource ν] (v : ν) : Option DataAssetInput := do
  let s ← RecordSource.slots? fieldNames v
  return {
    id := ← Record.required s "id" RecordSource.text?
    description := ← Record.optional s "description" RecordSource.text? ""
    usage := ← Record.optional s "usage" RecordSource.text? ""
    tags := ← Record.optional s "tags" Record.texts []
    origin := ← Record.optional s "origin" RecordSource.text? ""
    owner := ← Record.optional s "owner" RecordSource.text? ""
    quantity := ← Record.optional s "quantity" RecordSource.text? ""
    confidentiality := ← Record.optional s "confidentiality" RecordSource.text? ""
    integrity := ← Record.optional s "integrity" RecordSource.text? ""
    availability := ← Record.optional s "availability" RecordSource.text? ""
    justificationCiaRating := ← Record.optional s "justification_cia_rating" RecordSource.text? "" }

/-- The record as an object. -/
def toJson (x : DataAssetInput) : Json :=
  .object (
    [("id", .string x.id), ("description", .string x.description), ("usage", .string x.usage)] ++
    Json.listUnlessEmpty "tags" .string x.tags ++
    [("origin", .string x.origin), ("owner", .string x.owner),
      ("quantity", .string x.quantity), ("confidentiality", .string x.confidentiality),
      ("integrity", .string x.integrity), ("availability", .string x.availability),
      ("justification_cia_rating", .string x.justificationCiaRating)])

end DataAssetInput

namespace LinkInput

/-- The names of the fields in order. -/
def fieldNames : List String :=
  ["target", "description", "protocol", "authentication", "authorization", "tags", "vpn",
    "ip_filtered", "readonly", "usage", "data_assets_sent", "data_assets_received",
    "diagram_tweak_weight", "diagram_tweak_constraint"]

/-- The shape of the record. -/
def shape : Record.Shape :=
  .ofFields fieldNames
    [("tags", .list .scalar), ("data_assets_sent", .list .scalar),
      ("data_assets_received", .list .scalar)]

/-- Reads the record. -/
def read? {ν : Type} [RecordSource ν] (v : ν) : Option LinkInput := do
  let s ← RecordSource.slots? fieldNames v
  return {
    target := ← Record.required s "target" RecordSource.text?
    description := ← Record.optional s "description" RecordSource.text? ""
    protocol := ← Record.optional s "protocol" RecordSource.text? ""
    authentication := ← Record.optional s "authentication" RecordSource.text? ""
    authorization := ← Record.optional s "authorization" RecordSource.text? ""
    tags := ← Record.optional s "tags" Record.texts []
    vpn := ← Record.optional s "vpn" RecordSource.bool? false
    ipFiltered := ← Record.optional s "ip_filtered" RecordSource.bool? false
    readonly := ← Record.optional s "readonly" RecordSource.bool? false
    usage := ← Record.optional s "usage" RecordSource.text? ""
    dataSent := ← Record.optional s "data_assets_sent" Record.texts []
    dataReceived := ← Record.optional s "data_assets_received" Record.texts []
    diagramWeight := ← Record.optional s "diagram_tweak_weight" Record.word32 0
    diagramConstraint := ← Record.optional s "diagram_tweak_constraint" RecordSource.bool? false }

/-- The record as an object. -/
def toJson (x : LinkInput) : Json :=
  .object (
    [("target", .string x.target), ("description", .string x.description),
      ("protocol", .string x.protocol), ("authentication", .string x.authentication),
      ("authorization", .string x.authorization)] ++
    Json.listUnlessEmpty "tags" .string x.tags ++
    [("vpn", .bool x.vpn), ("ip_filtered", .bool x.ipFiltered),
      ("readonly", .bool x.readonly), ("usage", .string x.usage)] ++
    Json.listUnlessEmpty "data_assets_sent" .string x.dataSent ++
    Json.listUnlessEmpty "data_assets_received" .string x.dataReceived ++
    [("diagram_tweak_weight", .ofNat x.diagramWeight),
      ("diagram_tweak_constraint", .bool x.diagramConstraint)])

end LinkInput

namespace TechnicalAssetInput

/-- The names of the fields in order. -/
def fieldNames : List String :=
  ["id", "description", "type", "usage", "used_as_client_by_human", "out_of_scope",
    "justification_out_of_scope", "size", "technology", "tags", "internet", "machine",
    "encryption", "owner", "confidentiality", "integrity", "availability",
    "justification_cia_rating", "multi_tenant", "redundant", "custom_developed_parts",
    "data_assets_processed", "data_assets_stored", "data_formats_accepted", "diagram_tweak_order",
    "communication_links"]

/-- The shape of the record. -/
def shape : Record.Shape :=
  .ofFields fieldNames
    [("tags", .list .scalar), ("data_assets_processed", .list .scalar),
      ("data_assets_stored", .list .scalar), ("data_formats_accepted", .list .scalar),
      ("communication_links", .dict LinkInput.shape)]

/-- Reads the record. -/
def read? {ν : Type} [RecordSource ν] (v : ν) : Option TechnicalAssetInput := do
  let s ← RecordSource.slots? fieldNames v
  return {
    id := ← Record.required s "id" RecordSource.text?
    description := ← Record.optional s "description" RecordSource.text? ""
    kind := ← Record.optional s "type" RecordSource.text? ""
    usage := ← Record.optional s "usage" RecordSource.text? ""
    usedAsClientByHuman := ← Record.optional s "used_as_client_by_human" RecordSource.bool? false
    outOfScope := ← Record.optional s "out_of_scope" RecordSource.bool? false
    justificationOutOfScope :=
      ← Record.optional s "justification_out_of_scope" RecordSource.text? ""
    size := ← Record.optional s "size" RecordSource.text? ""
    technology := ← Record.optional s "technology" RecordSource.text? ""
    tags := ← Record.optional s "tags" Record.texts []
    internet := ← Record.optional s "internet" RecordSource.bool? false
    machine := ← Record.optional s "machine" RecordSource.text? ""
    encryption := ← Record.optional s "encryption" RecordSource.text? ""
    owner := ← Record.optional s "owner" RecordSource.text? ""
    confidentiality := ← Record.optional s "confidentiality" RecordSource.text? ""
    integrity := ← Record.optional s "integrity" RecordSource.text? ""
    availability := ← Record.optional s "availability" RecordSource.text? ""
    justificationCiaRating := ← Record.optional s "justification_cia_rating" RecordSource.text? ""
    multiTenant := ← Record.optional s "multi_tenant" RecordSource.bool? false
    redundant := ← Record.optional s "redundant" RecordSource.bool? false
    customDevelopedParts := ← Record.optional s "custom_developed_parts" RecordSource.bool? false
    dataProcessed := ← Record.optional s "data_assets_processed" Record.texts []
    dataStored := ← Record.optional s "data_assets_stored" Record.texts []
    formatsAccepted := ← Record.optional s "data_formats_accepted" Record.texts []
    diagramOrder := ← Record.optional s "diagram_tweak_order" Record.int32 0
    links := ← Record.optional s "communication_links" (Record.dict LinkInput.read?) .empty }

/-- The record as an object. -/
def toJson (x : TechnicalAssetInput) : Json :=
  .object (
    [("id", .string x.id), ("description", .string x.description), ("type", .string x.kind),
      ("usage", .string x.usage), ("used_as_client_by_human", .bool x.usedAsClientByHuman),
      ("out_of_scope", .bool x.outOfScope),
      ("justification_out_of_scope", .string x.justificationOutOfScope),
      ("size", .string x.size), ("technology", .string x.technology)] ++
    Json.listUnlessEmpty "tags" .string x.tags ++
    [("internet", .bool x.internet), ("machine", .string x.machine),
      ("encryption", .string x.encryption), ("owner", .string x.owner),
      ("confidentiality", .string x.confidentiality), ("integrity", .string x.integrity),
      ("availability", .string x.availability),
      ("justification_cia_rating", .string x.justificationCiaRating),
      ("multi_tenant", .bool x.multiTenant), ("redundant", .bool x.redundant),
      ("custom_developed_parts", .bool x.customDevelopedParts)] ++
    Json.listUnlessEmpty "data_assets_processed" .string x.dataProcessed ++
    Json.listUnlessEmpty "data_assets_stored" .string x.dataStored ++
    Json.listUnlessEmpty "data_formats_accepted" .string x.formatsAccepted ++
    [("diagram_tweak_order", .int x.diagramOrder)] ++
    dictUnlessEmpty "communication_links" LinkInput.toJson x.links)

end TechnicalAssetInput

namespace TrustBoundaryInput

/-- The names of the fields in order. -/
def fieldNames : List String :=
  ["id", "description", "type", "tags", "technical_assets_inside", "trust_boundaries_nested"]

/-- The shape of the record. -/
def shape : Record.Shape :=
  .ofFields fieldNames
    [("tags", .list .scalar), ("technical_assets_inside", .list .scalar),
      ("trust_boundaries_nested", .list .scalar)]

/-- Reads the record. -/
def read? {ν : Type} [RecordSource ν] (v : ν) : Option TrustBoundaryInput := do
  let s ← RecordSource.slots? fieldNames v
  return {
    id := ← Record.required s "id" RecordSource.text?
    description := ← Record.optional s "description" RecordSource.text? ""
    kind := ← Record.optional s "type" RecordSource.text? ""
    tags := ← Record.optional s "tags" Record.texts []
    assetsInside := ← Record.optional s "technical_assets_inside" Record.texts []
    nested := ← Record.optional s "trust_boundaries_nested" Record.texts [] }

/-- The record as an object. -/
def toJson (x : TrustBoundaryInput) : Json :=
  .object (
    [("id", .string x.id), ("description", .string x.description), ("type", .string x.kind)] ++
    Json.listUnlessEmpty "tags" .string x.tags ++
    Json.listUnlessEmpty "technical_assets_inside" .string x.assetsInside ++
    Json.listUnlessEmpty "trust_boundaries_nested" .string x.nested)

end TrustBoundaryInput

namespace SharedRuntimeInput

/-- The names of the fields in order. -/
def fieldNames : List String :=
  ["id", "description", "tags", "technical_assets_running"]

/-- The shape of the record. -/
def shape : Record.Shape :=
  .ofFields fieldNames
    [("tags", .list .scalar), ("technical_assets_running", .list .scalar)]

/-- Reads the record. -/
def read? {ν : Type} [RecordSource ν] (v : ν) : Option SharedRuntimeInput := do
  let s ← RecordSource.slots? fieldNames v
  return {
    id := ← Record.required s "id" RecordSource.text?
    description := ← Record.optional s "description" RecordSource.text? ""
    tags := ← Record.optional s "tags" Record.texts []
    assetsRunning := ← Record.optional s "technical_assets_running" Record.texts [] }

/-- The record as an object. -/
def toJson (x : SharedRuntimeInput) : Json :=
  .object (
    [("id", .string x.id), ("description", .string x.description)] ++
    Json.listUnlessEmpty "tags" .string x.tags ++
    Json.listUnlessEmpty "technical_assets_running" .string x.assetsRunning)

end SharedRuntimeInput

namespace IndividualRiskInput

/-- The names of the fields in order. -/
def fieldNames : List String :=
  ["severity", "exploitation_likelihood", "exploitation_impact", "data_breach_probability",
    "data_breach_technical_assets", "most_relevant_data_asset", "most_relevant_technical_asset",
    "most_relevant_communication_link", "most_relevant_trust_boundary",
    "most_relevant_shared_runtime"]

/-- The shape of the record. -/
def shape : Record.Shape :=
  .ofFields fieldNames
    [("data_breach_technical_assets", .list .scalar)]

/-- Reads the record. -/
def read? {ν : Type} [RecordSource ν] (v : ν) : Option IndividualRiskInput := do
  let s ← RecordSource.slots? fieldNames v
  return {
    severity := ← Record.optional s "severity" RecordSource.text? ""
    likelihood := ← Record.optional s "exploitation_likelihood" RecordSource.text? ""
    impact := ← Record.optional s "exploitation_impact" RecordSource.text? ""
    breachProbability := ← Record.optional s "data_breach_probability" RecordSource.text? ""
    breachAssets := ← Record.optional s "data_breach_technical_assets" Record.texts []
    dataAsset := ← Record.optional s "most_relevant_data_asset" RecordSource.text? ""
    technicalAsset := ← Record.optional s "most_relevant_technical_asset" RecordSource.text? ""
    link := ← Record.optional s "most_relevant_communication_link" RecordSource.text? ""
    boundary := ← Record.optional s "most_relevant_trust_boundary" RecordSource.text? ""
    runtime := ← Record.optional s "most_relevant_shared_runtime" RecordSource.text? "" }

/-- The record as an object. -/
def toJson (x : IndividualRiskInput) : Json :=
  .object (
    [("severity", .string x.severity), ("exploitation_likelihood", .string x.likelihood),
      ("exploitation_impact", .string x.impact),
      ("data_breach_probability", .string x.breachProbability)] ++
    Json.listUnlessEmpty "data_breach_technical_assets" .string x.breachAssets ++
    [("most_relevant_data_asset", .string x.dataAsset),
      ("most_relevant_technical_asset", .string x.technicalAsset),
      ("most_relevant_communication_link", .string x.link),
      ("most_relevant_trust_boundary", .string x.boundary),
      ("most_relevant_shared_runtime", .string x.runtime)])

end IndividualRiskInput

namespace IndividualCategoryInput

/-- The names of the fields in order. -/
def fieldNames : List String :=
  ["id", "description", "impact", "asvs", "cheat_sheet", "action", "mitigation", "check",
    "function", "stride", "detection_logic", "risk_assessment", "false_positives",
    "model_failure_possible_reason", "cwe", "risks_identified"]

/-- The shape of the record. -/
def shape : Record.Shape :=
  .ofFields fieldNames
    [("risks_identified", .dict IndividualRiskInput.shape)]

/-- Reads the record. -/
def read? {ν : Type} [RecordSource ν] (v : ν) : Option IndividualCategoryInput := do
  let s ← RecordSource.slots? fieldNames v
  return {
    id := ← Record.required s "id" RecordSource.text?
    description := ← Record.optional s "description" RecordSource.text? ""
    impact := ← Record.optional s "impact" RecordSource.text? ""
    asvs := ← Record.optional s "asvs" RecordSource.text? ""
    cheatSheet := ← Record.optional s "cheat_sheet" RecordSource.text? ""
    action := ← Record.optional s "action" RecordSource.text? ""
    mitigation := ← Record.optional s "mitigation" RecordSource.text? ""
    check := ← Record.optional s "check" RecordSource.text? ""
    function := ← Record.optional s "function" RecordSource.text? ""
    stride := ← Record.optional s "stride" RecordSource.text? ""
    detectionLogic := ← Record.optional s "detection_logic" RecordSource.text? ""
    riskAssessment := ← Record.optional s "risk_assessment" RecordSource.text? ""
    falsePositives := ← Record.optional s "false_positives" RecordSource.text? ""
    modelFailurePossible :=
      ← Record.optional s "model_failure_possible_reason" RecordSource.bool? false
    cwe := ← Record.optional s "cwe" Record.word32 0
    risks := ← Record.optional s "risks_identified" (Record.dict IndividualRiskInput.read?) .empty }

/-- The record as an object. -/
def toJson (x : IndividualCategoryInput) : Json :=
  .object (
    [("id", .string x.id), ("description", .string x.description),
      ("impact", .string x.impact), ("asvs", .string x.asvs),
      ("cheat_sheet", .string x.cheatSheet), ("action", .string x.action),
      ("mitigation", .string x.mitigation), ("check", .string x.check),
      ("function", .string x.function), ("stride", .string x.stride),
      ("detection_logic", .string x.detectionLogic),
      ("risk_assessment", .string x.riskAssessment),
      ("false_positives", .string x.falsePositives),
      ("model_failure_possible_reason", .bool x.modelFailurePossible), ("cwe", .ofNat x.cwe)] ++
    dictUnlessEmpty "risks_identified" IndividualRiskInput.toJson x.risks)

end IndividualCategoryInput

namespace TrackingInput

/-- The names of the fields in order. -/
def fieldNames : List String :=
  ["status", "justification", "ticket", "date", "checked_by"]

/-- The shape of the record. -/
def shape : Record.Shape := .ofFields fieldNames []

/-- Reads the record. -/
def read? {ν : Type} [RecordSource ν] (v : ν) : Option TrackingInput := do
  let s ← RecordSource.slots? fieldNames v
  return {
    status := ← Record.optional s "status" RecordSource.text? ""
    justification := ← Record.optional s "justification" RecordSource.text? ""
    ticket := ← Record.optional s "ticket" RecordSource.text? ""
    date := ← Record.optional s "date" RecordSource.text? ""
    checkedBy := ← Record.optional s "checked_by" RecordSource.text? "" }

/-- The record as an object. -/
def toJson (x : TrackingInput) : Json :=
  .object (
    [("status", .string x.status), ("justification", .string x.justification),
      ("ticket", .string x.ticket), ("date", .string x.date),
      ("checked_by", .string x.checkedBy)])

end TrackingInput

namespace ModelInput

/-- The names of the fields in order. -/
def fieldNames : List String :=
  ["includes", "title", "author", "date", "business_overview", "technical_overview",
    "business_criticality", "management_summary_comment", "questions", "abuse_cases",
    "security_requirements", "tags_available", "data_assets", "technical_assets",
    "trust_boundaries", "shared_runtimes", "individual_risk_categories", "risk_tracking"]

/-- The shape of the record. -/
def shape : Record.Shape :=
  .ofFields fieldNames
    [("includes", .list .scalar), ("author", AuthorInput.shape),
      ("business_overview", OverviewInput.shape), ("technical_overview", OverviewInput.shape),
      ("questions", .dict .scalar), ("abuse_cases", .dict .scalar),
      ("security_requirements", .dict .scalar), ("tags_available", .list .scalar),
      ("data_assets", .dict DataAssetInput.shape),
      ("technical_assets", .dict TechnicalAssetInput.shape),
      ("trust_boundaries", .dict TrustBoundaryInput.shape),
      ("shared_runtimes", .dict SharedRuntimeInput.shape),
      ("individual_risk_categories", .dict IndividualCategoryInput.shape),
      ("risk_tracking", .dict TrackingInput.shape)]

/-- Reads the record. -/
def read? {ν : Type} [RecordSource ν] (v : ν) : Option ModelInput := do
  let s ← RecordSource.slots? fieldNames v
  return {
    includes := ← Record.optional s "includes" Record.texts []
    title := ← Record.optional s "title" RecordSource.text? ""
    author := ← Record.optional s "author" AuthorInput.read? {}
    date := ← Record.optional s "date" RecordSource.text? ""
    businessOverview := ← Record.optional s "business_overview" OverviewInput.read? {}
    technicalOverview := ← Record.optional s "technical_overview" OverviewInput.read? {}
    businessCriticality := ← Record.optional s "business_criticality" RecordSource.text? ""
    managementSummaryComment :=
      ← Record.optional s "management_summary_comment" RecordSource.text? ""
    questions := ← Record.optional s "questions" Record.textDict .empty
    abuseCases := ← Record.optional s "abuse_cases" Record.textDict .empty
    securityRequirements := ← Record.optional s "security_requirements" Record.textDict .empty
    tagsAvailable := ← Record.optional s "tags_available" Record.texts []
    dataAssets := ← Record.optional s "data_assets" (Record.dict DataAssetInput.read?) .empty
    technicalAssets :=
      ← Record.optional s "technical_assets" (Record.dict TechnicalAssetInput.read?) .empty
    trustBoundaries :=
      ← Record.optional s "trust_boundaries" (Record.dict TrustBoundaryInput.read?) .empty
    sharedRuntimes :=
      ← Record.optional s "shared_runtimes" (Record.dict SharedRuntimeInput.read?) .empty
    individualCategories :=
      ← Record.optional s "individual_risk_categories" (Record.dict IndividualCategoryInput.read?) .empty
    tracking := ← Record.optional s "risk_tracking" (Record.dict TrackingInput.read?) .empty }

/-- The record as an object. -/
def toJson (x : ModelInput) : Json :=
  .object (
    Json.listUnlessEmpty "includes" .string x.includes ++
    [("title", .string x.title), ("author", x.author.toJson), ("date", .string x.date),
      ("business_overview", x.businessOverview.toJson),
      ("technical_overview", x.technicalOverview.toJson),
      ("business_criticality", .string x.businessCriticality),
      ("management_summary_comment", .string x.managementSummaryComment)] ++
    dictUnlessEmpty "questions" .string x.questions ++
    dictUnlessEmpty "abuse_cases" .string x.abuseCases ++
    dictUnlessEmpty "security_requirements" .string x.securityRequirements ++
    Json.listUnlessEmpty "tags_available" .string x.tagsAvailable ++
    dictUnlessEmpty "data_assets" DataAssetInput.toJson x.dataAssets ++
    dictUnlessEmpty "technical_assets" TechnicalAssetInput.toJson x.technicalAssets ++
    dictUnlessEmpty "trust_boundaries" TrustBoundaryInput.toJson x.trustBoundaries ++
    dictUnlessEmpty "shared_runtimes" SharedRuntimeInput.toJson x.sharedRuntimes ++
    dictUnlessEmpty "individual_risk_categories" IndividualCategoryInput.toJson x.individualCategories ++
    dictUnlessEmpty "risk_tracking" TrackingInput.toJson x.tracking)

end ModelInput

end ThreatModel
