import ThreatModel.Json.Record
import ThreatModel.Risk.Severity

/-!
# Risks

A risk is one finding of one category. Its synthetic id names the category and the elements that the
finding is about, joined by `@`, so that decisions about it can be tracked from run to run.
-/

namespace ThreatModel

/-- One concrete finding. -/
structure Risk where
  category : String
  status : RiskStatus
  severity : Severity
  likelihood : Likelihood
  impact : Impact
  title : String
  syntheticId : String
  dataAsset : Option String
  technicalAsset : Option String
  link : Option String
  boundary : Option String
  runtime : Option String
  breachProbability : BreachProbability
  breachAssets : List String
  deriving DecidableEq, Inhabited

namespace Risk

/-- A new finding, whose severity follows from likelihood and impact. -/
def new (category : String) (likelihood : Likelihood) (impact : Impact) (title : String) : Risk where
  category := category
  status := .unchecked
  severity := .of likelihood impact
  likelihood := likelihood
  impact := impact
  title := title
  syntheticId := ""
  dataAsset := none
  technicalAsset := none
  link := none
  boundary := none
  runtime := none
  breachProbability := .improbable
  breachAssets := []

/-- The finding with the assets whose data it may lay open. -/
def withBreach (r : Risk) (probability : BreachProbability) (assets : List String) : Risk :=
  { r with breachProbability := probability, breachAssets := assets }

/-- A category and element ids as one id. -/
def joinIds (category : String) (ids : List String) : String :=
  ids.foldl (fun s id => s ++ "@" ++ id) category

/-- The finding with an id made of its category and these element ids. -/
def identifiedBy (r : Risk) (ids : List String) : Risk :=
  { r with syntheticId := joinIds r.category ids }

/-- The elements that a finding refers to, in the order in which they enter its id. -/
def references (r : Risk) : List String :=
  [r.technicalAsset, r.link, r.boundary, r.runtime, r.dataAsset].filterMap id

/-- The id made of the category and all references that are not empty. -/
def composedId (r : Risk) : String := joinIds r.category (r.references.filter (!·.isEmpty))

/-- The finding with the id composed of its references. -/
def withComposedId (r : Risk) : Risk := { r with syntheticId := r.composedId }

/-- The names of the fields in order. -/
def fieldNames : List String :=
  ["category", "risk_status", "severity", "exploitation_likelihood", "exploitation_impact", "title",
    "synthetic_id", "most_relevant_data_asset", "most_relevant_technical_asset",
    "most_relevant_communication_link", "most_relevant_trust_boundary",
    "most_relevant_shared_runtime", "data_breach_probability", "data_breach_technical_assets"]

/-- Reads a finding. -/
def ofJson? (j : Json) : Option Risk := do
  let s ← j.slots? fieldNames
  return {
    category := ← Record.required s "category" Json.text?
    status := ← Record.optional s "risk_status" Json.word? .unchecked
    severity := ← Record.required s "severity" Json.word?
    likelihood := ← Record.required s "exploitation_likelihood" Json.word?
    impact := ← Record.required s "exploitation_impact" Json.word?
    title := ← Record.required s "title" Json.text?
    syntheticId := ← Record.optional s "synthetic_id" Json.text? ""
    dataAsset := ← Record.optional s "most_relevant_data_asset" (Json.nullable Json.text?) none
    technicalAsset :=
      ← Record.optional s "most_relevant_technical_asset" (Json.nullable Json.text?) none
    link := ← Record.optional s "most_relevant_communication_link" (Json.nullable Json.text?) none
    boundary := ← Record.optional s "most_relevant_trust_boundary" (Json.nullable Json.text?) none
    runtime := ← Record.optional s "most_relevant_shared_runtime" (Json.nullable Json.text?) none
    breachProbability := ← Record.required s "data_breach_probability" Json.word?
    breachAssets := ← Record.optional s "data_breach_technical_assets" Record.texts [] }

/-- A finding as an object. -/
def toJson (r : Risk) : Json :=
  .object (
    [("category", .string r.category), ("risk_status", .ofWord r.status),
      ("severity", .ofWord r.severity), ("exploitation_likelihood", .ofWord r.likelihood),
      ("exploitation_impact", .ofWord r.impact), ("title", .string r.title),
      ("synthetic_id", .string r.syntheticId)] ++
    Json.ifPresent "most_relevant_data_asset" .string r.dataAsset ++
    Json.ifPresent "most_relevant_technical_asset" .string r.technicalAsset ++
    Json.ifPresent "most_relevant_communication_link" .string r.link ++
    Json.ifPresent "most_relevant_trust_boundary" .string r.boundary ++
    Json.ifPresent "most_relevant_shared_runtime" .string r.runtime ++
    [("data_breach_probability", .ofWord r.breachProbability),
      ("data_breach_technical_assets", .ofTexts r.breachAssets)])

end Risk

end ThreatModel
