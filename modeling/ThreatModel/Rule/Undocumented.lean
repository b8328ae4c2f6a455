import ThreatModel.Rule.Finding

/-!
# The demonstration rule

A rule for use in a plugin: assets should be described. Validation puts the title of an asset in the
place of a missing description, so the two are equal where there is none.
-/

namespace ThreatModel

/-- Undocumented Technical Asset. -/
def Category.undocumentedAsset : Category where
  id := "demo-undocumented-asset"
  title := "Undocumented Technical Asset"
  description := "Technical assets without a description are hard to review."
  impact := "Reviewers may misjudge what the asset does and miss risks around it."
  asvs := "V1 - Architecture, Design and Threat Modeling Requirements"
  cheatSheet := "https://cheatsheetseries.owasp.org/cheatsheets/Threat_Modeling_Cheat_Sheet.html"
  action := "Documentation"
  mitigation := "Describe the purpose of every in-scope technical asset in the model."
  check := "Does every technical asset carry a meaningful description?"
  detectionLogic := "In-scope technical assets without a description of their own."
  riskAssessment := "Always low."
  falsePositives := "Assets whose title already says everything."
  function := .architecture
  stride := .repudiation
  modelFailurePossible := true
  cwe := 1059

namespace UndocumentedAsset

/-- Whether an asset has no description of its own. -/
def isUndocumented (a : TechnicalAsset) : Bool := a.description = a.title

/-- The finding at an asset, without an id. -/
def finding (a : TechnicalAsset) : Risk :=
  ((Category.undocumentedAsset.finding .unlikely .low
    ("Undocumented Technical Asset: " ++ a.title)).onAsset a).withBreach .improbable []

end UndocumentedAsset

/-- Finds undocumented assets in scope. -/
def ModelRule.undocumentedAsset : ModelRule where
  category := .undocumentedAsset
  tags := ["demo"]
  findings m := (m.inScope.filter UndocumentedAsset.isUndocumented).map UndocumentedAsset.finding

end ThreatModel
