import ThreatModel.Risk.Category

/-!
# Plausibility

Risks of a model that is incomplete or contradicts itself.
-/

namespace ThreatModel.Category

/-- Incomplete Model. -/
def incompleteModel : Category where
  id := "incomplete-model"
  title := "Incomplete Model"
  description := "When the threat model contains unknown technologies or transfers data over " ++
    "unknown protocols, this is an indicator for an incomplete model."
  impact := "If this risk is unmitigated, other risks might not be noticed as the model is " ++
    "incomplete."
  asvs := "V1 - Architecture, Design and Threat Modeling Requirements"
  cheatSheet := "https://cheatsheetseries.owasp.org/cheatsheets/Threat_Modeling_Cheat_Sheet.html"
  action := "Threat Modeling Completeness"
  mitigation := "Try to find out what technology or protocol is used instead of specifying that " ++
    "it is unknown."
  check := "Are recommendations from the linked cheat sheet and referenced ASVS chapter applied?"
  detectionLogic := "All technical assets and communication links with technology type or " ++
    "protocol type specified as unknown."
  riskAssessment := "low"
  falsePositives := "Usually no false positives as this looks like an incomplete model."
  function := .architecture
  stride := .informationDisclosure
  modelFailurePossible := true
  cwe := 1008

/-- Wrong Communication Link Content. -/
def wrongCommunicationLinkContent : Category where
  id := "wrong-communication-link-content"
  title := "Wrong Communication Link Content"
  description := "When a communication link is defined as readonly, but does not receive any " ++
    "data asset, or when it is defined as not readonly, but does not send any data asset, it is " ++
    "likely to be a model failure."
  impact := "If this potential model error is not fixed, some risks might not be visible."
  asvs := "V1 - Architecture, Design and Threat Modeling Requirements"
  cheatSheet := "https://cheatsheetseries.owasp.org/cheatsheets/Threat_Modeling_Cheat_Sheet.html"
  action := "Model Consistency"
  mitigation := "Try to model the correct readonly flag and/or data sent/received of " ++
    "communication links. Also try to use communication link types matching the target " ++
    "technology/machine types."
  check := "Are recommendations from the linked cheat sheet and referenced ASVS chapter applied?"
  detectionLogic := "Communication links with inconsistent data assets being sent/received not " ++
    "matching their readonly flag or otherwise inconsistent protocols not matching the target " ++
    "technology type."
  riskAssessment := "low"
  falsePositives := "Usually no false positives as this looks like an incomplete model."
  function := .architecture
  stride := .informationDisclosure
  modelFailurePossible := true
  cwe := 1008

/-- Wrong Trust Boundary Content. -/
def wrongTrustBoundaryContent : Category where
  id := "wrong-trust-boundary-content"
  title := "Wrong Trust Boundary Content"
  description := "When a trust boundary of type network-policy-namespace-isolation contains " ++
    "non-container assets it is likely to be a model failure."
  impact := "If this potential model error is not fixed, some risks might not be visible."
  asvs := "V1 - Architecture, Design and Threat Modeling Requirements"
  cheatSheet := "https://cheatsheetseries.owasp.org/cheatsheets/Threat_Modeling_Cheat_Sheet.html"
  action := "Model Consistency"
  mitigation := "Try to model the correct types of trust boundaries and data assets."
  check := "Are recommendations from the linked cheat sheet and referenced ASVS chapter applied?"
  detectionLogic := "Trust boundaries which should only contain containers, but have different " ++
    "assets inside."
  riskAssessment := "low"
  falsePositives := "Usually no false positives as this looks like an incomplete model."
  function := .architecture
  stride := .elevationOfPrivilege
  modelFailurePossible := true
  cwe := 1008

end ThreatModel.Category
