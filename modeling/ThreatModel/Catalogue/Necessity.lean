import ThreatModel.Risk.Category

/-!
# Necessity

Risks of elements that serve no purpose in the model.
-/

namespace ThreatModel.Category

/-- Unnecessary Communication Link. -/
def unnecessaryCommunicationLink : Category where
  id := "unnecessary-communication-link"
  title := "Unnecessary Communication Link"
  description := "When a technical communication link does not send or receive any data assets, " ++
    "this is an indicator for an unnecessary communication link (or for an incomplete model)."
  impact := "If this risk is unmitigated, attackers might be able to target unnecessary " ++
    "communication links."
  asvs := "V1 - Architecture, Design and Threat Modeling Requirements"
  cheatSheet := "https://cheatsheetseries.owasp.org/cheatsheets/Attack_Surface_Analysis_Cheat_Sheet.html"
  action := "Attack Surface Reduction"
  mitigation := "Try to avoid using technical communication links that do not send or receive " ++
    "anything."
  check := "Are recommendations from the linked cheat sheet and referenced ASVS chapter applied?"
  detectionLogic := "In-scope technical assets' technical communication links not sending or " ++
    "receiving any data assets."
  riskAssessment := "low"
  falsePositives := "Usually no false positives as this looks like an incomplete model."
  function := .architecture
  stride := .elevationOfPrivilege
  modelFailurePossible := true
  cwe := 1008

/-- Unnecessary Data Asset. -/
def unnecessaryDataAsset : Category where
  id := "unnecessary-data-asset"
  title := "Unnecessary Data Asset"
  description := "When a data asset is not processed or stored by any data assets and also not " ++
    "transferred by any communication links, this is an indicator for an unnecessary data asset " ++
    "(or for an incomplete model)."
  impact := "If this risk is unmitigated, attackers might be able to access unnecessary data " ++
    "assets using other vulnerabilities."
  asvs := "V1 - Architecture, Design and Threat Modeling Requirements"
  cheatSheet := "https://cheatsheetseries.owasp.org/cheatsheets/Attack_Surface_Analysis_Cheat_Sheet.html"
  action := "Attack Surface Reduction"
  mitigation := "Try to avoid having data assets that are not required/used."
  check := "Are recommendations from the linked cheat sheet and referenced ASVS chapter applied?"
  detectionLogic := "Modelled data assets not processed or stored by any data assets and also " ++
    "not transferred by any communication links."
  riskAssessment := "low"
  falsePositives := "Usually no false positives as this looks like an incomplete model."
  function := .architecture
  stride := .elevationOfPrivilege
  modelFailurePossible := true
  cwe := 1008

/-- Unnecessary Data Transfer. -/
def unnecessaryDataTransfer : Category where
  id := "unnecessary-data-transfer"
  title := "Unnecessary Data Transfer"
  description := "When a technical asset sends or receives data assets, which it neither " ++
    "processes or stores this is an indicator for unnecessarily transferred data (or for an " ++
    "incomplete model). When the unnecessarily transferred data assets are sensitive, this " ++
    "poses an unnecessary risk of an increased attack surface."
  impact := "If this risk is unmitigated, attackers might be able to target unnecessarily " ++
    "transferred data."
  asvs := "V1 - Architecture, Design and Threat Modeling Requirements"
  cheatSheet := "https://cheatsheetseries.owasp.org/cheatsheets/Attack_Surface_Analysis_Cheat_Sheet.html"
  action := "Attack Surface Reduction"
  mitigation := "Try to avoid sending or receiving sensitive data assets which are not required " ++
    "(i.e. neither processed or stored) by the involved technical asset."
  check := "Are recommendations from the linked cheat sheet and referenced ASVS chapter applied?"
  detectionLogic := "In-scope technical assets sending or receiving sensitive data assets which " ++
    "are neither processed nor stored by the technical asset are flagged with this risk. The " ++
    "risk rating (low or medium) depends on the confidentiality, integrity, and availability " ++
    "rating of the technical asset. Monitoring data is exempted from this risk."
  riskAssessment := "The risk assessment is depending on the confidentiality and integrity " ++
    "rating of the transferred data asset either low or medium."
  falsePositives := "Technical assets missing the model entries of either processing or storing " ++
    "the mentioned data assets can be considered as false positives (incomplete models) after " ++
    "individual review. These should then be addressed by completing the model so that all " ++
    "necessary data assets are processed and/or stored by the technical asset involved."
  function := .architecture
  stride := .elevationOfPrivilege
  modelFailurePossible := true
  cwe := 1008

/-- Unnecessary Technical Asset. -/
def unnecessaryTechnicalAsset : Category where
  id := "unnecessary-technical-asset"
  title := "Unnecessary Technical Asset"
  description := "When a technical asset does not process or store any data assets, this is an " ++
    "indicator for an unnecessary technical asset (or for an incomplete model). This is also " ++
    "the case if the asset has no communication links (either outgoing or incoming)."
  impact := "If this risk is unmitigated, attackers might be able to target unnecessary " ++
    "technical assets."
  asvs := "V1 - Architecture, Design and Threat Modeling Requirements"
  cheatSheet := "https://cheatsheetseries.owasp.org/cheatsheets/Attack_Surface_Analysis_Cheat_Sheet.html"
  action := "Attack Surface Reduction"
  mitigation := "Try to avoid using technical assets that do not process or store anything."
  check := "Are recommendations from the linked cheat sheet and referenced ASVS chapter applied?"
  detectionLogic := "Technical assets not processing or storing any data assets."
  riskAssessment := "low"
  falsePositives := "Usually no false positives as this looks like an incomplete model."
  function := .architecture
  stride := .elevationOfPrivilege
  modelFailurePossible := true
  cwe := 1008

end ThreatModel.Category
