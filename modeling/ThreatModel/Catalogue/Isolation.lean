import ThreatModel.Risk.Category

/-!
# Isolation

Risks of valuable assets beside less protected ones.
-/

namespace ThreatModel.Category

/-- Missing Identity Provider Isolation. -/
def missingIdentityProviderIsolation : Category where
  id := "missing-identity-provider-isolation"
  title := "Missing Identity Provider Isolation"
  description := "Highly sensitive identity provider assets and their identity datastores " ++
    "should be isolated from other assets by their own network segmentation trust-boundary " ++
    "(execution-environment boundaries do not count as network isolation)."
  impact := "If this risk is unmitigated, attackers successfully attacking other components of " ++
    "the system might have an easy path towards highly sensitive identity provider assets and " ++
    "their identity datastores, as they are not separated by network segmentation."
  asvs := "V1 - Architecture, Design and Threat Modeling Requirements"
  cheatSheet := "https://cheatsheetseries.owasp.org/cheatsheets/Attack_Surface_Analysis_Cheat_Sheet.html"
  action := "Network Segmentation"
  mitigation := "Apply a network segmentation trust-boundary around the highly sensitive " ++
    "identity provider assets and their identity datastores."
  check := "Are recommendations from the linked cheat sheet and referenced ASVS chapter applied?"
  detectionLogic := "In-scope identity provider assets and their identity datastores when " ++
    "surrounded by other (not identity-related) assets (without a network trust-boundary " ++
    "in-between). This risk is especially prevalent when other non-identity related assets are " ++
    "within the same execution environment (i.e. same database or same application server)."
  riskAssessment := "Default is high impact. The impact is increased to very-high when the " ++
    "asset missing the trust-boundary protection is rated as strictly-confidential or " ++
    "mission-critical."
  falsePositives := "When all assets within the network segmentation trust-boundary are " ++
    "hardened and protected to the same extend as if all were identity providers with data of " ++
    "highest sensitivity."
  function := .operations
  stride := .elevationOfPrivilege
  modelFailurePossible := false
  cwe := 1008

/-- Missing Network Segmentation. -/
def missingNetworkSegmentation : Category where
  id := "missing-network-segmentation"
  title := "Missing Network Segmentation"
  description := "Highly sensitive assets and/or datastores residing in the same network " ++
    "segment than other lower sensitive assets (like webservers or content management systems " ++
    "etc.) should be better protected by a network segmentation trust-boundary."
  impact := "If this risk is unmitigated, attackers successfully attacking other components of " ++
    "the system might have an easy path towards more valuable targets, as they are not " ++
    "separated by network segmentation."
  asvs := "V1 - Architecture, Design and Threat Modeling Requirements"
  cheatSheet := "https://cheatsheetseries.owasp.org/cheatsheets/Attack_Surface_Analysis_Cheat_Sheet.html"
  action := "Network Segmentation"
  mitigation := "Apply a network segmentation trust-boundary around the highly sensitive assets " ++
    "and/or datastores."
  check := "Are recommendations from the linked cheat sheet and referenced ASVS chapter applied?"
  detectionLogic := "In-scope technical assets with high sensitivity and RAA values as well as " ++
    "datastores when surrounded by assets (without a network trust-boundary in-between) which " ++
    "are of type client-system, web-server, web-application, cms, web-service-rest, " ++
    "web-service-soap, build-pipeline, sourcecode-repository, monitoring, or similar and there " ++
    "is no direct connection between these (hence no requirement to be so close to each other)."
  riskAssessment := "Default is low risk. The risk is increased to medium when the asset " ++
    "missing the trust-boundary protection is rated as strictly-confidential or " ++
    "mission-critical."
  falsePositives := "When all assets within the network segmentation trust-boundary are " ++
    "hardened and protected to the same extend as if all were containing/processing highly " ++
    "sensitive data."
  function := .operations
  stride := .elevationOfPrivilege
  modelFailurePossible := false
  cwe := 1008

/-- Missing Vault Isolation. -/
def missingVaultIsolation : Category where
  id := "missing-vault-isolation"
  title := "Missing Vault Isolation"
  description := "Highly sensitive vault assets and their datastores should be isolated from " ++
    "other assets by their own network segmentation trust-boundary (execution-environment " ++
    "boundaries do not count as network isolation)."
  impact := "If this risk is unmitigated, attackers successfully attacking other components of " ++
    "the system might have an easy path towards highly sensitive vault assets and their " ++
    "datastores, as they are not separated by network segmentation."
  asvs := "V1 - Architecture, Design and Threat Modeling Requirements"
  cheatSheet := "https://cheatsheetseries.owasp.org/cheatsheets/Attack_Surface_Analysis_Cheat_Sheet.html"
  action := "Network Segmentation"
  mitigation := "Apply a network segmentation trust-boundary around the highly sensitive vault " ++
    "assets and their datastores."
  check := "Are recommendations from the linked cheat sheet and referenced ASVS chapter applied?"
  detectionLogic := "In-scope vault assets when surrounded by other (not vault-related) assets " ++
    "(without a network trust-boundary in-between). This risk is especially prevalent when " ++
    "other non-vault related assets are within the same execution environment (i.e. same " ++
    "database or same application server)."
  riskAssessment := "Default is medium impact. The impact is increased to high when the asset " ++
    "missing the trust-boundary protection is rated as strictly-confidential or " ++
    "mission-critical."
  falsePositives := "When all assets within the network segmentation trust-boundary are " ++
    "hardened and protected to the same extend as if all were vaults with data of highest " ++
    "sensitivity."
  function := .operations
  stride := .elevationOfPrivilege
  modelFailurePossible := false
  cwe := 1008

/-- Mixed Targets on Shared Runtime. -/
def mixedTargetsOnSharedRuntime : Category where
  id := "mixed-targets-on-shared-runtime"
  title := "Mixed Targets on Shared Runtime"
  description := "Different attacker targets (like frontend and backend/datastore components) " ++
    "should not be running on the same shared (underlying) runtime."
  impact := "If this risk is unmitigated, attackers successfully attacking other components of " ++
    "the system might have an easy path towards more valuable targets, as they are running on " ++
    "the same shared runtime."
  asvs := "V1 - Architecture, Design and Threat Modeling Requirements"
  cheatSheet := "https://cheatsheetseries.owasp.org/cheatsheets/Attack_Surface_Analysis_Cheat_Sheet.html"
  action := "Runtime Separation"
  mitigation := "Use separate runtime environments for running different target components or " ++
    "apply similar separation styles to prevent load- or breach-related problems originating " ++
    "from one more attacker-facing asset impacts also the other more critical rated " ++
    "backend/datastore assets."
  check := "Are recommendations from the linked cheat sheet and referenced ASVS chapter applied?"
  detectionLogic := "Shared runtime running technical assets of different trust-boundaries is " ++
    "at risk. Also mixing backend/datastore with frontend components on the same shared runtime " ++
    "is considered a risk."
  riskAssessment := "The risk rating (low or medium) depends on the confidentiality, integrity, " ++
    "and availability rating of the technical asset running on the shared runtime."
  falsePositives := "When all assets running on the shared runtime are hardened and protected " ++
    "to the same extend as if all were containing/processing highly sensitive data."
  function := .operations
  stride := .elevationOfPrivilege
  modelFailurePossible := false
  cwe := 1008

end ThreatModel.Category
