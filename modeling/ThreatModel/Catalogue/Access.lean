import ThreatModel.Risk.Category

/-!
# Access

Risks of accesses that come from outside a network.
-/

namespace ThreatModel.Category

/-- DoS-risky Access Across Trust-Boundary. -/
def dosRiskyAccessAcrossTrustBoundary : Category where
  id := "dos-risky-access-across-trust-boundary"
  title := "DoS-risky Access Across Trust-Boundary"
  description := "Assets accessed across trust boundaries with critical or mission-critical " ++
    "availability rating are more prone to Denial-of-Service (DoS) risks."
  impact := "If this risk remains unmitigated, attackers might be able to disturb the " ++
    "availability of important parts of the system."
  asvs := "V1 - Architecture, Design and Threat Modeling Requirements"
  cheatSheet := "https://cheatsheetseries.owasp.org/cheatsheets/Denial_of_Service_Cheat_Sheet.html"
  action := "Anti-DoS Measures"
  mitigation := "Apply anti-DoS techniques like throttling and/or per-client load blocking with " ++
    "quotas. Also for maintenance access routes consider applying a VPN instead of public " ++
    "reachable interfaces. Generally applying redundancy on the targeted technical asset " ++
    "reduces the risk of DoS."
  check := "Are recommendations from the linked cheat sheet and referenced ASVS chapter applied?"
  detectionLogic := "In-scope technical assets (excluding load-balancer) with availability " ++
    "rating of critical or higher which have incoming data-flows across a network " ++
    "trust-boundary (excluding devops usage)."
  riskAssessment := "Matching technical assets with availability rating of critical or higher " ++
    "are at low risk. When the availability rating is mission-critical and neither a VPN nor IP " ++
    "filter for the incoming data-flow nor redundancy for the asset is applied, the risk-rating " ++
    "is considered medium."
  falsePositives := "When the accessed target operations are not time- or resource-consuming."
  function := .operations
  stride := .denialOfService
  modelFailurePossible := false
  cwe := 400

/-- Unguarded Access From Internet. -/
def unguardedAccessFromInternet : Category where
  id := "unguarded-access-from-internet"
  title := "Unguarded Access From Internet"
  description := "Internet-exposed assets must be guarded by a protecting service, application, " ++
    "or reverse-proxy."
  impact := "If this risk is unmitigated, attackers might be able to directly attack sensitive " ++
    "systems without any hardening components in-between due to them being directly exposed on " ++
    "the internet."
  asvs := "V1 - Architecture, Design and Threat Modeling Requirements"
  cheatSheet := "https://cheatsheetseries.owasp.org/cheatsheets/Attack_Surface_Analysis_Cheat_Sheet.html"
  action := "Encapsulation of Technical Asset"
  mitigation := "Encapsulate the asset behind a guarding service, application, or " ++
    "reverse-proxy. For admin maintenance a bastion-host should be used as a jump-server. For " ++
    "file transfer a store-and-forward-host should be used as an indirect file exchange " ++
    "platform."
  check := "Are recommendations from the linked cheat sheet and referenced ASVS chapter applied?"
  detectionLogic := "In-scope technical assets (excluding load-balancer) with confidentiality " ++
    "rating of confidential (or higher) or with integrity rating of critical (or higher) when " ++
    "accessed directly from the internet. All web-server, web-application, reverse-proxy, waf, " ++
    "and gateway assets are exempted from this risk when they do not consist of custom " ++
    "developed code and the data-flow only consists of HTTP or FTP protocols. Access from " ++
    "monitoring systems as well as VPN-protected connections are exempted."
  riskAssessment := "The matching technical assets are at low risk. When either the " ++
    "confidentiality rating is strictly-confidential or the integrity rating is " ++
    "mission-critical, the risk-rating is considered medium. For assets with RAA values higher " ++
    "than 40 % the risk-rating increases."
  falsePositives := "When other means of filtering client requests are applied equivalent of " ++
    "reverse-proxy, waf, or gateway components."
  function := .architecture
  stride := .elevationOfPrivilege
  modelFailurePossible := false
  cwe := 501

/-- Unguarded Direct Datastore Access. -/
def unguardedDirectDatastoreAccess : Category where
  id := "unguarded-direct-datastore-access"
  title := "Unguarded Direct Datastore Access"
  description := "Datastores accessed across trust boundaries must be guarded by some " ++
    "protecting service or application."
  impact := "If this risk is unmitigated, attackers might be able to directly attack sensitive " ++
    "datastores without any protecting components in-between."
  asvs := "V1 - Architecture, Design and Threat Modeling Requirements"
  cheatSheet := "https://cheatsheetseries.owasp.org/cheatsheets/Attack_Surface_Analysis_Cheat_Sheet.html"
  action := "Encapsulation of Datastore"
  mitigation := "Encapsulate the datastore access behind a guarding service or application."
  check := "Are recommendations from the linked cheat sheet and referenced ASVS chapter applied?"
  detectionLogic := "In-scope technical assets of type datastore (except identity-store-ldap " ++
    "when accessed from identity-provider and file-server when accessed via file transfer " ++
    "protocols) with confidentiality rating of confidential (or higher) or with integrity " ++
    "rating of critical (or higher) which have incoming data-flows from assets outside across a " ++
    "network trust-boundary. DevOps config and deployment access is excluded from this risk."
  riskAssessment := "The matching technical assets are at low risk. When either the " ++
    "confidentiality rating is strictly-confidential or the integrity rating is " ++
    "mission-critical, the risk-rating is considered medium. For assets with RAA values higher " ++
    "than 40 % the risk-rating increases."
  falsePositives := "When the caller is considered fully trusted as if it was part of the " ++
    "datastore itself."
  function := .architecture
  stride := .elevationOfPrivilege
  modelFailurePossible := false
  cwe := 501

end ThreatModel.Category
