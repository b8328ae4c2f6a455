import ThreatModel.Risk.Category

/-!
# Hardening

Risks of platforms, registries and attractive assets without further protection.
-/

namespace ThreatModel.Category

/-- Container Platform Escape. -/
def containerPlatformEscape : Category where
  id := "container-platform-escape"
  title := "Container Platform Escape"
  description := "Container platforms are especially interesting targets for attackers as they " ++
    "host big parts of a containerized runtime infrastructure. When not configured and operated " ++
    "with security best practices in mind, attackers might exploit a vulnerability inside an " ++
    "container and escape towards the platform as highly privileged users. These scenarios " ++
    "might give attackers capabilities to attack every other container as owning the container " ++
    "platform (via container escape attacks) equals to owning every container."
  impact := "If this risk is unmitigated, attackers which have successfully compromised a " ++
    "container (via other vulnerabilities) might be able to deeply persist in the target system " ++
    "by executing code in many deployed containers and the container platform itself."
  asvs := "V14 - Configuration Verification Requirements"
  cheatSheet := "https://cheatsheetseries.owasp.org/cheatsheets/Docker_Security_Cheat_Sheet.html"
  action := "Container Infrastructure Hardening"
  mitigation := "Apply hardening of all container infrastructures. See for example the " ++
    "CIS-Benchmarks for Docker and Kubernetes as well as the Docker Bench for Security ( " ++
    "https://github.com/docker/docker-bench-security ) or InSpec Checks for Docker and " ++
    "Kubernetes ( https://github.com/dev-sec/cis-docker-benchmark and " ++
    "https://github.com/dev-sec/cis-kubernetes-benchmark ). Use only trusted base images, " ++
    "verify digital signatures and apply image creation best practices. Also consider using " ++
    "Google's Distroless base images or otherwise very small base images. Apply namespace " ++
    "isolation and nod affinity to separate pods from each other in terms of access and nodes " ++
    "the same style as you separate data."
  check := "Are recommendations from the linked cheat sheet and referenced ASVS or CSVS chapter " ++
    "applied?"
  detectionLogic := "In-scope container platforms."
  riskAssessment := "The risk rating depends on the sensitivity of the technical asset itself " ++
    "and of the data assets processed and stored."
  falsePositives := "Container platforms not running parts of the target architecture can be " ++
    "considered as false positives after individual review."
  function := .operations
  stride := .elevationOfPrivilege
  modelFailurePossible := false
  cwe := 1008

/-- Missing Hardening. -/
def missingHardening : Category where
  id := "missing-hardening"
  title := "Missing Hardening"
  description := "Technical assets with a Relative Attacker Attractiveness (RAA) value of 55 % " ++
    "or higher should be explicitly hardened taking best practices and vendor hardening guides " ++
    "into account."
  impact := "If this risk remains unmitigated, attackers might be able to easier attack " ++
    "high-value targets."
  asvs := "V14 - Configuration Verification Requirements"
  cheatSheet := "https://cheatsheetseries.owasp.org/cheatsheets/Attack_Surface_Analysis_Cheat_Sheet.html"
  action := "System Hardening"
  mitigation := "Try to apply all hardening best practices (like CIS benchmarks, OWASP " ++
    "recommendations, vendor recommendations, DevSec Hardening Framework, DBSAT for Oracle " ++
    "databases, and others)."
  check := "Are recommendations from the linked cheat sheet and referenced ASVS chapter applied?"
  detectionLogic := "In-scope technical assets with RAA values of 55 % or higher. Generally for " ++
    "high-value targets like datastores, application servers, identity providers and ERP " ++
    "systems this limit is reduced to 40 %"
  riskAssessment := "The risk rating depends on the sensitivity of the data processed or stored " ++
    "in the technical asset."
  falsePositives := "Usually no false positives."
  function := .operations
  stride := .tampering
  modelFailurePossible := false
  cwe := 16

/-- Missing Vault (Secret Storage). -/
def missingVault : Category where
  id := "missing-vault"
  title := "Missing Vault (Secret Storage)"
  description := "In order to avoid the risk of secret leakage via config files (when attacked " ++
    "through vulnerabilities being able to read files like Path-Traversal and others), it is " ++
    "best practice to use a separate hardened process with proper authentication, " ++
    "authorization, and audit logging to access config secrets (like credentials, private keys, " ++
    "client certificates, etc.). This component is usually some kind of Vault."
  impact := "If this risk is unmitigated, attackers might be able to easier steal config " ++
    "secrets (like credentials, private keys, client certificates, etc.) once a vulnerability " ++
    "to access files is present and exploited."
  asvs := "V6 - Stored Cryptography Verification Requirements"
  cheatSheet := "https://cheatsheetseries.owasp.org/cheatsheets/Cryptographic_Storage_Cheat_Sheet.html"
  action := "Vault (Secret Storage)"
  mitigation := "Consider using a Vault (Secret Storage) to securely store and access config " ++
    "secrets (like credentials, private keys, client certificates, etc.)."
  check := "Is a Vault (Secret Storage) in place?"
  detectionLogic := "Models without a Vault (Secret Storage)."
  riskAssessment := "The risk rating depends on the sensitivity of the technical asset itself " ++
    "and of the data assets processed and stored."
  falsePositives := "Models where no technical assets have any kind of sensitive config data to " ++
    "protect can be considered as false positives after individual review."
  function := .architecture
  stride := .informationDisclosure
  modelFailurePossible := true
  cwe := 522

/-- Service Registry Poisoning. -/
def serviceRegistryPoisoning : Category where
  id := "service-registry-poisoning"
  title := "Service Registry Poisoning"
  description := "When a service registry used for discovery of trusted service endpoints " ++
    "Service Registry Poisoning risks might arise."
  impact := "If this risk remains unmitigated, attackers might be able to poison the service " ++
    "registry with malicious service endpoints or malicious lookup and config data leading to " ++
    "breach of sensitive data."
  asvs := "V10 - Malicious Code Verification Requirements"
  cheatSheet := "https://cheatsheetseries.owasp.org/cheatsheets/Access_Control_Cheat_Sheet.html"
  action := "Service Registry Integrity Check"
  mitigation := "Try to strengthen the access control of the service registry and apply " ++
    "cross-checks to detect maliciously poisoned lookup data."
  check := "Are recommendations from the linked cheat sheet and referenced ASVS chapter applied?"
  detectionLogic := "In-scope service registries."
  riskAssessment := "The risk rating depends on the sensitivity of the technical assets " ++
    "accessing the service registry as well as the data assets processed or stored."
  falsePositives := "Service registries not used for service discovery can be considered as " ++
    "false positives after individual review."
  function := .architecture
  stride := .spoofing
  modelFailurePossible := false
  cwe := 693

end ThreatModel.Category
