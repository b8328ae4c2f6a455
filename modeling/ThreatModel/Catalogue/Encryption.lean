import ThreatModel.Risk.Category

/-!
# Encryption

Risks of data that can be read where it is stored or transferred.
-/

namespace ThreatModel.Category

/-- Unencrypted Technical Assets. -/
def unencryptedAsset : Category where
  id := "unencrypted-asset"
  title := "Unencrypted Technical Assets"
  description := "Due to the confidentiality rating of the technical asset itself and/or the " ++
    "processed data assets this technical asset must be encrypted. The risk rating depends on " ++
    "the sensitivity technical asset itself and of the data assets stored."
  impact := "If this risk is unmitigated, attackers might be able to access unencrypted data " ++
    "when successfully compromising sensitive components."
  asvs := "V6 - Stored Cryptography Verification Requirements"
  cheatSheet := "https://cheatsheetseries.owasp.org/cheatsheets/Cryptographic_Storage_Cheat_Sheet.html"
  action := "Encryption of Technical Asset"
  mitigation := "Apply encryption to the technical asset."
  check := "Are recommendations from the linked cheat sheet and referenced ASVS chapter applied?"
  detectionLogic := "In-scope unencrypted technical assets (excluding reverse-proxy, " ++
    "load-balancer, waf, ids, ips and embedded components like library) storing data assets " ++
    "rated at least as confidential or critical. For technical assets storing data assets rated " ++
    "as strictly-confidential or mission-critical the encryption must be of type " ++
    "data-with-enduser-individual-key."
  riskAssessment := "Depending on the confidentiality rating of the stored data-assets either " ++
    "medium or high risk."
  falsePositives := "When all sensitive data stored within the asset is already fully encrypted " ++
    "on document or data level."
  function := .operations
  stride := .informationDisclosure
  modelFailurePossible := false
  cwe := 311

/-- Unencrypted Communication. -/
def unencryptedCommunication : Category where
  id := "unencrypted-communication"
  title := "Unencrypted Communication"
  description := "Due to the confidentiality and/or integrity rating of the data assets " ++
    "transferred over the communication link this connection must be encrypted."
  impact := "If this risk is unmitigated, network attackers might be able to to eavesdrop on " ++
    "unencrypted sensitive data sent between components."
  asvs := "V9 - Communication Verification Requirements"
  cheatSheet := "https://cheatsheetseries.owasp.org/cheatsheets/Transport_Layer_Protection_Cheat_Sheet.html"
  action := "Encryption of Communication Links"
  mitigation := "Apply transport layer encryption to the communication link."
  check := "Are recommendations from the linked cheat sheet and referenced ASVS chapter applied?"
  detectionLogic := "Unencrypted technical communication links of in-scope technical assets " ++
    "(excluding monitoring traffic as well as local-file-access and in-process-library-call) " ++
    "transferring sensitive data."
  riskAssessment := "Depending on the confidentiality rating of the transferred data-assets " ++
    "either medium or high risk."
  falsePositives := "When all sensitive data sent over the communication link is already fully " ++
    "encrypted on document or data level. Also intra-container/pod communication can be " ++
    "considered false positive when container orchestration platform handles encryption."
  function := .operations
  stride := .informationDisclosure
  modelFailurePossible := false
  cwe := 319

end ThreatModel.Category
