import ThreatModel.Risk.Category

/-!
# Untrusted content

Risks of content that is parsed, stored or turned into objects.
-/

namespace ThreatModel.Category

/-- Missing File Validation. -/
def missingFileValidation : Category where
  id := "missing-file-validation"
  title := "Missing File Validation"
  description := "When a technical asset accepts files, these input files should be strictly " ++
    "validated about filename and type."
  impact := "If this risk is unmitigated, attackers might be able to provide malicious files to " ++
    "the application."
  asvs := "V12 - File and Resources Verification Requirements"
  cheatSheet := "https://cheatsheetseries.owasp.org/cheatsheets/File_Upload_Cheat_Sheet.html"
  action := "File Validation"
  mitigation := "Filter by file extension and discard (if feasible) the name provided. " ++
    "Whitelist the accepted file types and determine the mime-type on the server-side (for " ++
    "example via \"Apache Tika\" or similar checks). If the file is retrievable by endusers " ++
    "and/or backoffice employees, consider performing scans for popular malware (if the files " ++
    "can be retrieved much later than they were uploaded, also apply a fresh malware scan " ++
    "during retrieval to scan with newer signatures of popular malware). Also enforce limits on " ++
    "maximum file size to avoid denial-of-service like scenarios."
  check := "Are recommendations from the linked cheat sheet and referenced ASVS chapter applied?"
  detectionLogic := "In-scope technical assets with custom-developed code accepting file data " ++
    "formats."
  riskAssessment := "The risk rating depends on the sensitivity of the technical asset itself " ++
    "and of the data assets processed and stored."
  falsePositives := "Fully trusted (i.e. cryptographically signed or similar) files can be " ++
    "considered as false positives after individual review."
  function := .development
  stride := .spoofing
  modelFailurePossible := false
  cwe := 434

/-- Untrusted Deserialization. -/
def untrustedDeserialization : Category where
  id := "untrusted-deserialization"
  title := "Untrusted Deserialization"
  description := "When a technical asset accepts data in a specific serialized form (like Java " ++
    "or .NET serialization), Untrusted Deserialization risks might arise. See " ++
    "https://christian-schneider.net/JavaDeserializationSecurityFAQ.html for more details."
  impact := "If this risk is unmitigated, attackers might be able to execute code on target " ++
    "systems by exploiting untrusted deserialization endpoints."
  asvs := "V5 - Validation, Sanitization and Encoding Verification Requirements"
  cheatSheet := "https://cheatsheetseries.owasp.org/cheatsheets/Deserialization_Cheat_Sheet.html"
  action := "Prevention of Deserialization of Untrusted Data"
  mitigation := "Try to avoid the deserialization of untrusted data (even of data within the " ++
    "same trust-boundary as long as it is sent across a remote connection) in order to stay " ++
    "safe from Untrusted Deserialization vulnerabilities. Alternatively a strict whitelisting " ++
    "approach of the classes/types/values to deserialize might help as well. When a third-party " ++
    "product is used instead of custom developed software, check if the product applies the " ++
    "proper mitigation and ensure a reasonable patch-level."
  check := "Are recommendations from the linked cheat sheet and referenced ASVS chapter applied?"
  detectionLogic := "In-scope technical assets accepting serialization data formats (including " ++
    "EJB and RMI protocols)."
  riskAssessment := "The risk rating depends on the sensitivity of the technical asset itself " ++
    "and of the data assets processed and stored."
  falsePositives := "Fully trusted (i.e. cryptographically signed or similar) data deserialized " ++
    "can be considered as false positives after individual review."
  function := .architecture
  stride := .tampering
  modelFailurePossible := false
  cwe := 502

/-- XML External Entity (XXE). -/
def xmlExternalEntity : Category where
  id := "xml-external-entity"
  title := "XML External Entity (XXE)"
  description := "When a technical asset accepts data in XML format, XML External Entity (XXE) " ++
    "risks might arise."
  impact := "If this risk is unmitigated, attackers might be able to read sensitive files " ++
    "(configuration data, key/credential files, deployment files, business data files, etc.) " ++
    "form the filesystem of affected components and/or access sensitive services or files of " ++
    "other components."
  asvs := "V14 - Configuration Verification Requirements"
  cheatSheet := "https://cheatsheetseries.owasp.org/cheatsheets/XML_External_Entity_Prevention_Cheat_Sheet.html"
  action := "XML Parser Hardening"
  mitigation := "Apply hardening of all XML parser instances in order to stay safe from XML " ++
    "External Entity (XXE) vulnerabilities. When a third-party product is used instead of " ++
    "custom developed software, check if the product applies the proper mitigation and ensure a " ++
    "reasonable patch-level."
  check := "Are recommendations from the linked cheat sheet and referenced ASVS chapter applied?"
  detectionLogic := "In-scope technical assets accepting XML data formats."
  riskAssessment := "The risk rating depends on the sensitivity of the technical asset itself " ++
    "and of the data assets processed and stored. Also for cloud-based environments the " ++
    "exploitation impact is at least medium, as cloud backend services can be attacked via SSRF " ++
    "(and XXE vulnerabilities are often also SSRF vulnerabilities)."
  falsePositives := "Fully trusted (i.e. cryptographically signed or similar) XML data can be " ++
    "considered as false positives after individual review."
  function := .development
  stride := .informationDisclosure
  modelFailurePossible := false
  cwe := 611

end ThreatModel.Category
