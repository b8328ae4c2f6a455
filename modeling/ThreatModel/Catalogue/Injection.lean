import ThreatModel.Risk.Category

/-!
# Injection

An in-scope asset may be made to pass commands of an attacker on to the service behind it.
-/

namespace ThreatModel.Category

/-- LDAP-Injection. -/
def ldapInjection : Category where
  id := "ldap-injection"
  title := "LDAP-Injection"
  description := "When an LDAP server is accessed LDAP-Injection risks might arise. The risk " ++
    "rating depends on the sensitivity of the LDAP server itself and of the data assets " ++
    "processed or stored."
  impact := "If this risk remains unmitigated, attackers might be able to modify LDAP queries " ++
    "and access more data from the LDAP server than allowed."
  asvs := "V5 - Validation, Sanitization and Encoding Verification Requirements"
  cheatSheet := "https://cheatsheetseries.owasp.org/cheatsheets/LDAP_Injection_Prevention_Cheat_Sheet.html"
  action := "LDAP-Injection Prevention"
  mitigation := "Try to use libraries that properly encode LDAP meta characters in searches and " ++
    "queries to access the LDAP sever in order to stay safe from LDAP-Injection " ++
    "vulnerabilities. When a third-party product is used instead of custom developed software, " ++
    "check if the product applies the proper mitigation and ensure a reasonable patch-level."
  check := "Are recommendations from the linked cheat sheet and referenced ASVS chapter applied?"
  detectionLogic := "In-scope clients accessing LDAP servers via typical LDAP access protocols."
  riskAssessment := "The risk rating depends on the sensitivity of the LDAP server itself and " ++
    "of the data assets processed or stored."
  falsePositives := "LDAP server queries by search values not consisting of parts controllable " ++
    "by the caller can be considered as false positives after individual review."
  function := .development
  stride := .tampering
  modelFailurePossible := false
  cwe := 90

/-- Path-Traversal. -/
def pathTraversal : Category where
  id := "path-traversal"
  title := "Path-Traversal"
  description := "When a filesystem is accessed Path-Traversal or Local-File-Inclusion (LFI) " ++
    "risks might arise. The risk rating depends on the sensitivity of the technical asset " ++
    "itself and of the data assets processed or stored."
  impact := "If this risk is unmitigated, attackers might be able to read sensitive files " ++
    "(configuration data, key/credential files, deployment files, business data files, etc.) " ++
    "from the filesystem of affected components."
  asvs := "V12 - File and Resources Verification Requirements"
  cheatSheet := "https://cheatsheetseries.owasp.org/cheatsheets/Input_Validation_Cheat_Sheet.html"
  action := "Path-Traversal Prevention"
  mitigation := "Before accessing the file cross-check that it resides in the expected folder " ++
    "and is of the expected type and filename/suffix. Try to use a mapping if possible instead " ++
    "of directly accessing by a filename which is (partly or fully) provided by the caller. " ++
    "When a third-party product is used instead of custom developed software, check if the " ++
    "product applies the proper mitigation and ensure a reasonable patch-level."
  check := "Are recommendations from the linked cheat sheet and referenced ASVS chapter applied?"
  detectionLogic := "Filesystems accessed by in-scope callers."
  riskAssessment := "The risk rating depends on the sensitivity of the data stored inside the " ++
    "technical asset."
  falsePositives := "File accesses by filenames not consisting of parts controllable by the " ++
    "caller can be considered as false positives after individual review."
  function := .development
  stride := .informationDisclosure
  modelFailurePossible := false
  cwe := 22

/-- Search-Query Injection. -/
def searchQueryInjection : Category where
  id := "search-query-injection"
  title := "Search-Query Injection"
  description := "When a search engine server is accessed Search-Query Injection risks might " ++
    "arise. See for example https://github.com/veracode-research/solr-injection and " ++
    "https://github.com/veracode-research/solr-injection/blob/master/slides/DEFCON-27-Michael-Stepankin-Apache-Solr-Injection.pdf " ++
    "for more details (here related to Solr, but in general showcasing the topic of search " ++
    "query injections)."
  impact := "If this risk remains unmitigated, attackers might be able to read more data from " ++
    "the search index and eventually further escalate towards a deeper system penetration via " ++
    "code executions."
  asvs := "V5 - Validation, Sanitization and Encoding Verification Requirements"
  cheatSheet := "https://cheatsheetseries.owasp.org/cheatsheets/Injection_Prevention_Cheat_Sheet.html"
  action := "Search-Query Injection Prevention"
  mitigation := "Try to use libraries that properly encode search query meta characters in " ++
    "searches and don't expose the query unfiltered to the caller. When a third-party product " ++
    "is used instead of custom developed software, check if the product applies the proper " ++
    "mitigation and ensure a reasonable patch-level."
  check := "Are recommendations from the linked cheat sheet and referenced ASVS chapter applied?"
  detectionLogic := "In-scope clients accessing search engine servers via typical search access " ++
    "protocols."
  riskAssessment := "The risk rating depends on the sensitivity of the search engine server " ++
    "itself and of the data assets processed or stored."
  falsePositives := "Server engine queries by search values not consisting of parts " ++
    "controllable by the caller can be considered as false positives after individual review."
  function := .development
  stride := .tampering
  modelFailurePossible := false
  cwe := 74

/-- SQL/NoSQL-Injection. -/
def sqlNosqlInjection : Category where
  id := "sql-nosql-injection"
  title := "SQL/NoSQL-Injection"
  description := "When a database is accessed via database access protocols SQL/NoSQL-Injection " ++
    "risks might arise. The risk rating depends on the sensitivity technical asset itself and " ++
    "of the data assets processed or stored."
  impact := "If this risk is unmitigated, attackers might be able to modify SQL/NoSQL queries " ++
    "to steal and modify data and eventually further escalate towards a deeper system " ++
    "penetration via code executions."
  asvs := "V5 - Validation, Sanitization and Encoding Verification Requirements"
  cheatSheet := "https://cheatsheetseries.owasp.org/cheatsheets/SQL_Injection_Prevention_Cheat_Sheet.html"
  action := "SQL/NoSQL-Injection Prevention"
  mitigation := "Try to use parameter binding to be safe from injection vulnerabilities. When a " ++
    "third-party product is used instead of custom developed software, check if the product " ++
    "applies the proper mitigation and ensure a reasonable patch-level."
  check := "Are recommendations from the linked cheat sheet and referenced ASVS chapter applied?"
  detectionLogic := "Database accessed via typical database access protocols by in-scope clients."
  riskAssessment := "The risk rating depends on the sensitivity of the data stored inside the " ++
    "database."
  falsePositives := "Database accesses by queries not consisting of parts controllable by the " ++
    "caller can be considered as false positives after individual review."
  function := .development
  stride := .tampering
  modelFailurePossible := false
  cwe := 89

end ThreatModel.Category
