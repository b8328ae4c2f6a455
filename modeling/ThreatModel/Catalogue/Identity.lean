import ThreatModel.Risk.Category

/-!
# Identity

Risks of callers who need not say or prove who they are.
-/

namespace ThreatModel.Category

/-- Missing Authentication. -/
def missingAuthentication : Category where
  id := "missing-authentication"
  title := "Missing Authentication"
  description := "Technical assets (especially multi-tenant systems) should authenticate " ++
    "incoming requests when the asset processes or stores sensitive data."
  impact := "If this risk is unmitigated, attackers might be able to access or modify sensitive " ++
    "data in an unauthenticated way."
  asvs := "V2 - Authentication Verification Requirements"
  cheatSheet := "https://cheatsheetseries.owasp.org/cheatsheets/Authentication_Cheat_Sheet.html"
  action := "Authentication of Incoming Requests"
  mitigation := "Apply an authentication method to the technical asset. To protect highly " ++
    "sensitive data consider the use of two-factor authentication for human users."
  check := "Are recommendations from the linked cheat sheet and referenced ASVS chapter applied?"
  detectionLogic := "In-scope technical assets (except load-balancer, reverse-proxy, " ++
    "service-registry, waf, ids, and ips and in-process calls) should authenticate incoming " ++
    "requests when the asset processes or stores sensitive data. This is especially the case " ++
    "for all multi-tenant assets (there even non-sensitive ones)."
  riskAssessment := "The risk rating (medium or high) depends on the sensitivity of the data " ++
    "sent across the communication link. Monitoring callers are exempted from this risk."
  falsePositives := "Technical assets which do not process requests regarding functionality or " ++
    "data linked to end-users (customers) can be considered as false positives after individual " ++
    "review."
  function := .architecture
  stride := .elevationOfPrivilege
  modelFailurePossible := false
  cwe := 306

/-- Missing Two-Factor Authentication (2FA). -/
def missingAuthenticationSecondFactor : Category where
  id := "missing-authentication-second-factor"
  title := "Missing Two-Factor Authentication (2FA)"
  description := "Technical assets (especially multi-tenant systems) should authenticate " ++
    "incoming requests with two-factor (2FA) authentication when the asset processes or stores " ++
    "highly sensitive data (in terms of confidentiality, integrity, and availability) and is " ++
    "accessed by humans."
  impact := "If this risk is unmitigated, attackers might be able to access or modify highly " ++
    "sensitive data without strong authentication."
  asvs := "V2 - Authentication Verification Requirements"
  cheatSheet := "https://cheatsheetseries.owasp.org/cheatsheets/Multifactor_Authentication_Cheat_Sheet.html"
  action := "Authentication with Second Factor (2FA)"
  mitigation := "Apply an authentication method to the technical asset protecting highly " ++
    "sensitive data via two-factor authentication for human users."
  check := "Are recommendations from the linked cheat sheet and referenced ASVS chapter applied?"
  detectionLogic := "In-scope technical assets (except load-balancer, reverse-proxy, waf, ids, " ++
    "and ips) should authenticate incoming requests via two-factor authentication (2FA) when " ++
    "the asset processes or stores highly sensitive data (in terms of confidentiality, " ++
    "integrity, and availability) and is accessed by a client used by a human user."
  riskAssessment := "medium"
  falsePositives := "Technical assets which do not process requests regarding functionality or " ++
    "data linked to end-users (customers) can be considered as false positives after individual " ++
    "review."
  function := .businessSide
  stride := .elevationOfPrivilege
  modelFailurePossible := false
  cwe := 308

/-- Missing Identity Propagation. -/
def missingIdentityPropagation : Category where
  id := "missing-identity-propagation"
  title := "Missing Identity Propagation"
  description := "Technical assets (especially multi-tenant systems), which usually process " ++
    "data for endusers should authorize every request based on the identity of the enduser when " ++
    "the data flow is authenticated (i.e. non-public). For DevOps usages at least a " ++
    "technical-user authorization is required."
  impact := "If this risk is unmitigated, attackers might be able to access or modify foreign " ++
    "data after a successful compromise of a component within the system due to missing " ++
    "resource-based authorization checks."
  asvs := "V4 - Access Control Verification Requirements"
  cheatSheet := "https://cheatsheetseries.owasp.org/cheatsheets/Access_Control_Cheat_Sheet.html"
  action := "Identity Propagation and Resource-based Authorization"
  mitigation := "When processing requests for endusers if possible authorize in the backend " ++
    "against the propagated identity of the enduser. This can be achieved in passing JWTs or " ++
    "similar tokens and checking them in the backend services. For DevOps usages apply at least " ++
    "a technical-user authorization."
  check := "Are recommendations from the linked cheat sheet and referenced ASVS chapter applied?"
  detectionLogic := "In-scope service-like technical assets which usually process data based on " ++
    "enduser requests, if authenticated (i.e. non-public), should authorize incoming requests " ++
    "based on the propagated enduser identity when their rating is sensitive. This is " ++
    "especially the case for all multi-tenant assets (there even less-sensitive rated ones). " ++
    "DevOps usages are exempted from this risk."
  riskAssessment := "The risk rating (medium or high) depends on the confidentiality, " ++
    "integrity, and availability rating of the technical asset."
  falsePositives := "Technical assets which do not process requests regarding functionality or " ++
    "data linked to end-users (customers) can be considered as false positives after individual " ++
    "review."
  function := .architecture
  stride := .elevationOfPrivilege
  modelFailurePossible := false
  cwe := 284

/-- Missing Identity Store. -/
def missingIdentityStore : Category where
  id := "missing-identity-store"
  title := "Missing Identity Store"
  description := "The modeled architecture does not contain an identity store, which might be " ++
    "the risk of a model missing critical assets (and thus not seeing their risks)."
  impact := "If this risk is unmitigated, attackers might be able to exploit risks unseen in " ++
    "this threat model in the identity provider/store that is currently missing in the model."
  asvs := "V2 - Authentication Verification Requirements"
  cheatSheet := "https://cheatsheetseries.owasp.org/cheatsheets/Authentication_Cheat_Sheet.html"
  action := "Identity Store"
  mitigation := "Include an identity store in the model if the application has a login."
  check := "Are recommendations from the linked cheat sheet and referenced ASVS chapter applied?"
  detectionLogic := "Models with authenticated data-flows authorized via enduser-identity " ++
    "missing an in-scope identity store."
  riskAssessment := "The risk rating depends on the sensitivity of the enduser-identity " ++
    "authorized technical assets and their data assets processed and stored."
  falsePositives := "Models only offering data/services without any real authentication need " ++
    "can be considered as false positives after individual review."
  function := .architecture
  stride := .spoofing
  modelFailurePossible := true
  cwe := 287

end ThreatModel.Category
