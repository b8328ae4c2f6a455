import ThreatModel.Risk.Category

/-!
# Web access

Risks of web applications, web services and the requests between them.
-/

namespace ThreatModel.Category

/-- Cross-Site Request Forgery (CSRF). -/
def crossSiteRequestForgery : Category where
  id := "cross-site-request-forgery"
  title := "Cross-Site Request Forgery (CSRF)"
  description := "When a web application is accessed via web protocols Cross-Site Request " ++
    "Forgery (CSRF) risks might arise."
  impact := "If this risk remains unmitigated, attackers might be able to trick logged-in " ++
    "victim users into unwanted actions within the web application by visiting an attacker " ++
    "controlled web site."
  asvs := "V4 - Access Control Verification Requirements"
  cheatSheet := "https://cheatsheetseries.owasp.org/cheatsheets/Cross-Site_Request_Forgery_Prevention_Cheat_Sheet.html"
  action := "CSRF Prevention"
  mitigation := "Try to use anti-CSRF tokens ot the double-submit patterns (at least for " ++
    "logged-in requests). When your authentication scheme depends on cookies (like session or " ++
    "token cookies), consider marking them with the same-site flag. When a third-party product " ++
    "is used instead of custom developed software, check if the product applies the proper " ++
    "mitigation and ensure a reasonable patch-level."
  check := "Are recommendations from the linked cheat sheet and referenced ASVS chapter applied?"
  detectionLogic := "In-scope web applications accessed via typical web access protocols."
  riskAssessment := "The risk rating depends on the integrity rating of the data sent across " ++
    "the communication link."
  falsePositives := "Web applications passing the authentication sate via custom headers " ++
    "instead of cookies can eventually be false positives. Also when the web application is not " ++
    "accessed via a browser-like component (i.e not by a human user initiating the request that " ++
    "gets passed through all components until it reaches the web application) this can be " ++
    "considered a false positive."
  function := .development
  stride := .spoofing
  modelFailurePossible := false
  cwe := 352

/-- Cross-Site Scripting (XSS). -/
def crossSiteScripting : Category where
  id := "cross-site-scripting"
  title := "Cross-Site Scripting (XSS)"
  description := "For each web application Cross-Site Scripting (XSS) risks might arise. In " ++
    "terms of the overall risk level take other applications running on the same domain into " ++
    "account as well."
  impact := "If this risk remains unmitigated, attackers might be able to access individual " ++
    "victim sessions and steal or modify user data."
  asvs := "V5 - Validation, Sanitization and Encoding Verification Requirements"
  cheatSheet := "https://cheatsheetseries.owasp.org/cheatsheets/Cross_Site_Scripting_Prevention_Cheat_Sheet.html"
  action := "XSS Prevention"
  mitigation := "Try to encode all values sent back to the browser and also handle " ++
    "DOM-manipulations in a safe way to avoid DOM-based XSS. When a third-party product is used " ++
    "instead of custom developed software, check if the product applies the proper mitigation " ++
    "and ensure a reasonable patch-level."
  check := "Are recommendations from the linked cheat sheet and referenced ASVS chapter applied?"
  detectionLogic := "In-scope web applications."
  riskAssessment := "The risk rating depends on the sensitivity of the data processed or stored " ++
    "in the web application."
  falsePositives := "When the technical asset is not accessed via a browser-like component (i.e " ++
    "not by a human user initiating the request that gets passed through all components until " ++
    "it reaches the web application) this can be considered a false positive."
  function := .development
  stride := .tampering
  modelFailurePossible := false
  cwe := 79

/-- Missing Web Application Firewall (WAF). -/
def missingWaf : Category where
  id := "missing-waf"
  title := "Missing Web Application Firewall (WAF)"
  description := "To have a first line of filtering defense, security architectures with " ++
    "web-services or web-applications should include a WAF in front of them. Even though a WAF " ++
    "is not a replacement for security (all components must be secure even without a WAF) it " ++
    "adds another layer of defense to the overall system by delaying some attacks and having " ++
    "easier attack alerting through it."
  impact := "If this risk is unmitigated, attackers might be able to apply standard attack " ++
    "pattern tests at great speed without any filtering."
  asvs := "V1 - Architecture, Design and Threat Modeling Requirements"
  cheatSheet := "https://cheatsheetseries.owasp.org/cheatsheets/Virtual_Patching_Cheat_Sheet.html"
  action := "Web Application Firewall (WAF)"
  mitigation := "Consider placing a Web Application Firewall (WAF) in front of the web-services " ++
    "and/or web-applications. For cloud environments many cloud providers offer pre-configured " ++
    "WAFs. Even reverse proxies can be enhances by a WAF component via ModSecurity plugins."
  check := "Is a Web Application Firewall (WAF) in place?"
  detectionLogic := "In-scope web-services and/or web-applications accessed across a network " ++
    "trust boundary not having a Web Application Firewall (WAF) in front of them."
  riskAssessment := "The risk rating depends on the sensitivity of the technical asset itself " ++
    "and of the data assets processed and stored."
  falsePositives := "Targets only accessible via WAFs or reverse proxies containing a WAF " ++
    "component (like ModSecurity) can be considered as false positives after individual review."
  function := .operations
  stride := .tampering
  modelFailurePossible := false
  cwe := 1008

/-- Server-Side Request Forgery (SSRF). -/
def serverSideRequestForgery : Category where
  id := "server-side-request-forgery"
  title := "Server-Side Request Forgery (SSRF)"
  description := "When a server system (i.e. not a client) is accessing other server systems " ++
    "via typical web protocols Server-Side Request Forgery (SSRF) or Local-File-Inclusion (LFI) " ++
    "or Remote-File-Inclusion (RFI) risks might arise."
  impact := "If this risk is unmitigated, attackers might be able to access sensitive services " ++
    "or files of network-reachable components by modifying outgoing calls of affected " ++
    "components."
  asvs := "V12 - File and Resources Verification Requirements"
  cheatSheet := "https://cheatsheetseries.owasp.org/cheatsheets/Server_Side_Request_Forgery_Prevention_Cheat_Sheet.html"
  action := "SSRF Prevention"
  mitigation := "Try to avoid constructing the outgoing target URL with caller controllable " ++
    "values. Alternatively use a mapping (whitelist) when accessing outgoing URLs instead of " ++
    "creating them including caller controllable values. When a third-party product is used " ++
    "instead of custom developed software, check if the product applies the proper mitigation " ++
    "and ensure a reasonable patch-level."
  check := "Are recommendations from the linked cheat sheet and referenced ASVS chapter applied?"
  detectionLogic := "In-scope non-client systems accessing (using outgoing communication links) " ++
    "targets with either HTTP or HTTPS protocol."
  riskAssessment := "The risk rating (low or medium) depends on the sensitivity of the data " ++
    "assets receivable via web protocols from targets within the same network trust-boundary as " ++
    "well on the sensitivity of the data assets receivable via web protocols from the target " ++
    "asset itself. Also for cloud-based environments the exploitation impact is at least " ++
    "medium, as cloud backend services can be attacked via SSRF."
  falsePositives := "Servers not sending outgoing web requests can be considered as false " ++
    "positives after review."
  function := .development
  stride := .informationDisclosure
  modelFailurePossible := false
  cwe := 918

end ThreatModel.Category
