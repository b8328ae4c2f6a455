import ThreatModel.Risk.Category

/-!
# Supply chain

Risks on the way from source code to the running system.
-/

namespace ThreatModel.Category

/-- Accidental Secret Leak. -/
def accidentalSecretLeak : Category where
  id := "accidental-secret-leak"
  title := "Accidental Secret Leak"
  description := "Sourcecode repositories (including their histories) as well as artifact " ++
    "registries can accidentally contain secrets like checked-in or packaged-in passwords, API " ++
    "tokens, certificates, crypto keys, etc."
  impact := "If this risk is unmitigated, attackers which have access to affected sourcecode " ++
    "repositories or artifact registries might find secrets accidentally checked-in."
  asvs := "V14 - Configuration Verification Requirements"
  cheatSheet := "https://cheatsheetseries.owasp.org/cheatsheets/Attack_Surface_Analysis_Cheat_Sheet.html"
  action := "Build Pipeline Hardening"
  mitigation := "Establish measures preventing accidental check-in or package-in of secrets " ++
    "into sourcecode repositories and artifact registries. This starts by using good .gitignore " ++
    "and .dockerignore files, but does not stop there. See for example tools like " ++
    "\"git-secrets\" or \"Talisman\" to have check-in preventive measures for secrets. Consider " ++
    "also to regularly scan your repositories for secrets accidentally checked-in using " ++
    "scanning tools like \"gitleaks\" or \"gitrob\"."
  check := "Are recommendations from the linked cheat sheet and referenced ASVS chapter applied?"
  detectionLogic := "In-scope sourcecode repositories and artifact registries."
  riskAssessment := "The risk rating depends on the sensitivity of the technical asset itself " ++
    "and of the data assets processed and stored."
  falsePositives := "Usually no false positives."
  function := .operations
  stride := .informationDisclosure
  modelFailurePossible := false
  cwe := 200

/-- Code Backdooring. -/
def codeBackdooring : Category where
  id := "code-backdooring"
  title := "Code Backdooring"
  description := "For each build-pipeline component Code Backdooring risks might arise where " ++
    "attackers compromise the build-pipeline in order to let backdoored artifacts be shipped " ++
    "into production. Aside from direct code backdooring this includes backdooring of " ++
    "dependencies and even of more lower-level build infrastructure, like backdooring compilers " ++
    "(similar to what the XcodeGhost malware did) or dependencies."
  impact := "If this risk remains unmitigated, attackers might be able to execute code on and " ++
    "completely takeover production environments."
  asvs := "V10 - Malicious Code Verification Requirements"
  cheatSheet := "https://cheatsheetseries.owasp.org/cheatsheets/Vulnerable_Dependency_Management_Cheat_Sheet.html"
  action := "Build Pipeline Hardening"
  mitigation := "Reduce the attack surface of backdooring the build pipeline by not directly " ++
    "exposing the build pipeline components on the public internet and also not exposing it in " ++
    "front of unmanaged (out-of-scope) developer clients.Also consider the use of code signing " ++
    "to prevent code modifications."
  check := "Are recommendations from the linked cheat sheet and referenced ASVS chapter applied?"
  detectionLogic := "In-scope development relevant technical assets which are either accessed " ++
    "by out-of-scope unmanaged developer clients and/or are directly accessed by any kind of " ++
    "internet-located (non-VPN) component or are themselves directly located on the internet."
  riskAssessment := "The risk rating depends on the confidentiality and integrity rating of the " ++
    "code being handled and deployed as well as the placement/calling of this technical asset " ++
    "on/from the internet."
  falsePositives := "When the build-pipeline and sourcecode-repo is not exposed to the internet " ++
    "and considered fully trusted (which implies that all accessing clients are also considered " ++
    "fully trusted in terms of their patch management and applied hardening, which must be " ++
    "equivalent to a managed developer client environment) this can be considered a false " ++
    "positive after individual review."
  function := .operations
  stride := .tampering
  modelFailurePossible := false
  cwe := 912

/-- Container Base Image Backdooring. -/
def containerBaseimageBackdooring : Category where
  id := "container-baseimage-backdooring"
  title := "Container Base Image Backdooring"
  description := "When a technical asset is built using container technologies, Base Image " ++
    "Backdooring risks might arise where base images and other layers used contain vulnerable " ++
    "components or backdoors. See for example: " ++
    "https://techcrunch.com/2018/06/15/tainted-crypto-mining-containers-pulled-from-docker-hub/"
  impact := "If this risk is unmitigated, attackers might be able to deeply persist in the " ++
    "target system by executing code in deployed containers."
  asvs := "V10 - Malicious Code Verification Requirements"
  cheatSheet := "https://cheatsheetseries.owasp.org/cheatsheets/Docker_Security_Cheat_Sheet.html"
  action := "Container Infrastructure Hardening"
  mitigation := "Apply hardening of all container infrastructures (see for example the " ++
    "CIS-Benchmarks for Docker and Kubernetes and the Docker Bench for Security). Use only " ++
    "trusted base images of the original vendors, verify digital signatures and apply image " ++
    "creation best practices. Also consider using Google's Distroless base images or otherwise " ++
    "very small base images. Regularly execute container image scans with tools checking the " ++
    "layers for vulnerable components."
  check := "Are recommendations from the linked cheat sheet and referenced ASVS/CSVS applied?"
  detectionLogic := "In-scope technical assets running as containers."
  riskAssessment := "The risk rating depends on the sensitivity of the technical asset itself " ++
    "and of the data assets."
  falsePositives := "Fully trusted (i.e. reviewed and cryptographically signed or similar) base " ++
    "images of containers can be considered as false positives after individual review."
  function := .operations
  stride := .tampering
  modelFailurePossible := false
  cwe := 912

/-- Missing Build Infrastructure. -/
def missingBuildInfrastructure : Category where
  id := "missing-build-infrastructure"
  title := "Missing Build Infrastructure"
  description := "The modeled architecture does not contain a build infrastructure " ++
    "(devops-client, sourcecode-repo, build-pipeline, etc.), which might be the risk of a model " ++
    "missing critical assets (and thus not seeing their risks). If the architecture contains " ++
    "custom-developed parts, the pipeline where code gets developed and built needs to be part " ++
    "of the model."
  impact := "If this risk is unmitigated, attackers might be able to exploit risks unseen in " ++
    "this threat model due to critical build infrastructure components missing in the model."
  asvs := "V1 - Architecture, Design and Threat Modeling Requirements"
  cheatSheet := "https://cheatsheetseries.owasp.org/cheatsheets/Attack_Surface_Analysis_Cheat_Sheet.html"
  action := "Build Pipeline Hardening"
  mitigation := "Include the build infrastructure in the model."
  check := "Are recommendations from the linked cheat sheet and referenced ASVS chapter applied?"
  detectionLogic := "Models with in-scope custom-developed parts missing in-scope development " ++
    "(code creation) and build infrastructure components (devops-client, sourcecode-repo, " ++
    "build-pipeline, etc.)."
  riskAssessment := "The risk rating depends on the highest sensitivity of the in-scope assets " ++
    "running custom-developed parts."
  falsePositives := "Models not having any custom-developed parts can be considered as false " ++
    "positives after individual review."
  function := .architecture
  stride := .tampering
  modelFailurePossible := true
  cwe := 1127

/-- Push instead of Pull Deployment. -/
def pushInsteadOfPullDeployment : Category where
  id := "push-instead-of-pull-deployment"
  title := "Push instead of Pull Deployment"
  description := "When comparing push-based vs. pull-based deployments from a security " ++
    "perspective, pull-based deployments improve the overall security of the deployment " ++
    "targets. Every exposed interface of a production system to accept a deployment increases " ++
    "the attack surface of the production system, thus a pull-based approach exposes less " ++
    "attack surface relevant interfaces."
  impact := "If this risk is unmitigated, attackers might have more potential target vectors " ++
    "for attacks, as the overall attack surface is unnecessarily increased."
  asvs := "V1 - Architecture, Design and Threat Modeling Requirements"
  cheatSheet := "https://cheatsheetseries.owasp.org/cheatsheets/Attack_Surface_Analysis_Cheat_Sheet.html"
  action := "Build Pipeline Hardening"
  mitigation := "Try to prefer pull-based deployments (like GitOps scenarios offer) over " ++
    "push-based deployments to reduce the attack surface of the production system."
  check := "Are recommendations from the linked cheat sheet and referenced ASVS chapter applied?"
  detectionLogic := "Models with build pipeline components accessing in-scope targets of " ++
    "deployment (in a non-readonly way) which are not build-related components themselves."
  riskAssessment := "The risk rating depends on the highest sensitivity of the deployment " ++
    "targets running custom-developed parts."
  falsePositives := "Communication links that are not deployment paths can be considered as " ++
    "false positives after individual review."
  function := .architecture
  stride := .tampering
  modelFailurePossible := true
  cwe := 1127

/-- Unchecked Deployment. -/
def uncheckedDeployment : Category where
  id := "unchecked-deployment"
  title := "Unchecked Deployment"
  description := "For each build-pipeline component Unchecked Deployment risks might arise when " ++
    "the build-pipeline does not include established DevSecOps best-practices. DevSecOps " ++
    "best-practices scan as part of CI/CD pipelines for vulnerabilities in source- or " ++
    "byte-code, dependencies, container layers, and dynamically against running test systems. " ++
    "There are several open-source and commercial tools existing in the categories DAST, SAST, " ++
    "and IAST."
  impact := "If this risk remains unmitigated, vulnerabilities in custom-developed software or " ++
    "their dependencies might not be identified during continuous deployment cycles."
  asvs := "V14 - Configuration Verification Requirements"
  cheatSheet := "https://cheatsheetseries.owasp.org/cheatsheets/Vulnerable_Dependency_Management_Cheat_Sheet.html"
  action := "Build Pipeline Hardening"
  mitigation := "Apply DevSecOps best-practices and use scanning tools to identify " ++
    "vulnerabilities in source- or byte-code,dependencies, container layers, and optionally " ++
    "also via dynamic scans against running test systems."
  check := "Are recommendations from the linked cheat sheet and referenced ASVS chapter applied?"
  detectionLogic := "All development-relevant technical assets."
  riskAssessment := "The risk rating depends on the highest rating of the technical assets and " ++
    "data assets processed by deployment-receiving targets."
  falsePositives := "When the build-pipeline does not build any software components it can be " ++
    "considered a false positive after individual review."
  function := .architecture
  stride := .tampering
  modelFailurePossible := false
  cwe := 1127

end ThreatModel.Category
