import ThreatModel.Risk.Category

/-!
# Cloud hardening

The risk of cloud components without the hardening that their provider recommends.
-/

namespace ThreatModel.Category

/-- Missing Cloud Hardening. -/
def missingCloudHardening : Category where
  id := "missing-cloud-hardening"
  title := "Missing Cloud Hardening"
  description := "Cloud components should be hardened according to the cloud vendor best " ++
    "practices. This affects their configuration, auditing, and further areas."
  impact := "If this risk is unmitigated, attackers might access cloud components in an " ++
    "unintended way."
  asvs := "V1 - Architecture, Design and Threat Modeling Requirements"
  cheatSheet := "https://cheatsheetseries.owasp.org/cheatsheets/Attack_Surface_Analysis_Cheat_Sheet.html"
  action := "Cloud Hardening"
  mitigation := "Apply hardening of all cloud components and services, taking special care to " ++
    "follow the individual risk descriptions (which depend on the cloud provider tags in the " ++
    "model). For Amazon Web Services (AWS): Follow the CIS Benchmark for Amazon Web Services " ++
    "(see also the automated checks of cloud audit tools like \"PacBot\", \"CloudSploit\", " ++
    "\"CloudMapper\", \"ScoutSuite\", or \"Prowler AWS CIS Benchmark Tool\"). For EC2 and other " ++
    "servers running Amazon Linux, follow the CIS Benchmark for Amazon Linux and switch to " ++
    "IMDSv2. For S3 buckets follow the Security Best Practices for Amazon S3 at " ++
    "https://docs.aws.amazon.com/AmazonS3/latest/dev/security-best-practices.html to avoid " ++
    "accidental leakage. Also take a look at some of these tools: " ++
    "https://github.com/toniblyx/my-arsenal-of-aws-security-tools For Microsoft Azure: Follow " ++
    "the CIS Benchmark for Microsoft Azure (see also the automated checks of cloud audit tools " ++
    "like \"CloudSploit\" or \"ScoutSuite\"). For Google Cloud Platform: Follow the CIS " ++
    "Benchmark for Google Cloud Computing Platform (see also the automated checks of cloud " ++
    "audit tools like \"CloudSploit\" or \"ScoutSuite\"). For Oracle Cloud Platform: Follow the " ++
    "hardening best practices (see also the automated checks of cloud audit tools like " ++
    "\"CloudSploit\")."
  check := "Are recommendations from the linked cheat sheet and referenced ASVS chapter applied?"
  detectionLogic := "In-scope cloud components (either residing in cloud trust boundaries or " ++
    "more specifically tagged with cloud provider types)."
  riskAssessment := "The risk rating depends on the sensitivity of the technical asset itself " ++
    "and of the data assets processed and stored."
  falsePositives := "Cloud components not running parts of the target architecture can be " ++
    "considered as false positives after individual review."
  function := .operations
  stride := .tampering
  modelFailurePossible := false
  cwe := 1008

end ThreatModel.Category
