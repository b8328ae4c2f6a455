import ThreatModel.Rule.Access
import ThreatModel.Rule.Cloud
import ThreatModel.Rule.Content
import ThreatModel.Rule.Encryption
import ThreatModel.Rule.Hardening
import ThreatModel.Rule.Identity
import ThreatModel.Rule.Injection
import ThreatModel.Rule.Isolation
import ThreatModel.Rule.Necessity
import ThreatModel.Rule.Plausibility
import ThreatModel.Rule.SupplyChain
import ThreatModel.Rule.Web

/-!
# The built-in rules

All 42 rules in the order of their ids.
-/

namespace ThreatModel.BuiltinRule

/-- The built-in rules. -/
def all : List ModelRule :=
  [accidentalSecretLeak, codeBackdooring, containerBaseimageBackdooring, containerPlatformEscape,
    crossSiteRequestForgery, crossSiteScripting, dosRiskyAccessAcrossTrustBoundary, incompleteModel,
    ldapInjection, missingAuthentication, missingAuthenticationSecondFactor,
    missingBuildInfrastructure, missingCloudHardening, missingFileValidation, missingHardening,
    missingIdentityPropagation, missingIdentityProviderIsolation, missingIdentityStore,
    missingNetworkSegmentation, missingVault, missingVaultIsolation, missingWaf,
    mixedTargetsOnSharedRuntime, pathTraversal, pushInsteadOfPullDeployment, searchQueryInjection,
    serverSideRequestForgery, serviceRegistryPoisoning, sqlNosqlInjection, uncheckedDeployment,
    unencryptedAsset, unencryptedCommunication, unguardedAccessFromInternet,
    unguardedDirectDatastoreAccess, unnecessaryCommunicationLink, unnecessaryDataAsset,
    unnecessaryDataTransfer, unnecessaryTechnicalAsset, untrustedDeserialization,
    wrongCommunicationLinkContent, wrongTrustBoundaryContent, xmlExternalEntity]

end ThreatModel.BuiltinRule
