import ThreatModel.Catalogue.Hardening
import ThreatModel.Rule.Example
import ThreatModel.Rule.Finding

/-!
# Rules about hardening

Platforms, registries and attractive assets need more than the usual protection, and secrets a vault.
-/

namespace ThreatModel.BuiltinRule

/-- Container platforms; breaking out of one lays open all containers. -/
def containerPlatformEscape : ModelRule where
  category := .containerPlatformEscape
  tags := ["docker", "kubernetes", "openshift"]
  findings m := (m.inScope.filter (·.technology = .containerPlatform)).map fun platform =>
    let containers := m.technicalAssets.values.filter (·.machine = .container)
    Category.containerPlatformEscape.finding .unlikely
        (if (platform.rating m).isTop then .high else .medium)
        ("Container Platform Escape risk at " ++ platform.title)
      |>.onAsset platform |>.withBreach .probable (containers.map (·.id))
      |>.identifiedBy [platform.id]

/-- Whether an asset is attractive, with a lower bar for datastores and servers. -/
def isAttractiveTarget (a : TechnicalAsset) : Bool :=
  a.raa ≥ 55 ||
    a.raa ≥ 40 &&
      (a.kind = .datastore || [.applicationServer, .identityProvider, .erp].contains a.technology)

/-- Attractive assets. -/
def missingHardening : ModelRule where
  category := .missingHardening
  tags := ["tomcat"]
  findings m := (m.inScope.filter isAttractiveTarget).map fun a =>
    Category.missingHardening.finding .likely
        (if (a.rating m).isTopContent then .medium else .low)
        ("Missing Hardening risk at " ++ a.title)
      |>.onAsset a |>.withBreach .improbable [a.id] |>.identifiedBy [a.id]

/-- Models without a vault. -/
def missingVault : ModelRule where
  category := .missingVault
  findings m :=
    let assets := m.technicalAssets.values
    if assets.any (·.technology = .vault) then []
    else
      let sensitive := assets.any fun a => (a.rating m).isHigh || a.ownRating.isHigh
      let e : Example := ⟨Example.mostSensitive assets, if sensitive then .medium else .low⟩
      e.finding .missingVault "Missing Vault (Secret Storage) in the threat model"

/-- Whether a registry is asked for something sensitive. -/
def hasSensitiveLookup (m : Model) (registry : TechnicalAsset) : Bool :=
  (m.incomingLinks registry.id).any fun l =>
    (registry.rating m).isTop || (l.rating m).isTop ||
      (m.technicalAssets.get? l.sourceId).any fun caller => (caller.rating m).isTop

/-- Registries of services. -/
def serviceRegistryPoisoning : ModelRule where
  category := .serviceRegistryPoisoning
  findings m := (m.inScope.filter (·.technology = .serviceRegistry)).map fun registry =>
    Category.serviceRegistryPoisoning.finding .unlikely
        (if hasSensitiveLookup m registry then .medium else .low)
        ("Service Registry Poisoning risk at " ++ registry.title)
      |>.onAsset registry |>.withBreach .improbable [registry.id] |>.identifiedBy [registry.id]

end ThreatModel.BuiltinRule
