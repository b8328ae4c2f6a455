import ThreatModel.Catalogue.Isolation
import ThreatModel.Rule.Finding

/-!
# Rules about isolation

Valuable assets should not share a network, an execution environment or a runtime with assets that have
nothing to do with them.
-/

namespace ThreatModel

/-- How close unrelated assets come to a protected one. -/
inductive Closeness where
  | network | executionEnvironment
  deriving DecidableEq

namespace Closeness

/-- How the closeness is named in titles. -/
def describe : Closeness → String
  | network => "in the same network segment"
  | executionEnvironment => "in the same execution environment"

/-- How likely it is that the closeness is made use of. -/
def likelihood : Closeness → Likelihood
  | network => .unlikely
  | executionEnvironment => .likely

/-- How close the closest of the assets with a property comes to an asset. -/
def ofOthers (m : Model) (a : TechnicalAsset) (unrelated : TechnicalAsset → Bool) :
    Option Closeness :=
  let others := m.technicalAssets.values.filter fun o => o.id ≠ a.id && unrelated o
  if others.any (a.sameExecutionEnvironment m ·.id) then some executionEnvironment
  else if others.any (a.sameNetwork m ·.id) then some network
  else none

end Closeness

namespace BuiltinRule

/-- The finding about an asset that unrelated ones come close to. -/
def isolationFinding (c : Category) (what kind : String) (impact : Impact) (a : TechnicalAsset)
    (closeness : Closeness) : Risk :=
  c.finding closeness.likelihood impact
      ("Missing " ++ what ++ " Isolation to further encapsulate and protect " ++ kind
        ++ "-related asset " ++ a.title ++ " against unrelated lower protected assets "
        ++ closeness.describe ++ ", which might be easier to compromise by attackers")
    |>.onAsset a |>.withBreach .improbable [a.id] |>.identifiedBy [a.id]

/-- Assets that deal with identities. -/
def missingIdentityProviderIsolation : ModelRule where
  category := .missingIdentityProviderIsolation
  findings m := (m.inScope.filter (·.technology.isIdentityRelated)).filterMap fun a =>
    (Closeness.ofOthers m a fun o =>
        !o.technology.isIdentityRelated && !o.technology.toleratesHighValueNeighbours).map
      (isolationFinding .missingIdentityProviderIsolation "Identity Provider" "identity"
        (if a.ownRating.isTop then .veryHigh else .high) a)

/-- Vaults, whose own storage is not unrelated. -/
def missingVaultIsolation : ModelRule where
  category := .missingVaultIsolation
  findings m := (m.inScope.filter (·.technology = .vault)).filterMap fun vault =>
    (Closeness.ofOthers m vault fun o =>
        o.technology ≠ .vault && !(o.kind = .datastore && vault.connectedTo m o.id)).map
      (isolationFinding .missingVaultIsolation "Vault" "vault"
        (if vault.ownRating.isTop then .high else .medium) vault)

/-- Whether a less protected asset without a link to an asset lies in the same network. -/
def hasUnrelatedNeighbour (m : Model) (a : TechnicalAsset) : Bool :=
  m.technicalAssets.values.any fun o =>
    o.id ≠ a.id && o.technology.isLessProtected && !o.technology.toleratesHighValueNeighbours &&
      a.sameNetwork m o.id && !a.connectedTo m o.id

/-- Attractive and sensitive assets beside unrelated ones. -/
def missingNetworkSegmentation : ModelRule where
  category := .missingNetworkSegmentation
  findings m :=
    (m.inScope.filter fun a =>
        !([.reverseProxy, .waf, .ids, .ips, .serviceRegistry].contains a.technology) && a.raa ≥ 50 &&
          (a.kind = .datastore || a.ownRating.isHigh) && hasUnrelatedNeighbour m a).map fun a =>
      Category.missingNetworkSegmentation.finding .unlikely
          (if a.ownRating.isTop then .medium else .low)
          ("Missing Network Segmentation to further encapsulate and protect " ++ a.title
            ++ " against unrelated lower protected assets in the same network segment, which might"
            ++ " be easier to compromise by attackers")
        |>.onAsset a |>.withBreach .improbable [a.id] |>.identifiedBy [a.id]

/-- Whether assets, read in order, lie in different boundaries or are both frontend and backend. An
asset without a boundary does not start a comparison; `boundary` is the one read last, if any. -/
def isMixedFrom (m : Model) (boundary : String) (frontend backend : Bool) :
    List TechnicalAsset → Bool
  | [] => frontend && backend
  | a :: rest =>
    let here := ((m.directBoundary a.id).map (·.id)).getD ""
    if boundary ≠ "" && boundary ≠ here then true
    else isMixedFrom m here (frontend || a.technology.isFrontendOnly)
      (backend || a.technology.isBackendOnly) rest

/-- The known assets in a runtime. -/
def assetsRunning (m : Model) (r : SharedRuntime) : List TechnicalAsset :=
  r.assetsRunning.filterMap m.technicalAssets.get?

/-- Runtimes with assets of different boundaries or of frontend and backend. -/
def mixedTargetsOnSharedRuntime : ModelRule where
  category := .mixedTargetsOnSharedRuntime
  findings m :=
    (m.sharedRuntimes.values.filter fun r =>
        isMixedFrom m "" false false (assetsRunning m r)).map fun r =>
      Category.mixedTargetsOnSharedRuntime.finding .unlikely
          (if (assetsRunning m r).any (·.ownRating.isTop) then .medium else .low)
          ("Mixed Targets on Shared Runtime named " ++ r.title
            ++ " might enable attackers moving from one less valuable target to a more valuable one")
        |>.onRuntime r |>.withBreach .improbable r.assetsRunning |>.identifiedBy [r.id]

end BuiltinRule

end ThreatModel
