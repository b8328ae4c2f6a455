import ThreatModel.Catalogue.Access
import ThreatModel.Rule.Finding

/-!
# Rules about access

Accesses from the internet or from another network to assets that should be guarded.
-/

namespace ThreatModel.BuiltinRule

/-- Whether an access from another network may be used to overload an asset. -/
def isOverloading (m : Model) (l : Link) : Bool :=
  l.crossesNetwork m && !l.protocol.isProcessLocal && !l.isDevOps

/-- The finding about one access, which may have been forwarded by an asset with a title. -/
def overload (a : TechnicalAsset) (x : Access) (forwarder : Option String) : Risk :=
  let hop := (forwarder.map fun f => " forwarded via " ++ f).getD ""
  Category.dosRiskyAccessAcrossTrustBoundary.finding .unlikely
      (if a.availability = .missionCritical && !x.link.vpn && !x.link.ipFiltered && !a.redundant then
        .medium
      else .low)
      ("Denial-of-Service risky access of " ++ a.title ++ " by " ++ x.caller.title ++ " via "
        ++ x.link.title ++ hop)
    |>.onAsset a |>.onLink x.link |>.withBreach .improbable []
    |>.identifiedBy [a.id, x.caller.id, x.link.id]

/-- The findings about the accesses to an asset; in place of a forwarder its own callers count. -/
def overloads (m : Model) (a : TechnicalAsset) : List Risk :=
  (m.accesses a.id).flatMap fun x =>
    if x.caller.technology.isTrafficForwarding then
      ((m.accesses x.caller.id).filter (isOverloading m ·.link)).map
        (overload a · (some x.caller.title))
    else if isOverloading m x.link then [overload a x none]
    else []

/-- Assets that have to be available. -/
def dosRiskyAccessAcrossTrustBoundary : ModelRule where
  category := .dosRiskyAccessAcrossTrustBoundary
  findings m :=
    (m.inScope.filter fun a =>
      a.technology ≠ .loadBalancer && .critical ≤ a.availability).flatMap (overloads m)

/-- Whether an asset is attractive enough to make an unguarded access worse. -/
def attractive (a : TechnicalAsset) : Bool := a.raa > 40

/-- How bad an unguarded access to an asset is. -/
def unguardedImpact (a : TechnicalAsset) : Impact :=
  if a.ownRating.isTopContent || attractive a then .medium else .low

/-- Whether a link transfers files. -/
def isFileTransfer (l : Link) : Bool := [.ftp, .ftps, .sftp].contains l.protocol

/-- Whether a link leads to a bought front door of the web or of files, which is made for access from
the internet. -/
def isEntryPoint (a : TechnicalAsset) (l : Link) : Bool :=
  !a.customDevelopedParts &&
    ([.webServer, .webApplication, .reverseProxy, .waf, .gateway].contains a.technology &&
        [.http, .https].contains l.protocol ||
      a.technology = .gateway && isFileTransfer l)

/-- Whether an access comes unguarded from the internet. -/
def isFromInternet (a : TechnicalAsset) (x : Access) : Bool :=
  !isEntryPoint a x.link && !x.link.vpn && x.caller.technology ≠ .monitoring && x.caller.internet

/-- The accesses to an asset in the order of the ids of the links. -/
def accessesById (m : Model) (assetId : String) : List Access :=
  (m.accesses assetId).mergeSort fun x y => x.link.id ≤ y.link.id

/-- Assets with sensitive content that are accessed from the internet. -/
def unguardedAccessFromInternet : ModelRule where
  category := .unguardedAccessFromInternet
  findings m :=
    (m.inScope.filter fun a => a.technology ≠ .loadBalancer && a.ownRating.isHighContent).flatMap
      fun a => ((accessesById m a.id).filter (isFromInternet a)).map fun x =>
        Category.unguardedAccessFromInternet.finding .veryLikely (unguardedImpact a)
            ("Unguarded Access from Internet of " ++ a.title ++ " by " ++ x.caller.title ++ " via "
              ++ x.link.title)
          |>.onAsset a |>.onLink x.link |>.withBreach .possible [a.id]
          |>.identifiedBy [a.id, x.caller.id, x.link.id]

/-- Whether an access to a datastore comes from another network and is not expected. -/
def isUnguarded (m : Model) (store : TechnicalAsset) (x : Access) : Bool :=
  !(store.technology.isIdentityStore && x.caller.technology = .identityProvider) &&
    x.link.crossesNetwork m && !(store.technology = .fileServer && isFileTransfer x.link) &&
    !x.link.isDevOps && !m.sharesAncestor store.id x.caller.id

/-- Datastores with sensitive content. -/
def unguardedDirectDatastoreAccess : ModelRule where
  category := .unguardedDirectDatastoreAccess
  findings m :=
    (m.inScope.filter fun a => a.kind = .datastore && a.ownRating.isHighContent).flatMap fun store =>
      ((m.accesses store.id).filter (isUnguarded m store)).map fun x =>
        Category.unguardedDirectDatastoreAccess.finding .likely (unguardedImpact store)
            ("Unguarded Direct Datastore Access of " ++ store.title ++ " by " ++ x.caller.title
              ++ " via " ++ x.link.title)
          |>.onAsset store |>.onLink x.link |>.withBreach .improbable [store.id]
          |>.identifiedBy [x.link.id, x.caller.id, store.id]

end ThreatModel.BuiltinRule
