import ThreatModel.Catalogue.Web
import ThreatModel.Rule.Finding

/-!
# Rules about web access

Requests over web protocols may be forged, carry scripts or be relayed into a network.
-/

namespace ThreatModel.BuiltinRule

/-- Accesses to web applications over web protocols. -/
def crossSiteRequestForgery : ModelRule where
  category := .crossSiteRequestForgery
  findings m := (m.inScope.filter (·.technology.isWebApplication)).flatMap fun app =>
    ((m.accesses app.id).filter (·.link.protocol.isWebAccess)).map fun a =>
      Category.crossSiteRequestForgery.finding
          (if a.link.isDevOps then .likely else .veryLikely)
          (if (a.link.rating m).integrity = .missionCritical then .medium else .low)
          ("Cross-Site Request Forgery (CSRF) risk at " ++ app.title ++ " via " ++ a.link.title
            ++ " from " ++ a.caller.title)
        |>.onAsset app |>.onLink a.link |>.withBreach .improbable [app.id]
        |>.identifiedBy [app.id, a.link.id]

/-- Web applications. -/
def crossSiteScripting : ModelRule where
  category := .crossSiteScripting
  findings m := (m.inScope.filter (·.technology.isWebApplication)).map fun app =>
    Category.crossSiteScripting.finding .likely
        (if (app.rating m).isTopContent then .high else .medium)
        ("Cross-Site Scripting (XSS) risk at " ++ app.title)
      |>.onAsset app |>.withBreach .possible [app.id] |>.identifiedBy [app.id]

/-- Whether an access crosses into the network over a web protocol and is not filtered. -/
def isUnfiltered (m : Model) (a : Access) : Bool :=
  a.link.crossesNetwork m && a.link.protocol.isWebAccess && a.caller.technology ≠ .waf

/-- Web applications and services that can be reached without a filter. -/
def missingWaf : ModelRule where
  category := .missingWaf
  findings m :=
    (m.inScope.filter fun app =>
        (app.technology.isWebApplication || app.technology.isWebService) &&
          (m.accesses app.id).any (isUnfiltered m)).map fun app =>
      Category.missingWaf.finding .unlikely (if (app.rating m).isTop then .medium else .low)
          ("Missing Web Application Firewall (WAF) risk at " ++ app.title)
        |>.onAsset app |>.withBreach .improbable [app.id] |>.identifiedBy [app.id]

/-- The assets in the network of an asset that are reached over web protocols, itself possibly among
them. -/
def webNeighbours (m : Model) (a : TechnicalAsset) : List TechnicalAsset :=
  m.technicalAssets.values.filter fun other =>
    a.sameNetwork m other.id && (m.incomingLinks other.id).any (·.protocol.isWebAccess)

/-- The finding for one web request from an asset. -/
def requestForgery (m : Model) (a target : TechnicalAsset) (l : Link) : Risk :=
  let reachable := webNeighbours m a
  let secret (x : TechnicalAsset) : Bool := (x.rating m).confidentiality = .strictlyConfidential
  let inCloud := (m.directBoundary a.id).any (·.kind.isWithinCloud)
  Category.serverSideRequestForgery.finding
      (if l.isDevOps then .unlikely else .likely)
      (if secret target || reachable.any secret || inCloud then .medium else .low)
      ("Server-Side Request Forgery (SSRF) risk at " ++ a.title
        ++ " server-side web-requesting the target " ++ target.title ++ " via " ++ l.title)
    |>.onAsset a |>.onLink l |>.withBreach .possible (sortedUnique (a.id :: reachable.map (·.id)))
    |>.identifiedBy [a.id, target.id, l.id]

/-- Web requests of servers. -/
def serverSideRequestForgery : ModelRule where
  category := .serverSideRequestForgery
  findings m :=
    (m.inScope.filter fun a =>
        !a.technology.isClient && a.technology ≠ .loadBalancer).flatMap fun a =>
      (a.links.filter (·.protocol.isWebAccess)).filterMap fun l =>
        (m.target? l).map fun target => requestForgery m a target l

end ThreatModel.BuiltinRule
