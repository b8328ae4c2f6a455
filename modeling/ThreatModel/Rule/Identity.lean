import ThreatModel.Catalogue.Identity
import ThreatModel.Rule.Example
import ThreatModel.Rule.Finding

/-!
# Rules about identity

Callers of sensitive assets are expected to authenticate, with two factors if a human calls for
sensitive data, and to pass the identity of the enduser on.
-/

namespace ThreatModel.BuiltinRule

/-- Whether an asset is sensitive enough to authenticate its callers. -/
def needsAuthentication (m : Model) (a : TechnicalAsset) : Bool :=
  (a.rating m).isHigh || a.multiTenant

/-- Whether a caller is expected to authenticate. -/
def isAuthenticatingCaller (a : Access) : Bool :=
  !a.caller.technology.toleratesUnprotectedCommunication && a.caller.kind ≠ .datastore

/-- The finding for an access over a link; the access may have come over another link to a forwarder
whose title is given. -/
def authenticationFinding (m : Model) (c : Category) (factor : String) (likelihood : Likelihood)
    (impact : Impact) (a : TechnicalAsset) (l origin : Link) (forwarder : Option String) : Risk :=
  let source := ((m.technicalAssets.get? origin.sourceId).map (·.title)).getD origin.sourceId
  let hop := (forwarder.map fun f => "forwarded via " ++ f ++ " ").getD ""
  c.finding likelihood impact
      ("Missing " ++ factor ++ "Authentication covering communication link " ++ l.title ++ " from "
        ++ source ++ " " ++ hop ++ "to " ++ a.title)
    |>.onAsset a |>.onLink l |>.withBreach .possible [a.id] |>.identifiedBy [l.id, l.sourceId, a.id]

/-- Accesses to sensitive assets without authentication. -/
def missingAuthentication : ModelRule where
  category := .missingAuthentication
  findings m :=
    (m.inScope.filter fun a =>
        !([.loadBalancer, .reverseProxy, .serviceRegistry, .waf, .ids, .ips].contains a.technology) &&
          needsAuthentication m a).flatMap fun a =>
      ((m.accesses a.id).filter fun x =>
          isAuthenticatingCaller x && x.link.authentication = .none &&
            !x.link.protocol.isProcessLocal).map fun x =>
        authenticationFinding m .missingAuthentication "" .likely (x.link.rating m).contentImpact a
          x.link x.link none

/-- Whether sensitive data is transferred without a second factor. -/
def lacksSecondFactor (m : Model) (l : Link) : Bool :=
  (l.rating m).isHighContent && l.authentication ≠ .twoFactor

/-- The finding for an access without a second factor. -/
def secondFactorFinding (m : Model) (a : TechnicalAsset) (l origin : Link)
    (forwarder : Option String) : Risk :=
  authenticationFinding m .missingAuthenticationSecondFactor "Two-Factor " .unlikely .medium a l
    origin forwarder

/-- The accesses of humans to an asset, directly or through a forwarder, without a second factor. -/
def secondFactorFindings (m : Model) (a : TechnicalAsset) : List Risk :=
  ((m.accesses a.id).filter isAuthenticatingCaller).flatMap fun x =>
    if x.caller.usedAsClientByHuman then
      if lacksSecondFactor m x.link then [secondFactorFinding m a x.link x.link none] else []
    else if x.caller.technology.isTrafficForwarding then
      ((m.accesses x.caller.id).filter fun o =>
          isAuthenticatingCaller o && o.caller.usedAsClientByHuman &&
            lacksSecondFactor m o.link).map fun o =>
        secondFactorFinding m a x.link o.link (some x.caller.title)
    else []

/-- Accesses of humans to sensitive assets without a second factor. -/
def missingAuthenticationSecondFactor : ModelRule where
  category := .missingAuthenticationSecondFactor
  findings m := Risk.firstPerId <|
    (m.inScope.filter fun a =>
        !a.technology.isTrafficForwarding && !a.technology.toleratesUnprotectedCommunication &&
          needsAuthentication m a).flatMap (secondFactorFindings m)

/-- Whether an asset by itself should know on whose behalf it is called. -/
def needsEnduserIdentity (a : TechnicalAsset) : Bool :=
  a.ownRating.isHigh ||
    a.multiTenant &&
      (.restricted ≤ a.confidentiality || .important ≤ a.integrity || .important ≤ a.availability)

/-- Whether an access could pass an identity on and does not. -/
def dropsIdentity (x : Access) : Bool :=
  x.caller.technology.propagatesIdentity && x.caller.kind ≠ .datastore &&
    x.link.authentication ≠ .none && x.link.authorization ≠ .enduserIdentityPropagation &&
    !(x.link.isDevOps && x.link.authorization ≠ .none)

/-- Accesses that do not pass the identity of the enduser on. -/
def missingIdentityPropagation : ModelRule where
  category := .missingIdentityPropagation
  findings m :=
    (m.inScope.filter fun a =>
        a.technology.processesEnduserRequests && needsEnduserIdentity a).flatMap fun a =>
      ((m.accesses a.id).filter dropsIdentity).map fun x =>
        Category.missingIdentityPropagation.finding .unlikely
            (if a.ownRating.isTop then .medium else .low)
            ("Missing Enduser Identity Propagation over communication link " ++ x.link.title
              ++ " from " ++ x.caller.title ++ " to " ++ a.title)
          |>.onAsset a |>.onLink x.link |>.withBreach .improbable [a.id]
          |>.identifiedBy [x.link.id, x.link.sourceId, a.id]

/-- The targets of links over which identities are passed on, each with the asset that calls it. -/
def identityTargets (m : Model) : List (TechnicalAsset × TechnicalAsset) :=
  m.technicalAssets.values.flatMap fun a =>
    (a.links.filter (·.authorization = .enduserIdentityPropagation)).filterMap fun l =>
      (m.target? l).map fun target => (target, a)

/-- Models in which identities are passed on, but no in-scope asset stores them. -/
def missingIdentityStore : ModelRule where
  category := .missingIdentityStore
  findings m :=
    if m.inScope.any (·.technology.isIdentityStore) then []
    else
      let e := (identityTargets m).foldl (fun e p => e.consider m p.1 p.2) Example.start
      e.finding .missingIdentityStore "Missing Identity Store in the threat model"

end ThreatModel.BuiltinRule
