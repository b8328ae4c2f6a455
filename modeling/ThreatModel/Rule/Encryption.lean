import ThreatModel.Catalogue.Encryption
import ThreatModel.Rule.Finding

/-!
# Rules about encryption

Sensitive data is expected to be encrypted where it is kept and while it is transferred.
-/

namespace ThreatModel

/-- How bad it is that a link transfers a data asset in the clear, if at all. -/
def Link.grade (l : Link) (d : DataAsset) : Option Impact :=
  if d.rating.isTopContent || l.authentication ≠ .none then some .high
  else if !l.vpn && (d.confidentiality = .confidential || d.integrity = .critical) then some .medium
  else none

namespace BuiltinRule

/-- Whether an asset keeps no data of its own. -/
def keepsNoData (a : TechnicalAsset) : Bool :=
  [.reverseProxy, .loadBalancer, .waf, .ids, .ips].contains a.technology ||
    a.technology.isEmbeddedComponent

/-- Whether data should be encrypted with the key of each enduser. -/
def requiresEnduserKey (r : Rating) (a : TechnicalAsset) : Bool :=
  r.isTopContent && a.technology.storesEnduserData

/-- How bad it is that an asset with a rating is encrypted only as it is, if at all. -/
def storageImpact (r : Rating) (a : TechnicalAsset) : Option Impact :=
  match a.encryption with
  | .none => some (if r.isTopContent then .high else .medium)
  | .transparent | .dataWithSymmetricSharedKey | .dataWithAsymmetricSharedKey =>
    if requiresEnduserKey r a then some .medium else none
  | .dataWithEnduserIndividualKey => none

/-- Assets with sensitive data. -/
def unencryptedAsset : ModelRule where
  category := .unencryptedAsset
  findings m :=
    (m.inScope.filter fun a => !keepsNoData a && (a.rating m).isHighContent).filterMap fun a =>
      (storageImpact (a.rating m) a).map fun impact =>
        let missing :=
          if requiresEnduserKey (a.rating m) a then
            " missing enduser-individual encryption with "
              ++ Encryption.dataWithEnduserIndividualKey.word
          else ""
        Category.unencryptedAsset.finding .unlikely impact
            ("Unencrypted Technical Asset named " ++ a.title ++ missing)
          |>.onAsset a |>.withBreach .improbable [a.id] |>.identifiedBy [a.id]

/-- How bad it is that a link transfers some data in the clear, if at all; the first data asset that
matters decides. -/
def transferImpact (m : Model) (l : Link) : Option Impact := (m.dataOf l.data).findSome? l.grade

/-- The finding about a link. -/
def clearTransfer (m : Model) (a target : TechnicalAsset) (l : Link) (impact : Impact) : Risk :=
  let credentials :=
    if l.authentication ≠ .none then
      " transferring authentication data (like credentials, token, session-id, etc.)"
    else ""
  let vpn :=
    if l.vpn then
      " (even VPN-protected connections need to encrypt their data in-transit when confidentiality"
        ++ " is rated " ++ Confidentiality.strictlyConfidential.word ++ " or integrity is rated "
        ++ Criticality.missionCritical.word ++ ")"
    else ""
  Category.unencryptedCommunication.finding (if l.crossesNetwork m then .likely else .unlikely) impact
      ("Unencrypted Communication named " ++ l.title ++ " between " ++ a.title ++ " and "
        ++ target.title ++ credentials ++ vpn)
    |>.onAsset a |>.onLink l |>.withBreach .possible [target.id]
    |>.identifiedBy [l.id, a.id, target.id]

/-- Links of in-scope assets. -/
def unencryptedCommunication : ModelRule where
  category := .unencryptedCommunication
  findings m := m.inScope.flatMap fun a =>
    (a.links.filter fun l => !l.protocol.isEncrypted && !l.protocol.isProcessLocal).filterMap
      fun l => do
        let target ← m.target? l
        if a.technology.toleratesUnprotectedCommunication ||
            target.technology.toleratesUnprotectedCommunication then none
        return clearTransfer m a target l (← transferImpact m l)

end BuiltinRule

end ThreatModel
