import ThreatModel.Catalogue.Necessity
import ThreatModel.Rule.Finding

/-!
# Rules about necessity

Links, assets and transfers without a purpose widen the field of attack for nothing.
-/

namespace ThreatModel.BuiltinRule

/-- Links that transfer no data, unless both ends are out of scope. -/
def unnecessaryCommunicationLink : ModelRule where
  category := .unnecessaryCommunicationLink
  findings m := m.technicalAssets.values.flatMap fun a =>
    (a.links.filter fun l =>
        !l.transfersData && (!a.outOfScope || (m.target? l).any (!·.outOfScope))).map fun l =>
      Category.unnecessaryCommunicationLink.finding .unlikely .low
          ("Unnecessary Communication Link titled " ++ l.title ++ " at technical asset " ++ a.title)
        |>.onAsset a |>.onLink l |>.withBreach .improbable [a.id] |>.identifiedBy [l.id, a.id]

/-- The ids of all data that is processed, stored or transferred. -/
def dataInUse (m : Model) : List String :=
  m.technicalAssets.values.flatMap fun a => a.heldData ++ a.links.flatMap (·.data)

/-- Data that is not in use. -/
def unnecessaryDataAsset : ModelRule where
  category := .unnecessaryDataAsset
  findings m := (m.dataAssets.values.filter fun d => !(dataInUse m).contains d.id).map fun d =>
    Category.unnecessaryDataAsset.finding .unlikely .low ("Unnecessary Data Asset named " ++ d.title)
      |>.onData d |>.withBreach .improbable [] |>.identifiedBy [d.id]

/-- The finding about data that an asset exchanges with a partner. -/
def needlessTransfer (a partner : TechnicalAsset) (d : DataAsset) : Risk :=
  Category.unnecessaryDataTransfer.finding .unlikely
      (if d.rating.isTopContent then .medium else .low)
      ("Unnecessary Data Transfer of " ++ d.title ++ " data at " ++ a.title ++ " from/to "
        ++ partner.title)
    |>.onAsset a |>.onData d |>.withBreach .improbable [a.id]
    |>.identifiedBy [d.id, a.id, partner.id]

/-- The findings about sensitive data on a link that an asset neither processes nor stores. -/
def needlessTransfers (m : Model) (a : TechnicalAsset) (l : Link) (partnerId : String) : List Risk :=
  match m.technicalAssets.get? partnerId with
  | none => []
  | some partner =>
    if partner.technology.toleratesUnnecessaryData then []
    else ((m.dataOf (l.data.filter (!a.holds ·))).filter (·.rating.isHighContent)).map
      (needlessTransfer a partner)

/-- Transfers at in-scope assets, outgoing links first. -/
def unnecessaryDataTransfer : ModelRule where
  category := .unnecessaryDataTransfer
  findings m := Risk.firstPerId <| m.inScope.flatMap fun a =>
    a.links.flatMap (fun l => needlessTransfers m a l l.targetId) ++
      ((m.incomingLinks a.id).mergeSort fun x y => x.id ≤ y.id).flatMap fun l =>
        needlessTransfers m a l l.sourceId

/-- Assets that hold no data or have no links, whether or not they are in scope. -/
def unnecessaryTechnicalAsset : ModelRule where
  category := .unnecessaryTechnicalAsset
  findings m :=
    (m.technicalAssets.values.filter fun a =>
        a.heldData.isEmpty || a.links.isEmpty && (m.incomingLinks a.id).isEmpty).map fun a =>
      Category.unnecessaryTechnicalAsset.finding .unlikely .low
          ("Unnecessary Technical Asset named " ++ a.title)
        |>.onAsset a |>.withBreach .improbable [a.id] |>.identifiedBy [a.id]

end ThreatModel.BuiltinRule
