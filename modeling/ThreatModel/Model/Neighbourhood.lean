import ThreatModel.Model.Nesting
import ThreatModel.Model.Tags

/-!
# Networks and neighbours

Which assets lie in the same network or execution environment, which links cross a boundary, and which
tags an element inherits from what it lies in.
-/

namespace ThreatModel

namespace Model

/-- The network that an asset lies in: its boundary, or the one around it if its boundary is no
network. An asset without one lies in an unnamed network. -/
def networkBoundary (m : Model) (assetId : String) : Option TrustBoundary :=
  match m.directBoundary assetId with
  | some b => if b.kind.isNetwork then some b else m.parentBoundary b.id
  | none => none

/-- The id of the network that an asset lies in. -/
def network (m : Model) (assetId : String) : Option String := (m.networkBoundary assetId).map (·.id)

end Model

namespace TechnicalAsset

/-- Whether another asset lies directly in the same boundary. -/
def sameBoundary (a : TechnicalAsset) (m : Model) (otherId : String) : Bool :=
  m.index.directBoundary.get? a.id = m.index.directBoundary.get? otherId

/-- Whether another asset lies in the same execution environment. -/
def sameExecutionEnvironment (a : TechnicalAsset) (m : Model) (otherId : String) : Bool :=
  match m.directBoundary a.id, m.directBoundary otherId with
  | some b, some c =>
    b.kind = .executionEnvironment && c.kind = .executionEnvironment && b.id = c.id
  | _, _ => false

/-- Whether another asset lies in the same network. -/
def sameNetwork (a : TechnicalAsset) (m : Model) (otherId : String) : Bool :=
  m.network a.id = m.network otherId

/-- Whether a link connects two assets in either direction. -/
def connectedTo (a : TechnicalAsset) (m : Model) (otherId : String) : Bool :=
  (m.incomingLinks a.id).any (·.sourceId = otherId) ||
    (m.incomingLinks otherId).any (·.sourceId = a.id)

end TechnicalAsset

namespace Link

/-- Whether a link leaves the boundary that it starts in. -/
def crossesBoundary (l : Link) (m : Model) : Bool :=
  m.index.directBoundary.get? l.sourceId ≠ m.index.directBoundary.get? l.targetId

/-- Whether a link leads to another network. -/
def crossesNetwork (l : Link) (m : Model) : Bool :=
  m.network l.sourceId ≠ m.network l.targetId &&
    ((m.networkBoundary l.targetId).map (·.kind.isNetwork)).getD true

end Link

/-! ## Inherited tags -/

/-- Whether a boundary or one above it has one of some tags. -/
def TrustBoundary.inheritsAny (b : TrustBoundary) (m : Model) (candidates : List String) : Bool :=
  ((m.ancestry b.id).filterMap m.trustBoundaries.get?).any (taggedWithAny ·.tags candidates)

/-- Whether an asset, a boundary around it or a runtime that it runs in has one of some tags. -/
def TechnicalAsset.inheritsAny (a : TechnicalAsset) (m : Model) (candidates : List String) : Bool :=
  taggedWithAny a.tags candidates ||
    ((m.directBoundary a.id).map (·.inheritsAny m candidates)).getD false ||
    (m.runtimesOf a.id).any (taggedWithAny ·.tags candidates)

end ThreatModel
