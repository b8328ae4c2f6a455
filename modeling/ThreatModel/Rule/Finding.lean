import ThreatModel.Model.Neighbourhood
import ThreatModel.Model.Protection
import ThreatModel.Rule.Basic

/-!
# Making findings

What the built-in rules share: how a finding is made step by step, how the accesses to an asset are
listed, and how repeated findings and ids are dropped.
-/

namespace ThreatModel

/-- A new finding of a category. -/
def Category.finding (c : Category) (likelihood : Likelihood) (impact : Impact) (title : String) :
    Risk := .new c.id likelihood impact title

namespace Risk

/-- The finding with its most relevant technical asset. -/
def onAsset (r : Risk) (a : TechnicalAsset) : Risk := { r with technicalAsset := some a.id }

/-- The finding with its most relevant link. -/
def onLink (r : Risk) (l : Link) : Risk := { r with link := some l.id }

/-- The finding with its most relevant data asset. -/
def onData (r : Risk) (d : DataAsset) : Risk := { r with dataAsset := some d.id }

/-- The finding with its most relevant boundary. -/
def onBoundary (r : Risk) (b : TrustBoundary) : Risk := { r with boundary := some b.id }

/-- The finding with its most relevant runtime. -/
def onRuntime (r : Risk) (s : SharedRuntime) : Risk := { r with runtime := some s.id }

/-- Of findings with the same id only the first. -/
def firstPerId (risks : List Risk) : List Risk :=
  risks.foldl (fun kept r => if kept.any (·.syntheticId = r.syntheticId) then kept else kept ++ [r]) []

end Risk

/-- Texts in order, each once. -/
def sortedUnique (texts : List String) : List String :=
  (Dict.ofList (texts.map fun s => (s, ()))).keys

/-- How bad it is if content with a rating is read or changed: least for content that is internal at
most and operational in integrity. -/
def Rating.contentImpact (r : Rating) : Impact :=
  if r.isTopContent then .high
  else if r.confidentiality ≤ .internal && r.integrity = .operational then .low
  else .medium

/-- A link that reaches an asset, with the asset that it starts at. -/
structure Access where
  link : Link
  caller : TechnicalAsset

/-- The links to an asset that start at a known asset. -/
def Model.accesses (m : Model) (assetId : String) : List Access :=
  (m.incomingLinks assetId).filterMap fun l =>
    (m.technicalAssets.get? l.sourceId).map fun a => ⟨l, a⟩

/-- The asset that a link leads to. -/
def Model.target? (m : Model) (l : Link) : Option TechnicalAsset := m.technicalAssets.get? l.targetId

/-- Whether a link is used for development and operations only. -/
def Link.isDevOps (l : Link) : Bool := l.usage = .devOps

end ThreatModel
