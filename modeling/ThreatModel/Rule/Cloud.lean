import ThreatModel.Catalogue.Cloud
import ThreatModel.Rule.Example
import ThreatModel.Rule.Finding

/-!
# The rule about cloud hardening

Runtimes and boundaries of a cloud provider should be hardened as the provider's guide says. A provider
is recognised by its tags. Where neither a runtime nor a boundary stands for a provider, one of its
assets does. Some services have guides of their own.
-/

namespace ThreatModel

/-- A guide for the hardening of what carries a tag. -/
structure HardeningGuide where
  tag : String
  label : String
  title : String
  deriving DecidableEq

namespace CloudHardening

/-- The providers by their base tags. -/
def providers : List HardeningGuide :=
  [⟨"aws", "AWS", "CIS Benchmark for AWS"⟩,
    ⟨"azure", "Azure", "CIS Benchmark for Microsoft Azure"⟩,
    ⟨"gcp", "GCP", "CIS Benchmark for Google Cloud Computing Platform"⟩,
    ⟨"ocp", "OCP", "Vendor Best Practices for Oracle Cloud Platform"⟩]

/-- The services of the first provider. -/
def serviceTags : List String :=
  ["aws:vpc", "aws:ec2", "aws:s3", "aws:ebs", "aws:apigateway", "aws:lambda", "aws:dynamodb",
    "aws:rds", "aws:sqs", "aws:iam"]

/-- The services with guides of their own. -/
def services : List HardeningGuide :=
  [⟨"aws:ec2", "EC2", "CIS Benchmark for Amazon Linux"⟩,
    ⟨"aws:s3", "S3", "Security Best Practices for AWS S3"⟩]

/-- All tags that the rule looks at. -/
def supportedTags : List String := providers.map (·.tag) ++ serviceTags

/-- Whether tags name a provider or a service. -/
def isSupported (tags : List String) : Bool := taggedWithAny tags supportedTags

/-- Whether tags name a provider, and it is this one. -/
def isOf (p : HardeningGuide) (tags : List String) : Bool :=
  isSupported tags && taggedWithBase tags p.tag

/-! ## Elements of a provider -/

/-- The elements with some ids. -/
def lookup {α : Type} (d : Dict α) (ids : List String) : List α :=
  (sortedUnique ids).filterMap d.get?

/-- The runtimes of a provider. -/
def runtimesOf (m : Model) (p : HardeningGuide) : List SharedRuntime :=
  lookup m.sharedRuntimes ((m.sharedRuntimes.values.filter (isOf p ·.tags)).map (·.id))

/-- The ids of the boundaries of a provider. -/
def boundaryIds (m : Model) (p : HardeningGuide) : List String :=
  (m.trustBoundaries.values.filter (isOf p ·.tags)).map (·.id)

/-- The boundaries of a provider. -/
def boundariesOf (m : Model) (p : HardeningGuide) : List TrustBoundary :=
  lookup m.trustBoundaries (boundaryIds m p)

/-- The boundaries in a cloud that name no provider. -/
def unspecificBoundaries (m : Model) : List TrustBoundary :=
  let specific := providers.flatMap (boundaryIds m)
  let unspecific := m.trustBoundaries.values.filter fun b => !isSupported b.tags && b.kind.isWithinCloud
  lookup m.trustBoundaries ((unspecific.map (·.id)).filter (!specific.contains ·))

/-- The known assets with some ids. -/
def assets (m : Model) (ids : List String) : List TechnicalAsset :=
  ids.filterMap m.technicalAssets.get?

/-- The assets of a provider: those that name it, those that name none but lie in a boundary of it, and
those in its runtimes. -/
def assetsOf (m : Model) (p : HardeningGuide) : List TechnicalAsset :=
  let own := m.technicalAssets.values.filter (isOf p ·.tags)
  let inside := (m.trustBoundaries.values.filter (isOf p ·.tags)).flatMap fun b =>
    (assets m (m.assetsWithin b)).filter (!isSupported ·.tags)
  let running := (m.sharedRuntimes.values.filter (isOf p ·.tags)).flatMap fun r =>
    assets m r.assetsRunning
  lookup m.technicalAssets ((own ++ inside ++ running).map (·.id))

/-- The assets that are services of the first provider. -/
def serviceAssets (m : Model) : List TechnicalAsset :=
  lookup m.technicalAssets
    ((m.technicalAssets.values.filter (taggedWithAny ·.tags serviceTags)).map (·.id))

/-! ## Findings -/

/-- How bad it is if an element with a rating is not hardened. -/
def impact (r : Rating) : Impact :=
  if r.isTop then .veryHigh else if r.isHigh then .high else .medium

/-- A finding about an element, with the guide if there is one. -/
def finding (element : String) (r : Rating) (guide : Option HardeningGuide) : Risk :=
  let label := (guide.map fun g => " (" ++ g.label ++ ")").getD ""
  let reading := (guide.map fun g => ": " ++ g.title).getD ""
  Category.missingCloudHardening.finding .unlikely (impact r)
    ("Missing Cloud Hardening" ++ label ++ " risk at " ++ element ++ reading)

/-- The finding about a runtime. -/
def ofRuntime (m : Model) (guide : Option HardeningGuide) (r : SharedRuntime) : Risk :=
  finding r.title (r.rating m) guide
    |>.onRuntime r |>.withBreach .probable r.assetsRunning |>.identifiedBy [r.id]

/-- The finding about a boundary. -/
def ofBoundary (m : Model) (guide : Option HardeningGuide) (b : TrustBoundary) : Risk :=
  finding b.title (b.rating m) guide
    |>.onBoundary b |>.withBreach .probable (m.assetsWithin b) |>.identifiedBy [b.id]

/-- The finding about an asset. -/
def ofAsset (m : Model) (guide : HardeningGuide) (a : TechnicalAsset) : Risk :=
  finding a.title (a.rating m) guide
    |>.onAsset a |>.withBreach .probable [a.id] |>.identifiedBy [a.id]

/-- The asset that stands for a provider without runtimes and boundaries. -/
def example? (m : Model) (p : HardeningGuide) : Option TechnicalAsset :=
  if (runtimesOf m p).isEmpty && (boundariesOf m p).isEmpty then
    Example.mostSensitive (assetsOf m p)
  else none

/-- The findings of the rule before repeated ones are dropped. -/
def candidates (m : Model) : List Risk :=
  providers.flatMap (fun p => (runtimesOf m p).map (ofRuntime m (some p))) ++
  providers.flatMap (fun p => (boundariesOf m p).map (ofBoundary m (some p))) ++
  (unspecificBoundaries m).map (ofBoundary m none) ++
  providers.filterMap (fun p => (example? m p).map (ofAsset m p)) ++
  (serviceAssets m).flatMap fun a =>
    (services.filter fun s => a.inheritsAny m [s.tag]).map (ofAsset m · a)

end CloudHardening

/-- Elements in a cloud. -/
def BuiltinRule.missingCloudHardening : ModelRule where
  category := .missingCloudHardening
  tags := CloudHardening.supportedTags
  findings m := Risk.firstPerId (CloudHardening.candidates m)

end ThreatModel
