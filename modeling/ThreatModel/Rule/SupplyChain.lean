import ThreatModel.Catalogue.SupplyChain
import ThreatModel.Rule.Example
import ThreatModel.Rule.Finding

/-!
# Rules about the supply chain

Secrets may leak from repositories, and code may be changed by an attacker on its way into operation.
-/

namespace ThreatModel.BuiltinRule

/-- The finding about a repository. -/
def secretLeak (m : Model) (a : TechnicalAsset) : Risk :=
  let r := a.rating m
  Category.accidentalSecretLeak.finding .unlikely
      (if r.isTop then .high else if r.isHigh then .medium else .low)
      (if taggedWithAny a.tags ["git"] then
        "Accidental Secret Leak (Git) risk at " ++ a.title ++ ": Git Leak Prevention"
      else "Accidental Secret Leak risk at " ++ a.title)
    |>.onAsset a |>.withBreach .probable [a.id] |>.identifiedBy [a.id]

/-- Repositories of code and artifacts. -/
def accidentalSecretLeak : ModelRule where
  category := .accidentalSecretLeak
  tags := ["git", "nexus"]
  findings m :=
    (m.inScope.filter fun a =>
      [.sourcecodeRepository, .artifactRegistry].contains a.technology).map (secretLeak m)

/-- Whether an asset is reached from the internet outside a VPN, or by an asset that is not managed. -/
def isOpenToUntrusted (m : Model) (a : TechnicalAsset) : Bool :=
  (m.accesses a.id).any fun x => !x.link.vpn && x.caller.internet || x.caller.outOfScope

/-- Whether code, which is data with an important integrity, is sent over a link. -/
def shipsCode (m : Model) (l : Link) : Bool :=
  (m.dataOf l.dataSent).any fun d => .important ≤ d.integrity

/-- The links over which an asset deploys code. -/
def deployments (m : Model) (a : TechnicalAsset) : List Link :=
  a.links.filter fun l => l.isDevOps && shipsCode m l

/-- An asset and the assets to which it deploys code. -/
def deploymentReach (m : Model) (a : TechnicalAsset) : List String :=
  sortedUnique (a.id :: (deployments m a).map (·.targetId))

/-- Development assets that untrusted callers reach. -/
def codeBackdooring : ModelRule where
  category := .codeBackdooring
  findings m :=
    (m.inScope.filter fun a =>
        a.technology.isDevelopmentRelevant && (a.internet || isOpenToUntrusted m a)).map fun a =>
      Category.codeBackdooring.finding .unlikely
          (if a.technology = .codeInspectionPlatform then .low
          else if (a.rating m).isHighContent then .high
          else .medium)
          ("Code Backdooring risk at " ++ a.title)
        |>.onAsset a |>.withBreach .probable (deploymentReach m a) |>.identifiedBy [a.id]

/-- Containers. -/
def containerBaseimageBackdooring : ModelRule where
  category := .containerBaseimageBackdooring
  findings m := (m.inScope.filter (·.machine = .container)).map fun a =>
    Category.containerBaseimageBackdooring.finding .unlikely
        (if (a.rating m).isTop then .high else .medium)
        ("Container Base Image Backdooring risk at " ++ a.title)
      |>.onAsset a |>.withBreach .probable [a.id] |>.identifiedBy [a.id]

/-- Whether code is stored, built and worked on in a model. -/
def hasBuildInfrastructure (m : Model) : Bool :=
  [.buildPipeline, .sourcecodeRepository, .devOpsClient].all fun t =>
    m.technicalAssets.values.any (·.technology = t)

/-- Models with custom parts that are built outside the model. -/
def missingBuildInfrastructure : ModelRule where
  category := .missingBuildInfrastructure
  findings m :=
    if hasBuildInfrastructure m then []
    else
      let e := (m.inScope.filter (·.customDevelopedParts)).foldl
        (fun e a => e.consider m a a) Example.start
      e.finding .missingBuildInfrastructure "Missing Build Infrastructure in the threat model"

/-- Whether a link from a pipeline writes to an in-scope business asset. -/
def pushesTo (l : Link) (target : TechnicalAsset) : Bool :=
  !l.readonly && l.isDevOps && !target.outOfScope && !target.technology.isDevelopmentRelevant &&
    target.usage = .business

/-- Links over which a pipeline pushes to its targets. -/
def pushInsteadOfPullDeployment : ModelRule where
  category := .pushInsteadOfPullDeployment
  findings m :=
    (m.technicalAssets.values.filter (·.technology = .buildPipeline)).flatMap fun pipeline =>
      pipeline.links.filterMap fun l => do
        let target ← m.target? l
        if !pushesTo l target then none
        return Category.pushInsteadOfPullDeployment.finding .unlikely
            (if (target.rating m).isHigh then .medium else .low)
            ("Push instead of Pull Deployment at " ++ target.title
              ++ " via build pipeline asset " ++ pipeline.title)
          |>.onAsset target |>.onLink l |>.withBreach .improbable [target.id]
          |>.identifiedBy [pipeline.id, target.id]

/-- Development assets, whether or not they are in scope. -/
def uncheckedDeployment : ModelRule where
  category := .uncheckedDeployment
  findings m := (m.technicalAssets.values.filter (·.technology.isDevelopmentRelevant)).map fun a =>
    let sensitive := (deployments m a).any fun l =>
      (m.target? l).any fun target => (target.rating m).isHigh
    Category.uncheckedDeployment.finding .unlikely (if sensitive then .medium else .low)
        ("Unchecked Deployment risk at " ++ a.title)
      |>.onAsset a |>.withBreach .possible (deploymentReach m a) |>.identifiedBy [a.id]

end ThreatModel.BuiltinRule
