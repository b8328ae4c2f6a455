import ThreatModel.Catalogue.Plausibility
import ThreatModel.Rule.Finding

/-!
# Rules about plausibility

A model may leave things open or contradict itself.
-/

namespace ThreatModel.BuiltinRule

/-- The finding that something is unknown at an asset. -/
def unknown (a : TechnicalAsset) (title : String) : Risk :=
  Category.incompleteModel.finding .unlikely .low title
    |>.onAsset a |>.withBreach .improbable [a.id]

/-- Unknown technologies and protocols of in-scope assets. -/
def incompleteModel : ModelRule where
  category := .incompleteModel
  findings m := m.inScope.flatMap fun a =>
    (if a.technology = .unknownTechnology then
      [unknown a ("Unknown Technology specified at technical asset " ++ a.title)
        |>.identifiedBy [a.id]]
    else []) ++
    (a.links.filter (·.protocol = .unknownProtocol)).map fun l =>
      unknown a ("Unknown Protocol specified for communication link " ++ l.title
          ++ " at technical asset " ++ a.title)
        |>.onLink l |>.identifiedBy [l.id, a.id]

/-- The technology that the target of a protocol must have. -/
def expectedTechnology : Protocol → Option Technology
  | .inProcessLibraryCall => some .library
  | .localFileAccess => some .localFileSystem
  | _ => none

/-- The remark that a link and the asset at its end do not fit. -/
def mismatch (l : Link) (kind found expected : String) : String :=
  "(protocol type \"" ++ l.protocol.word ++ "\" does not match target " ++ kind ++ " type \"" ++ found
    ++ "\": expected \"" ++ expected ++ "\")"

/-- What is wrong with a link to a target, in a fixed order. -/
def contradictions (l : Link) (target : TechnicalAsset) : List String :=
  (if (if l.readonly then l.dataReceived else l.dataSent).isEmpty then
    ["(data assets sent/received not matching the communication link's readonly flag)"]
  else []) ++
  ((expectedTechnology l.protocol).filter (· ≠ target.technology)).toList.map (fun t =>
    mismatch l "technology" target.technology.word t.word) ++
  (if l.protocol = .containerSpawning && target.machine ≠ .container then
    [mismatch l "machine" target.machine.word Machine.container.word]
  else [])

/-- Links that contradict their own settings or their targets. -/
def wrongCommunicationLinkContent : ModelRule where
  category := .wrongCommunicationLinkContent
  findings m := m.technicalAssets.values.flatMap fun a => a.links.filterMap fun l => do
    let remarks := contradictions l (← m.target? l)
    if remarks.isEmpty then none
    return Category.wrongCommunicationLinkContent.finding .unlikely .low
        ("Wrong Communication Link Content " ++ " ".intercalate remarks ++ " at " ++ a.title
          ++ " regarding communication link " ++ l.title)
      |>.onAsset a |>.onLink l |>.withBreach .improbable [] |>.identifiedBy [a.id, l.id]

/-- Assets in a boundary for containers that are none. -/
def wrongTrustBoundaryContent : ModelRule where
  category := .wrongTrustBoundaryContent
  findings m :=
    (m.trustBoundaries.values.filter (·.kind = .networkPolicyNamespaceIsolation)).flatMap fun b =>
      ((b.assetsInside.filterMap m.technicalAssets.get?).filter fun a =>
          !([.container, .serverless].contains a.machine)).map fun a =>
        Category.wrongTrustBoundaryContent.finding .unlikely .low
            ("Wrong Trust Boundary Content (non-container asset inside container trust boundary) at "
              ++ a.title)
          |>.onAsset a |>.withBreach .improbable [a.id] |>.identifiedBy [a.id]

end ThreatModel.BuiltinRule
