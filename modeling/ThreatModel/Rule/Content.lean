import ThreatModel.Catalogue.Content
import ThreatModel.Rule.Finding

/-!
# Rules about untrusted content

Files, XML documents and serialised objects may be made by an attacker.
-/

namespace ThreatModel.BuiltinRule

/-- Custom parts that accept files. -/
def missingFileValidation : ModelRule where
  category := .missingFileValidation
  findings m := (m.inScope.filter fun a => a.customDevelopedParts && a.accepts .file).map fun a =>
    Category.missingFileValidation.finding .veryLikely
        (if (a.rating m).isTop then .medium else .low)
        ("Missing File Validation risk at " ++ a.title)
      |>.onAsset a |>.withBreach .probable [a.id] |>.identifiedBy [a.id]

/-- Assets that parse XML. -/
def xmlExternalEntity : ModelRule where
  category := .xmlExternalEntity
  findings m := (m.inScope.filter (·.accepts .xml)).map fun a =>
    Category.xmlExternalEntity.finding .veryLikely (if (a.rating m).isTop then .high else .medium)
        ("XML External Entity (XXE) risk at " ++ a.title)
      |>.onAsset a |>.withBreach .probable [a.id] |>.identifiedBy [a.id]

/-- The links to an asset over which objects are passed. -/
def objectLinks (m : Model) (a : TechnicalAsset) : List Link :=
  (m.incomingLinks a.id).filter fun l =>
    [.iiop, .iiopEncrypted, .jrmp, .jrmpEncrypted].contains l.protocol

/-- Whether an asset turns content into objects. -/
def deserializes (m : Model) (a : TechnicalAsset) : Bool :=
  a.accepts .serialization || a.technology = .ejb || !(objectLinks m a).isEmpty

/-- Assets that turn content into objects; the last link over which objects cross into the network is
named. -/
def untrustedDeserialization : ModelRule where
  category := .untrustedDeserialization
  findings m := (m.inScope.filter (deserializes m)).map fun a =>
    let crossing := (objectLinks m a).reverse.find? (·.crossesNetwork m)
    let via := match crossing with
      | some l =>
        " across a trust boundary (at least via communication link " ++ l.title ++ ")"
      | none => ""
    Category.untrustedDeserialization.finding (if crossing.isSome then .veryLikely else .likely)
        (if (a.rating m).isTop then .veryHigh else .high)
        ("Untrusted Deserialization risk at " ++ a.title ++ via)
      |>.onAsset a |>.withBreach .probable [a.id] |>.identifiedBy [a.id]

end ThreatModel.BuiltinRule
