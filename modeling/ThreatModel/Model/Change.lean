import ThreatModel.Model.Basic

/-!
# Changes of a model

Elements may be taken out and members of boundaries be set anew. Every change ends with a new index.
-/

namespace ThreatModel.Model

/-- Takes out the technical asset with a key. -/
def removeAsset (m : Model) (id : String) : Model :=
  reindex { m with technicalAssets := m.technicalAssets.erase id }

/-- Takes out the boundary with a key. -/
def removeBoundary (m : Model) (id : String) : Model :=
  reindex { m with trustBoundaries := m.trustBoundaries.erase id }

/-- Takes out the links of an asset. -/
def clearLinks (m : Model) (id : String) : Model :=
  reindex { m with technicalAssets := m.technicalAssets.modify id fun a => { a with links := [] } }

/-- Sets the assets inside a boundary. -/
def setInside (m : Model) (id : String) (assets : List String) : Model :=
  reindex { m with
    trustBoundaries := m.trustBoundaries.modify id fun b => { b with assetsInside := assets } }

/-- Sets the boundaries nested in a boundary. -/
def setNested (m : Model) (id : String) (nested : List String) : Model :=
  reindex { m with trustBoundaries := m.trustBoundaries.modify id fun b => { b with nested := nested } }

end ThreatModel.Model
