import ThreatModel.Model.Nesting

/-!
# Protection needs

How well an element must be protected follows from its own rating and from the data or the assets that
it deals with: each highest rating is the maximum over all of them.
-/

namespace ThreatModel

/-- The three ratings of an element. -/
structure Rating where
  confidentiality : Confidentiality
  integrity : Criticality
  availability : Criticality
  deriving DecidableEq, Repr

namespace Rating

/-- The lowest ratings. -/
def lowest : Rating := ⟨.publicAccess, .archive, .archive⟩

/-- The higher of two ratings in each respect. -/
def sup (a b : Rating) : Rating :=
  ⟨max a.confidentiality b.confidentiality, max a.integrity b.integrity,
    max a.availability b.availability⟩

/-- The highest of some ratings, starting from one. -/
def highest (start : Rating) (ratings : List Rating) : Rating := ratings.foldl sup start

/-- Confidential, or critical in integrity or availability, or above. -/
def isHigh (r : Rating) : Bool :=
  .confidential ≤ r.confidentiality || .critical ≤ r.integrity || .critical ≤ r.availability

/-- Strictly confidential, or mission-critical in integrity or availability. -/
def isTop (r : Rating) : Bool :=
  r.confidentiality = .strictlyConfidential || r.integrity = .missionCritical ||
    r.availability = .missionCritical

/-- Confidential, or critical in integrity, or above, without regard to availability. -/
def isHighContent (r : Rating) : Bool :=
  .confidential ≤ r.confidentiality || .critical ≤ r.integrity

/-- Strictly confidential or mission-critical in integrity, without regard to availability. -/
def isTopContent (r : Rating) : Bool :=
  r.confidentiality = .strictlyConfidential || r.integrity = .missionCritical

end Rating

/-- The ratings of a data asset. -/
def DataAsset.rating (d : DataAsset) : Rating := ⟨d.confidentiality, d.integrity, d.availability⟩

namespace TechnicalAsset

/-- The asset's own ratings, without regard to its data. -/
def ownRating (a : TechnicalAsset) : Rating := ⟨a.confidentiality, a.integrity, a.availability⟩

/-- The ids of the data that an asset processes or stores. -/
def heldData (a : TechnicalAsset) : List String := a.dataProcessed ++ a.dataStored

/-- The highest ratings of an asset and its data. -/
def rating (a : TechnicalAsset) (m : Model) : Rating :=
  .highest a.ownRating ((m.dataOf a.heldData).map (·.rating))

/-- The weight of the asset's own ratings, by which the most relevant asset is chosen. -/
def sensitivity (a : TechnicalAsset) : Nat :=
  a.confidentiality.attractionOfAsset + a.integrity.attractionOfAsset +
    a.availability.attractionOfAsset

/-- Whether an asset processes or stores some data. -/
def holds (a : TechnicalAsset) (dataId : String) : Bool := a.heldData.contains dataId

/-- Whether an asset accepts a format. -/
def accepts (a : TechnicalAsset) (f : DataFormat) : Bool := a.formatsAccepted.contains f

end TechnicalAsset

namespace Link

/-- The ids of the data that a link transfers. -/
def data (l : Link) : List String := l.dataSent ++ l.dataReceived

/-- The highest ratings of the data that a link transfers. -/
def rating (l : Link) (m : Model) : Rating := .highest .lowest ((m.dataOf l.data).map (·.rating))

/-- Whether a link transfers any data. -/
def transfersData (l : Link) : Bool := !l.data.isEmpty

end Link

/-- The highest ratings of some assets. -/
def Model.ratingOf (m : Model) (ids : List String) : Rating :=
  .highest .lowest ((ids.filterMap m.technicalAssets.get?).map (·.rating m))

/-- The highest ratings of the assets inside a boundary. -/
def TrustBoundary.rating (b : TrustBoundary) (m : Model) : Rating := m.ratingOf (m.assetsWithin b)

/-- The highest ratings of the assets in a runtime. -/
def SharedRuntime.rating (r : SharedRuntime) (m : Model) : Rating := m.ratingOf r.assetsRunning

end ThreatModel
