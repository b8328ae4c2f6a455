import ThreatModel.Dict

/-!
# Models as stated

The form in which people write a model. Elements are keyed by title, and values of closed sets are
still plain texts, so that validation can say which field of which element is at fault.
-/

namespace ThreatModel

/-- Who wrote a model. -/
structure AuthorInput where
  name : String := ""
  homepage : String := ""
  deriving DecidableEq, Inhabited

/-- A description with images. -/
structure OverviewInput where
  description : String := ""
  images : List (Dict String) := []
  deriving DecidableEq, Inhabited

/-- A data asset as stated. -/
structure DataAssetInput where
  id : String := ""
  description : String := ""
  usage : String := ""
  tags : List String := []
  origin : String := ""
  owner : String := ""
  quantity : String := ""
  confidentiality : String := ""
  integrity : String := ""
  availability : String := ""
  justificationCiaRating : String := ""
  deriving DecidableEq, Inhabited

/-- A communication link as stated. -/
structure LinkInput where
  target : String := ""
  description : String := ""
  protocol : String := ""
  authentication : String := ""
  authorization : String := ""
  tags : List String := []
  vpn : Bool := false
  ipFiltered : Bool := false
  readonly : Bool := false
  usage : String := ""
  dataSent : List String := []
  dataReceived : List String := []
  diagramWeight : Nat := 0
  diagramConstraint : Bool := false
  deriving DecidableEq, Inhabited

/-- A technical asset as stated. -/
structure TechnicalAssetInput where
  id : String := ""
  description : String := ""
  kind : String := ""
  usage : String := ""
  usedAsClientByHuman : Bool := false
  outOfScope : Bool := false
  justificationOutOfScope : String := ""
  size : String := ""
  technology : String := ""
  tags : List String := []
  internet : Bool := false
  machine : String := ""
  encryption : String := ""
  owner : String := ""
  confidentiality : String := ""
  integrity : String := ""
  availability : String := ""
  justificationCiaRating : String := ""
  multiTenant : Bool := false
  redundant : Bool := false
  customDevelopedParts : Bool := false
  dataProcessed : List String := []
  dataStored : List String := []
  formatsAccepted : List String := []
  diagramOrder : Int := 0
  links : Dict LinkInput := .empty
  deriving DecidableEq, Inhabited

/-- A trust boundary as stated. -/
structure TrustBoundaryInput where
  id : String := ""
  description : String := ""
  kind : String := ""
  tags : List String := []
  assetsInside : List String := []
  nested : List String := []
  deriving DecidableEq, Inhabited

/-- A shared runtime as stated. -/
structure SharedRuntimeInput where
  id : String := ""
  description : String := ""
  tags : List String := []
  assetsRunning : List String := []
  deriving DecidableEq, Inhabited

/-- A risk of an individual category as stated. -/
structure IndividualRiskInput where
  severity : String := ""
  likelihood : String := ""
  impact : String := ""
  breachProbability : String := ""
  breachAssets : List String := []
  dataAsset : String := ""
  technicalAsset : String := ""
  link : String := ""
  boundary : String := ""
  runtime : String := ""
  deriving DecidableEq, Inhabited

/-- A risk category of the model as stated. -/
structure IndividualCategoryInput where
  id : String := ""
  description : String := ""
  impact : String := ""
  asvs : String := ""
  cheatSheet : String := ""
  action : String := ""
  mitigation : String := ""
  check : String := ""
  function : String := ""
  stride : String := ""
  detectionLogic : String := ""
  riskAssessment : String := ""
  falsePositives : String := ""
  modelFailurePossible : Bool := false
  cwe : Nat := 0
  risks : Dict IndividualRiskInput := .empty
  deriving DecidableEq, Inhabited

/-- A tracking record as stated. -/
structure TrackingInput where
  status : String := ""
  justification : String := ""
  ticket : String := ""
  date : String := ""
  checkedBy : String := ""
  deriving DecidableEq, Inhabited

/-- A model as stated. The elements are keyed by title. -/
structure ModelInput where
  includes : List String := []
  title : String := ""
  author : AuthorInput := {}
  date : String := ""
  businessOverview : OverviewInput := {}
  technicalOverview : OverviewInput := {}
  businessCriticality : String := ""
  managementSummaryComment : String := ""
  questions : Dict String := .empty
  abuseCases : Dict String := .empty
  securityRequirements : Dict String := .empty
  tagsAvailable : List String := []
  dataAssets : Dict DataAssetInput := .empty
  technicalAssets : Dict TechnicalAssetInput := .empty
  trustBoundaries : Dict TrustBoundaryInput := .empty
  sharedRuntimes : Dict SharedRuntimeInput := .empty
  individualCategories : Dict IndividualCategoryInput := .empty
  tracking : Dict TrackingInput := .empty
  deriving DecidableEq, Inhabited

end ThreatModel
