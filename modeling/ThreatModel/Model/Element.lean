import ThreatModel.Json.Record
import ThreatModel.ValueSet.Asset
import ThreatModel.ValueSet.Boundary
import ThreatModel.ValueSet.Link
import ThreatModel.ValueSet.Protocol
import ThreatModel.ValueSet.Rating
import ThreatModel.ValueSet.Technology

/-!
# Elements of a model

A model describes a system by its data assets, its technical assets with the communication links that
start at them, the trust boundaries around them and the runtimes that they share. Elements refer to
each other by id.
-/

namespace ThreatModel

/-- Who wrote a model. -/
structure Author where
  name : String := ""
  homepage : String := ""
  deriving DecidableEq, Inhabited

/-- A description with images, each a map from file to caption. -/
structure Overview where
  description : String := ""
  images : List (Dict String) := []
  deriving DecidableEq, Inhabited

/-- A piece of information that is worth protecting. -/
structure DataAsset where
  id : String
  title : String
  description : String
  usage : Usage
  tags : List String
  origin : String
  owner : String
  quantity : Quantity
  confidentiality : Confidentiality
  integrity : Criticality
  availability : Criticality
  justificationCiaRating : String
  deriving DecidableEq, Inhabited

/-- A way in which one technical asset calls another. -/
structure Link where
  id : String
  sourceId : String
  targetId : String
  title : String
  description : String
  protocol : Protocol
  tags : List String
  vpn : Bool
  ipFiltered : Bool
  readonly : Bool
  authentication : Authentication
  authorization : Authorization
  usage : Usage
  dataSent : List String
  dataReceived : List String
  diagramWeight : Nat
  diagramConstraint : Bool
  deriving DecidableEq, Inhabited

/-- A component of the system. -/
structure TechnicalAsset where
  id : String
  title : String
  description : String
  kind : AssetKind
  usage : Usage
  usedAsClientByHuman : Bool
  outOfScope : Bool
  justificationOutOfScope : String
  size : AssetSize
  technology : Technology
  machine : Machine
  internet : Bool
  multiTenant : Bool
  redundant : Bool
  customDevelopedParts : Bool
  encryption : Encryption
  owner : String
  confidentiality : Confidentiality
  integrity : Criticality
  availability : Criticality
  justificationCiaRating : String
  tags : List String
  dataProcessed : List String
  dataStored : List String
  formatsAccepted : List DataFormat
  /-- The links that start here, in the order of their ids. -/
  links : List Link
  diagramOrder : Int
  /-- How attractive the asset is for attackers in relation to the others, in percent. -/
  raa : Float
  deriving BEq, DecidableEq, Inhabited

/-- A boundary of trust with the assets and the boundaries inside it. -/
structure TrustBoundary where
  id : String
  title : String
  description : String
  kind : BoundaryKind
  tags : List String
  assetsInside : List String
  nested : List String
  deriving DecidableEq, Inhabited

/-- An environment in which several technical assets run. -/
structure SharedRuntime where
  id : String
  title : String
  description : String
  tags : List String
  assetsRunning : List String
  deriving DecidableEq, Inhabited

/-! ## JSON form -/

namespace Author

/-- Reads an author. -/
def ofJson? (j : Json) : Option Author := do
  let s ← j.slots? ["name", "homepage"]
  return ⟨← Record.required s "name" Json.text?, ← Record.optional s "homepage" Json.text? ""⟩

/-- An author as an object. -/
def toJson (a : Author) : Json :=
  .object (("name", .string a.name) :: Json.textUnlessEmpty "homepage" a.homepage)

end Author

namespace Overview

/-- Reads an overview. -/
def ofJson? (j : Json) : Option Overview := do
  let s ← j.slots? ["description", "images"]
  return ⟨← Record.optional s "description" Json.text? "",
    ← Record.optional s "images" (Record.list Record.textDict) []⟩

/-- An overview as an object. -/
def toJson (o : Overview) : Json :=
  .object (("description", .string o.description) ::
    Json.listUnlessEmpty "images" (Json.ofDict .string) o.images)

end Overview

namespace DataAsset

/-- The names of the fields in order. -/
def fieldNames : List String :=
  ["id", "title", "description", "usage", "tags", "origin", "owner", "quantity", "confidentiality",
    "integrity", "availability", "justification_cia_rating"]

/-- Reads a data asset. -/
def ofJson? (j : Json) : Option DataAsset := do
  let s ← j.slots? fieldNames
  return {
    id := ← Record.required s "id" Json.text?
    title := ← Record.required s "title" Json.text?
    description := ← Record.required s "description" Json.text?
    usage := ← Record.required s "usage" Json.word?
    tags := ← Record.optional s "tags" Record.texts []
    origin := ← Record.optional s "origin" Json.text? ""
    owner := ← Record.optional s "owner" Json.text? ""
    quantity := ← Record.required s "quantity" Json.word?
    confidentiality := ← Record.required s "confidentiality" Json.word?
    integrity := ← Record.required s "integrity" Json.word?
    availability := ← Record.required s "availability" Json.word?
    justificationCiaRating := ← Record.optional s "justification_cia_rating" Json.text? "" }

/-- A data asset as an object. -/
def toJson (d : DataAsset) : Json :=
  .object (
    [("id", .string d.id), ("title", .string d.title), ("description", .string d.description),
      ("usage", .ofWord d.usage)] ++
    Json.listUnlessEmpty "tags" .string d.tags ++
    [("origin", .string d.origin), ("owner", .string d.owner), ("quantity", .ofWord d.quantity),
      ("confidentiality", .ofWord d.confidentiality), ("integrity", .ofWord d.integrity),
      ("availability", .ofWord d.availability),
      ("justification_cia_rating", .string d.justificationCiaRating)])

end DataAsset

namespace Link

/-- The names of the fields in order. -/
def fieldNames : List String :=
  ["id", "source_id", "target_id", "title", "description", "protocol", "tags", "vpn", "ip_filtered",
    "readonly", "authentication", "authorization", "usage", "data_assets_sent",
    "data_assets_received", "diagram_tweak_weight", "diagram_tweak_constraint"]

/-- Reads a communication link. -/
def ofJson? (j : Json) : Option Link := do
  let s ← j.slots? fieldNames
  return {
    id := ← Record.required s "id" Json.text?
    sourceId := ← Record.required s "source_id" Json.text?
    targetId := ← Record.required s "target_id" Json.text?
    title := ← Record.required s "title" Json.text?
    description := ← Record.required s "description" Json.text?
    protocol := ← Record.required s "protocol" Json.word?
    tags := ← Record.optional s "tags" Record.texts []
    vpn := ← Record.required s "vpn" Json.bool?
    ipFiltered := ← Record.required s "ip_filtered" Json.bool?
    readonly := ← Record.required s "readonly" Json.bool?
    authentication := ← Record.required s "authentication" Json.word?
    authorization := ← Record.required s "authorization" Json.word?
    usage := ← Record.required s "usage" Json.word?
    dataSent := ← Record.optional s "data_assets_sent" Record.texts []
    dataReceived := ← Record.optional s "data_assets_received" Record.texts []
    diagramWeight := ← Record.optional s "diagram_tweak_weight" Record.word32 1
    diagramConstraint := ← Record.optional s "diagram_tweak_constraint" Json.bool? true }

/-- A communication link as an object. -/
def toJson (l : Link) : Json :=
  .object (
    [("id", .string l.id), ("source_id", .string l.sourceId), ("target_id", .string l.targetId),
      ("title", .string l.title), ("description", .string l.description),
      ("protocol", .ofWord l.protocol)] ++
    Json.listUnlessEmpty "tags" .string l.tags ++
    [("vpn", .bool l.vpn), ("ip_filtered", .bool l.ipFiltered), ("readonly", .bool l.readonly),
      ("authentication", .ofWord l.authentication), ("authorization", .ofWord l.authorization),
      ("usage", .ofWord l.usage)] ++
    Json.listUnlessEmpty "data_assets_sent" .string l.dataSent ++
    Json.listUnlessEmpty "data_assets_received" .string l.dataReceived ++
    [("diagram_tweak_weight", .ofNat l.diagramWeight),
      ("diagram_tweak_constraint", .bool l.diagramConstraint)])

end Link

namespace TechnicalAsset

/-- The names of the fields in order. -/
def fieldNames : List String :=
  ["id", "title", "description", "type", "usage", "used_as_client_by_human", "out_of_scope",
    "justification_out_of_scope", "size", "technology", "machine", "internet", "multi_tenant",
    "redundant", "custom_developed_parts", "encryption", "owner", "confidentiality", "integrity",
    "availability", "justification_cia_rating", "tags", "data_assets_processed",
    "data_assets_stored", "data_formats_accepted", "communication_links", "diagram_tweak_order",
    "raa"]

/-- Reads a technical asset. -/
def ofJson? (j : Json) : Option TechnicalAsset := do
  let s ← j.slots? fieldNames
  return {
    id := ← Record.required s "id" Json.text?
    title := ← Record.required s "title" Json.text?
    description := ← Record.required s "description" Json.text?
    kind := ← Record.required s "type" Json.word?
    usage := ← Record.required s "usage" Json.word?
    usedAsClientByHuman := ← Record.required s "used_as_client_by_human" Json.bool?
    outOfScope := ← Record.required s "out_of_scope" Json.bool?
    justificationOutOfScope := ← Record.optional s "justification_out_of_scope" Json.text? ""
    size := ← Record.required s "size" Json.word?
    technology := ← Record.required s "technology" Json.word?
    machine := ← Record.required s "machine" Json.word?
    internet := ← Record.required s "internet" Json.bool?
    multiTenant := ← Record.required s "multi_tenant" Json.bool?
    redundant := ← Record.required s "redundant" Json.bool?
    customDevelopedParts := ← Record.required s "custom_developed_parts" Json.bool?
    encryption := ← Record.required s "encryption" Json.word?
    owner := ← Record.optional s "owner" Json.text? ""
    confidentiality := ← Record.required s "confidentiality" Json.word?
    integrity := ← Record.required s "integrity" Json.word?
    availability := ← Record.required s "availability" Json.word?
    justificationCiaRating := ← Record.optional s "justification_cia_rating" Json.text? ""
    tags := ← Record.optional s "tags" Record.texts []
    dataProcessed := ← Record.optional s "data_assets_processed" Record.texts []
    dataStored := ← Record.optional s "data_assets_stored" Record.texts []
    formatsAccepted := ← Record.optional s "data_formats_accepted" (Record.list Json.word?) []
    links := ← Record.optional s "communication_links" (Record.list Link.ofJson?) []
    diagramOrder := ← Record.optional s "diagram_tweak_order" Record.int32 0
    raa := ← Record.optional s "raa" Json.float? 0 }

/-- A technical asset as an object. -/
def toJson (a : TechnicalAsset) : Json :=
  .object (
    [("id", .string a.id), ("title", .string a.title), ("description", .string a.description),
      ("type", .ofWord a.kind), ("usage", .ofWord a.usage),
      ("used_as_client_by_human", .bool a.usedAsClientByHuman),
      ("out_of_scope", .bool a.outOfScope)] ++
    Json.textUnlessEmpty "justification_out_of_scope" a.justificationOutOfScope ++
    [("size", .ofWord a.size), ("technology", .ofWord a.technology), ("machine", .ofWord a.machine),
      ("internet", .bool a.internet), ("multi_tenant", .bool a.multiTenant),
      ("redundant", .bool a.redundant), ("custom_developed_parts", .bool a.customDevelopedParts),
      ("encryption", .ofWord a.encryption), ("owner", .string a.owner),
      ("confidentiality", .ofWord a.confidentiality), ("integrity", .ofWord a.integrity),
      ("availability", .ofWord a.availability),
      ("justification_cia_rating", .string a.justificationCiaRating)] ++
    Json.listUnlessEmpty "tags" .string a.tags ++
    Json.listUnlessEmpty "data_assets_processed" .string a.dataProcessed ++
    Json.listUnlessEmpty "data_assets_stored" .string a.dataStored ++
    Json.listUnlessEmpty "data_formats_accepted" .ofWord a.formatsAccepted ++
    Json.listUnlessEmpty "communication_links" Link.toJson a.links ++
    [("diagram_tweak_order", .int a.diagramOrder), ("raa", .ofFloat a.raa)])

end TechnicalAsset

namespace TrustBoundary

/-- The names of the fields in order. -/
def fieldNames : List String :=
  ["id", "title", "description", "type", "tags", "technical_assets_inside",
    "trust_boundaries_nested"]

/-- Reads a trust boundary. -/
def ofJson? (j : Json) : Option TrustBoundary := do
  let s ← j.slots? fieldNames
  return {
    id := ← Record.required s "id" Json.text?
    title := ← Record.required s "title" Json.text?
    description := ← Record.required s "description" Json.text?
    kind := ← Record.required s "type" Json.word?
    tags := ← Record.optional s "tags" Record.texts []
    assetsInside := ← Record.optional s "technical_assets_inside" Record.texts []
    nested := ← Record.optional s "trust_boundaries_nested" Record.texts [] }

/-- A trust boundary as an object. -/
def toJson (b : TrustBoundary) : Json :=
  .object (
    [("id", .string b.id), ("title", .string b.title), ("description", .string b.description),
      ("type", .ofWord b.kind)] ++
    Json.listUnlessEmpty "tags" .string b.tags ++
    Json.listUnlessEmpty "technical_assets_inside" .string b.assetsInside ++
    Json.listUnlessEmpty "trust_boundaries_nested" .string b.nested)

end TrustBoundary

namespace SharedRuntime

/-- The names of the fields in order. -/
def fieldNames : List String :=
  ["id", "title", "description", "tags", "technical_assets_running"]

/-- Reads a shared runtime. -/
def ofJson? (j : Json) : Option SharedRuntime := do
  let s ← j.slots? fieldNames
  return {
    id := ← Record.required s "id" Json.text?
    title := ← Record.required s "title" Json.text?
    description := ← Record.required s "description" Json.text?
    tags := ← Record.optional s "tags" Record.texts []
    assetsRunning := ← Record.optional s "technical_assets_running" Record.texts [] }

/-- A shared runtime as an object. -/
def toJson (r : SharedRuntime) : Json :=
  .object (
    [("id", .string r.id), ("title", .string r.title), ("description", .string r.description)] ++
    Json.listUnlessEmpty "tags" .string r.tags ++
    Json.listUnlessEmpty "technical_assets_running" .string r.assetsRunning)

end SharedRuntime

end ThreatModel
