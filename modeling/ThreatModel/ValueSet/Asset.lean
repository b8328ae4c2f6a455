import ThreatModel.ValueSet.Basic

/-!
# Attributes of technical assets
-/

namespace ThreatModel

/-- What a technical asset is. -/
inductive AssetKind where
  | externalEntity | process | datastore
  deriving DecidableEq, Repr, Inhabited

namespace AssetKind

/-- The word that stands for a value. -/
def word : AssetKind → String
  | externalEntity => "external-entity"
  | process => "process"
  | datastore => "datastore"

/-- What a value means. -/
def description : AssetKind → String
  | externalEntity => "This asset is hosted and managed by a third party"
  | process => "A software process"
  | datastore => "This asset stores data"

/-- All values in their order. -/
def all : List AssetKind :=
  [.externalEntity, .process, .datastore]

instance : ValueSet AssetKind where
  typeName := "TechnicalAssetType"
  all := all
  word := word
  description := description

theorem mem_all (v : AssetKind) : v ∈ all := by cases v <;> simp [all]

end AssetKind

/-- How large a technical asset is. -/
inductive AssetSize where
  | system | service | application | component
  deriving DecidableEq, Repr, Inhabited

namespace AssetSize

/-- The word that stands for a value. -/
def word : AssetSize → String
  | system => "system"
  | service => "service"
  | application => "application"
  | component => "component"

/-- What a value means. -/
def description : AssetSize → String
  | system => "A system consists of several services"
  | service => "A specific service (web, mail, ...)"
  | application => "A single application"
  | component => "A component of an application (smaller unit like a microservice)"

/-- All values in their order. -/
def all : List AssetSize :=
  [.system, .service, .application, .component]

instance : ValueSet AssetSize where
  typeName := "TechnicalAssetSize"
  all := all
  word := word
  description := description

theorem mem_all (v : AssetSize) : v ∈ all := by cases v <;> simp [all]

end AssetSize

/-- What a technical asset runs on. -/
inductive Machine where
  | physical | virtual | container | serverless
  deriving DecidableEq, Repr, Inhabited

namespace Machine

/-- The word that stands for a value. -/
def word : Machine → String
  | physical => "physical"
  | virtual => "virtual"
  | container => "container"
  | serverless => "serverless"

/-- What a value means. -/
def description : Machine → String
  | physical => "A physical machine"
  | virtual => "A virtual machine"
  | container => "A container"
  | serverless => "A serverless application"

/-- All values in their order. -/
def all : List Machine :=
  [.physical, .virtual, .container, .serverless]

instance : ValueSet Machine where
  typeName := "Machine"
  all := all
  word := word
  description := description

theorem mem_all (v : Machine) : v ∈ all := by cases v <;> simp [all]

end Machine

/-- How the data of a technical asset is encrypted at rest. -/
inductive Encryption where
  | none | transparent | dataWithSymmetricSharedKey | dataWithAsymmetricSharedKey
  | dataWithEnduserIndividualKey
  deriving DecidableEq, Repr, Inhabited

namespace Encryption

/-- The word that stands for a value. -/
def word : Encryption → String
  | none => "none"
  | transparent => "transparent"
  | dataWithSymmetricSharedKey => "data-with-symmetric-shared-key"
  | dataWithAsymmetricSharedKey => "data-with-asymmetric-shared-key"
  | dataWithEnduserIndividualKey => "data-with-enduser-individual-key"

/-- What a value means. -/
def description : Encryption → String
  | none => "No encryption"
  | transparent => "Encrypted data at rest"
  | dataWithSymmetricSharedKey => "Both communication partners have the same key"
  | dataWithAsymmetricSharedKey =>
    "The key is split into public and private, shared between partners"
  | dataWithEnduserIndividualKey => "The key is (managed) by the end user"

/-- All values in their order. -/
def all : List Encryption :=
  [.none, .transparent, .dataWithSymmetricSharedKey, .dataWithAsymmetricSharedKey,
    .dataWithEnduserIndividualKey]

instance : ValueSet Encryption where
  typeName := "EncryptionStyle"
  all := all
  word := word
  description := description

theorem mem_all (v : Encryption) : v ∈ all := by cases v <;> simp [all]

end Encryption

/-- Whether an element serves the business or its operation. -/
inductive Usage where
  | business | devOps
  deriving DecidableEq, Repr, Inhabited

namespace Usage

/-- The word that stands for a value. -/
def word : Usage → String
  | business => "business"
  | devOps => "devops"

/-- What a value means. -/
def description : Usage → String
  | business => "This system is operational and does business tasks"
  | devOps => "This system is for development and/or deployment or other operational tasks"

/-- All values in their order. -/
def all : List Usage :=
  [.business, .devOps]

instance : ValueSet Usage where
  typeName := "Usage"
  all := all
  word := word
  description := description

theorem mem_all (v : Usage) : v ∈ all := by cases v <;> simp [all]

end Usage

/-- Formats of data that a technical asset accepts. -/
inductive DataFormat where
  | json | xml | serialization | file | csv
  deriving DecidableEq, Repr, Inhabited

namespace DataFormat

/-- The word that stands for a value. -/
def word : DataFormat → String
  | json => "json"
  | xml => "xml"
  | serialization => "serialization"
  | file => "file"
  | csv => "csv"

/-- What a value means. -/
def description : DataFormat → String
  | json => "JSON"
  | xml => "XML"
  | serialization => "Serialized program objects"
  | file => "Specific file types for data"
  | csv => "CSV"

/-- All values in their order. -/
def all : List DataFormat :=
  [.json, .xml, .serialization, .file, .csv]

instance : ValueSet DataFormat where
  typeName := "DataFormat"
  all := all
  word := word
  description := description

theorem mem_all (v : DataFormat) : v ∈ all := by cases v <;> simp [all]

end DataFormat

end ThreatModel
