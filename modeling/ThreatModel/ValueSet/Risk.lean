import ThreatModel.ValueSet.Basic

/-!
# Attributes of risks
-/

namespace ThreatModel

/-- How likely exploiting a risk leads to a data breach. -/
inductive BreachProbability where
  | improbable | possible | probable
  deriving DecidableEq, Repr, Inhabited

namespace BreachProbability

/-- The word that stands for a value. -/
def word : BreachProbability → String
  | improbable => "improbable"
  | possible => "possible"
  | probable => "probable"

/-- What a value means. -/
def description : BreachProbability → String
  | improbable => "Improbable"
  | possible => "Possible"
  | probable => "Probable"

/-- All values in their order. -/
def all : List BreachProbability :=
  [.improbable, .possible, .probable]

instance : ValueSet BreachProbability where
  typeName := "DataBreachProbability"
  all := all
  word := word
  description := description

theorem mem_all (v : BreachProbability) : v ∈ all := by cases v <;> simp [all]

end BreachProbability

/-- How severe a risk is, lowest first. -/
inductive Severity where
  | low | medium | elevated | high | critical
  deriving DecidableEq, Repr, Inhabited

namespace Severity

/-- The word that stands for a value. -/
def word : Severity → String
  | low => "low"
  | medium => "medium"
  | elevated => "elevated"
  | high => "high"
  | critical => "critical"

/-- What a value means. -/
def description : Severity → String
  | low => "Low"
  | medium => "Medium"
  | elevated => "Elevated"
  | high => "High"
  | critical => "Critical"

/-- All values in their order. -/
def all : List Severity :=
  [.low, .medium, .elevated, .high, .critical]

instance : ValueSet Severity where
  typeName := "RiskSeverity"
  all := all
  word := word
  description := description

theorem mem_all (v : Severity) : v ∈ all := by cases v <;> simp [all]

instance : LE Severity := ⟨fun a b => a.ctorIdx ≤ b.ctorIdx⟩

instance : LT Severity := ⟨fun a b => a.ctorIdx < b.ctorIdx⟩

instance (a b : Severity) : Decidable (a ≤ b) := inferInstanceAs (Decidable (a.ctorIdx ≤ b.ctorIdx))

instance (a b : Severity) : Decidable (a < b) := inferInstanceAs (Decidable (a.ctorIdx < b.ctorIdx))

instance : Max Severity := ⟨fun a b => if a ≤ b then b else a⟩

end Severity

/-- How likely a risk is exploited, lowest first. -/
inductive Likelihood where
  | unlikely | likely | veryLikely | frequent
  deriving DecidableEq, Repr, Inhabited

namespace Likelihood

/-- The word that stands for a value. -/
def word : Likelihood → String
  | unlikely => "unlikely"
  | likely => "likely"
  | veryLikely => "very-likely"
  | frequent => "frequent"

/-- What a value means. -/
def description : Likelihood → String
  | unlikely => "Unlikely"
  | likely => "Likely"
  | veryLikely => "Very likely"
  | frequent => "Frequent"

/-- All values in their order. -/
def all : List Likelihood :=
  [.unlikely, .likely, .veryLikely, .frequent]

instance : ValueSet Likelihood where
  typeName := "RiskExploitationLikelihood"
  all := all
  word := word
  description := description

theorem mem_all (v : Likelihood) : v ∈ all := by cases v <;> simp [all]

instance : LE Likelihood := ⟨fun a b => a.ctorIdx ≤ b.ctorIdx⟩

instance : LT Likelihood := ⟨fun a b => a.ctorIdx < b.ctorIdx⟩

instance (a b : Likelihood) : Decidable (a ≤ b) := inferInstanceAs (Decidable (a.ctorIdx ≤ b.ctorIdx))

instance (a b : Likelihood) : Decidable (a < b) := inferInstanceAs (Decidable (a.ctorIdx < b.ctorIdx))

instance : Max Likelihood := ⟨fun a b => if a ≤ b then b else a⟩

/-- The factor that a likelihood adds to the severity, counted from one. -/
def weight (l : Likelihood) : Nat := l.ctorIdx + 1

end Likelihood

/-- How much exploiting a risk harms, lowest first. -/
inductive Impact where
  | low | medium | high | veryHigh
  deriving DecidableEq, Repr, Inhabited

namespace Impact

/-- The word that stands for a value. -/
def word : Impact → String
  | low => "low"
  | medium => "medium"
  | high => "high"
  | veryHigh => "very-high"

/-- What a value means. -/
def description : Impact → String
  | low => "Low"
  | medium => "Medium"
  | high => "High"
  | veryHigh => "Very high"

/-- All values in their order. -/
def all : List Impact :=
  [.low, .medium, .high, .veryHigh]

instance : ValueSet Impact where
  typeName := "RiskExploitationImpact"
  all := all
  word := word
  description := description

theorem mem_all (v : Impact) : v ∈ all := by cases v <;> simp [all]

instance : LE Impact := ⟨fun a b => a.ctorIdx ≤ b.ctorIdx⟩

instance : LT Impact := ⟨fun a b => a.ctorIdx < b.ctorIdx⟩

instance (a b : Impact) : Decidable (a ≤ b) := inferInstanceAs (Decidable (a.ctorIdx ≤ b.ctorIdx))

instance (a b : Impact) : Decidable (a < b) := inferInstanceAs (Decidable (a.ctorIdx < b.ctorIdx))

instance : Max Impact := ⟨fun a b => if a ≤ b then b else a⟩

/-- The factor that an impact adds to the severity, counted from one. -/
def weight (i : Impact) : Nat := i.ctorIdx + 1

end Impact

/-- The part of an organisation that deals with a risk. -/
inductive Responsibility where
  | businessSide | architecture | development | operations
  deriving DecidableEq, Repr, Inhabited

namespace Responsibility

/-- The word that stands for a value. -/
def word : Responsibility → String
  | businessSide => "business-side"
  | architecture => "architecture"
  | development => "development"
  | operations => "operations"

/-- What a value means. -/
def description : Responsibility → String
  | businessSide => "Business"
  | architecture => "Architecture"
  | development => "Development"
  | operations => "Operations"

/-- All values in their order. -/
def all : List Responsibility :=
  [.businessSide, .architecture, .development, .operations]

instance : ValueSet Responsibility where
  typeName := "RiskFunction"
  all := all
  word := word
  description := description

theorem mem_all (v : Responsibility) : v ∈ all := by cases v <;> simp [all]

end Responsibility

/-- The kind of threat behind a risk. -/
inductive Stride where
  | spoofing | tampering | repudiation | informationDisclosure | denialOfService
  | elevationOfPrivilege
  deriving DecidableEq, Repr, Inhabited

namespace Stride

/-- The word that stands for a value. -/
def word : Stride → String
  | spoofing => "spoofing"
  | tampering => "tampering"
  | repudiation => "repudiation"
  | informationDisclosure => "information-disclosure"
  | denialOfService => "denial-of-service"
  | elevationOfPrivilege => "elevation-of-privilege"

/-- What a value means. -/
def description : Stride → String
  | spoofing => "Spoofing - Authenticity"
  | tampering => "Tampering - Integrity"
  | repudiation => "Repudiation - Non-repudiability"
  | informationDisclosure => "Information disclosure - Confidentiality"
  | denialOfService => "Denial of service - Availability"
  | elevationOfPrivilege => "Elevation of privilege - Authorization"

/-- All values in their order. -/
def all : List Stride :=
  [.spoofing, .tampering, .repudiation, .informationDisclosure, .denialOfService,
    .elevationOfPrivilege]

instance : ValueSet Stride where
  typeName := "Stride"
  all := all
  word := word
  description := description

theorem mem_all (v : Stride) : v ∈ all := by cases v <;> simp [all]

end Stride

/-- How far the handling of a risk has come, in the order of presentation. -/
inductive RiskStatus where
  | unchecked | inDiscussion | accepted | inProgress | mitigated | falsePositive
  deriving DecidableEq, Repr, Inhabited

namespace RiskStatus

/-- The word that stands for a value. -/
def word : RiskStatus → String
  | unchecked => "unchecked"
  | inDiscussion => "in-discussion"
  | accepted => "accepted"
  | inProgress => "in-progress"
  | mitigated => "mitigated"
  | falsePositive => "false-positive"

/-- What a value means. -/
def description : RiskStatus → String
  | unchecked => "Risk has not yet been reviewed"
  | inDiscussion => "Risk is currently being discussed (during review)"
  | accepted => "Risk has been accepted"
  | inProgress => "Risk mitigation is currently in progress"
  | mitigated => "Risk has been mitigated"
  | falsePositive => "Risk is a false positive (not applicable)"

/-- All values in their order. -/
def all : List RiskStatus :=
  [.unchecked, .inDiscussion, .accepted, .inProgress, .mitigated, .falsePositive]

instance : ValueSet RiskStatus where
  typeName := "RiskStatus"
  all := all
  word := word
  description := description

theorem mem_all (v : RiskStatus) : v ∈ all := by cases v <;> simp [all]

instance : LE RiskStatus := ⟨fun a b => a.ctorIdx ≤ b.ctorIdx⟩

instance : LT RiskStatus := ⟨fun a b => a.ctorIdx < b.ctorIdx⟩

instance (a b : RiskStatus) : Decidable (a ≤ b) := inferInstanceAs (Decidable (a.ctorIdx ≤ b.ctorIdx))

instance (a b : RiskStatus) : Decidable (a < b) := inferInstanceAs (Decidable (a.ctorIdx < b.ctorIdx))

instance : Max RiskStatus := ⟨fun a b => if a ≤ b then b else a⟩

/-- Whether a risk with this status still has to be dealt with. -/
def isStillAtRisk : RiskStatus → Bool
  | .unchecked | .inDiscussion | .accepted | .inProgress => true
  | .mitigated | .falsePositive => false

end RiskStatus

end ThreatModel
