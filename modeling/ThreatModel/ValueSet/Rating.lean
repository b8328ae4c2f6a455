import ThreatModel.ValueSet.Basic

/-!
# Ratings

How many instances of a data asset there are and how well an element must be protected, together
with the weights that these ratings have for an attacker.
-/

namespace ThreatModel

/-- How many instances of a data asset exist. -/
inductive Quantity where
  | veryFew | few | many | veryMany
  deriving DecidableEq, Repr, Inhabited

namespace Quantity

/-- The word that stands for a value. -/
def word : Quantity → String
  | veryFew => "very-few"
  | few => "few"
  | many => "many"
  | veryMany => "very-many"

/-- What a value means. -/
def description : Quantity → String
  | veryFew => "Very few"
  | few => "Few"
  | many => "Many"
  | veryMany => "Very many"

/-- All values in their order. -/
def all : List Quantity :=
  [.veryFew, .few, .many, .veryMany]

instance : ValueSet Quantity where
  typeName := "Quantity"
  all := all
  word := word
  description := description

theorem mem_all (v : Quantity) : v ∈ all := by cases v <;> simp [all]

/-- How much the quantity multiplies the attractiveness of data. -/
def factor : Quantity → Nat
  | .veryFew => 1
  | .few => 2
  | .many => 3
  | .veryMany => 5

end Quantity

/-- Protection need for confidentiality, lowest first. -/
inductive Confidentiality where
  | publicAccess | internal | restricted | confidential | strictlyConfidential
  deriving DecidableEq, Repr, Inhabited

namespace Confidentiality

/-- The word that stands for a value. -/
def word : Confidentiality → String
  | publicAccess => "public"
  | internal => "internal"
  | restricted => "restricted"
  | confidential => "confidential"
  | strictlyConfidential => "strictly-confidential"

/-- What a value means. -/
def description : Confidentiality → String
  | publicAccess => "Public available information"
  | internal => "(Company) internal information, all people in the institution can access it"
  | restricted => "Internal and with restricted access"
  | confidential => "Only a few selected people have access"
  | strictlyConfidential => "Highest secrecy level"

/-- All values in their order. -/
def all : List Confidentiality :=
  [.publicAccess, .internal, .restricted, .confidential, .strictlyConfidential]

instance : ValueSet Confidentiality where
  typeName := "Confidentiality"
  all := all
  word := word
  description := description

theorem mem_all (v : Confidentiality) : v ∈ all := by cases v <;> simp [all]

instance : LE Confidentiality := ⟨fun a b => a.ctorIdx ≤ b.ctorIdx⟩

instance : LT Confidentiality := ⟨fun a b => a.ctorIdx < b.ctorIdx⟩

instance (a b : Confidentiality) : Decidable (a ≤ b) := inferInstanceAs (Decidable (a.ctorIdx ≤ b.ctorIdx))

instance (a b : Confidentiality) : Decidable (a < b) := inferInstanceAs (Decidable (a.ctorIdx < b.ctorIdx))

instance : Max Confidentiality := ⟨fun a b => if a ≤ b then b else a⟩

/-- Weight of a rating of an asset itself. -/
def attractionOfAsset : Confidentiality → Nat
  | .publicAccess => 8
  | .internal => 13
  | .restricted => 21
  | .confidential => 34
  | .strictlyConfidential => 55

/-- Weight of a rating of data that an asset processes or stores. -/
def attractionOfHeldData : Confidentiality → Nat
  | .publicAccess => 5
  | .internal => 8
  | .restricted => 13
  | .confidential => 21
  | .strictlyConfidential => 34

/-- Weight of a rating of data that a link transfers. -/
def attractionOfTransferredData : Confidentiality → Nat
  | .publicAccess => 2
  | .internal => 3
  | .restricted => 5
  | .confidential => 8
  | .strictlyConfidential => 13

end Confidentiality

/-- Protection need for integrity and availability, lowest first. -/
inductive Criticality where
  | archive | operational | important | critical | missionCritical
  deriving DecidableEq, Repr, Inhabited

namespace Criticality

/-- The word that stands for a value. -/
def word : Criticality → String
  | archive => "archive"
  | operational => "operational"
  | important => "important"
  | critical => "critical"
  | missionCritical => "mission-critical"

/-- What a value means. -/
def description : Criticality → String
  | archive => "Stored, not active"
  | operational => "If this fails, people will just have an ad-hoc coffee break until it is back"
  | important => "Issues here result in angry people"
  | critical => "Failure is really expensive or crippling"
  | missionCritical => "This must not fail"

/-- All values in their order. -/
def all : List Criticality :=
  [.archive, .operational, .important, .critical, .missionCritical]

instance : ValueSet Criticality where
  typeName := "Criticality"
  all := all
  word := word
  description := description

theorem mem_all (v : Criticality) : v ∈ all := by cases v <;> simp [all]

instance : LE Criticality := ⟨fun a b => a.ctorIdx ≤ b.ctorIdx⟩

instance : LT Criticality := ⟨fun a b => a.ctorIdx < b.ctorIdx⟩

instance (a b : Criticality) : Decidable (a ≤ b) := inferInstanceAs (Decidable (a.ctorIdx ≤ b.ctorIdx))

instance (a b : Criticality) : Decidable (a < b) := inferInstanceAs (Decidable (a.ctorIdx < b.ctorIdx))

instance : Max Criticality := ⟨fun a b => if a ≤ b then b else a⟩

/-- Weight of a rating of an asset itself. -/
def attractionOfAsset : Criticality → Nat
  | .archive => 5
  | .operational => 8
  | .important => 13
  | .critical => 21
  | .missionCritical => 34

/-- Weight of a rating of data that an asset processes or stores. -/
def attractionOfHeldData : Criticality → Nat
  | .archive => 3
  | .operational => 5
  | .important => 8
  | .critical => 13
  | .missionCritical => 21

/-- Weight of a rating of data that a link transfers. -/
def attractionOfTransferredData : Criticality → Nat
  | .archive => 2
  | .operational => 3
  | .important => 5
  | .critical => 8
  | .missionCritical => 13

end Criticality

end ThreatModel
