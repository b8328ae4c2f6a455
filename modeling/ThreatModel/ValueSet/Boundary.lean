import ThreatModel.ValueSet.Basic

/-!
# Kinds of trust boundaries
-/

namespace ThreatModel

/-- What separates the inside of a trust boundary from the outside. -/
inductive BoundaryKind where
  | networkOnPrem | networkDedicatedHoster | networkVirtualLan | networkCloudProvider
  | networkCloudSecurityGroup | networkPolicyNamespaceIsolation | executionEnvironment
  deriving DecidableEq, Repr, Inhabited

namespace BoundaryKind

/-- The word that stands for a value. -/
def word : BoundaryKind → String
  | networkOnPrem => "network-on-prem"
  | networkDedicatedHoster => "network-dedicated-hoster"
  | networkVirtualLan => "network-virtual-lan"
  | networkCloudProvider => "network-cloud-provider"
  | networkCloudSecurityGroup => "network-cloud-security-group"
  | networkPolicyNamespaceIsolation => "network-policy-namespace-isolation"
  | executionEnvironment => "execution-environment"

/-- What a value means. -/
def description : BoundaryKind → String
  | networkOnPrem => "The whole network is on prem"
  | networkDedicatedHoster => "The network is at a dedicated hoster"
  | networkVirtualLan => "Network is a VLAN"
  | networkCloudProvider => "Network is at a cloud provider"
  | networkCloudSecurityGroup => "Cloud rules controlling network traffic"
  | networkPolicyNamespaceIsolation => "Segregation in a Kubernetes cluster"
  | executionEnvironment => "Logical group of items, not a protective network boundary"

/-- All values in their order. -/
def all : List BoundaryKind :=
  [.networkOnPrem, .networkDedicatedHoster, .networkVirtualLan, .networkCloudProvider,
    .networkCloudSecurityGroup, .networkPolicyNamespaceIsolation, .executionEnvironment]

instance : ValueSet BoundaryKind where
  typeName := "TrustBoundaryType"
  all := all
  word := word
  description := description

theorem mem_all (v : BoundaryKind) : v ∈ all := by cases v <;> simp [all]

/-- Whether a boundary protects a network, which execution environments do not. -/
def isNetwork (k : BoundaryKind) : Bool := k != .executionEnvironment

/-- Whether a boundary lies in a cloud. -/
def isWithinCloud : BoundaryKind → Bool
  | .networkCloudProvider | .networkCloudSecurityGroup => true
  | _ => false

end BoundaryKind

end ThreatModel
