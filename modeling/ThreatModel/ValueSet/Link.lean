import ThreatModel.ValueSet.Basic

/-!
# Attributes of communication links
-/

namespace ThreatModel

/-- How the caller of a communication link proves who it is. -/
inductive Authentication where
  | none | credentials | sessionId | token | clientCertificate | twoFactor | externalized
  deriving DecidableEq, Repr, Inhabited

namespace Authentication

/-- The word that stands for a value. -/
def word : Authentication → String
  | none => "none"
  | credentials => "credentials"
  | sessionId => "session-id"
  | token => "token"
  | clientCertificate => "client-certificate"
  | twoFactor => "two-factor"
  | externalized => "externalized"

/-- What a value means. -/
def description : Authentication → String
  | none => "No authentication"
  | credentials => "Username and password, pin or passphrase"
  | sessionId => "A server generated session id with limited life span"
  | token => "A server generated token, cryptographically signed"
  | clientCertificate => "A certificate file stored on the client identifying this specific client"
  | twoFactor => "Credentials plus another factor like a physical object (card) or biometrics"
  | externalized => "Some external company handles authentication"

/-- All values in their order. -/
def all : List Authentication :=
  [.none, .credentials, .sessionId, .token, .clientCertificate, .twoFactor, .externalized]

instance : ValueSet Authentication where
  typeName := "Authentication"
  all := all
  word := word
  description := description

theorem mem_all (v : Authentication) : v ∈ all := by cases v <;> simp [all]

end Authentication

/-- In whose name a communication link is used. -/
inductive Authorization where
  | none | technicalUser | enduserIdentityPropagation
  deriving DecidableEq, Repr, Inhabited

namespace Authorization

/-- The word that stands for a value. -/
def word : Authorization → String
  | none => "none"
  | technicalUser => "technical-user"
  | enduserIdentityPropagation => "enduser-identity-propagation"

/-- What a value means. -/
def description : Authorization → String
  | none => "No authorization"
  | technicalUser => "Technical user (service-to-service) like DB user credentials"
  | enduserIdentityPropagation => "Identity of end user propagates to this service"

/-- All values in their order. -/
def all : List Authorization :=
  [.none, .technicalUser, .enduserIdentityPropagation]

instance : ValueSet Authorization where
  typeName := "Authorization"
  all := all
  word := word
  description := description

theorem mem_all (v : Authorization) : v ∈ all := by cases v <;> simp [all]

end Authorization

end ThreatModel
