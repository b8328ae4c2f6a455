/-!
# Faults of a stated model

What can be wrong with a stated model, and how it is said.
-/

namespace ThreatModel

/-- Something that makes a stated model unacceptable. -/
inductive Fault where
  /-- The text in a field of an element stands for no value. -/
  | unknownValue (field element value : String)
  /-- An id has other characters than letters, digits and hyphens, or none at all. -/
  | invalidId (id : String)
  | duplicateId (id : String)
  /-- An element refers to something that is not there. -/
  | missingReference (kind location id : String)
  /-- A technical asset is listed in more than one place over all trust boundaries. -/
  | multipleBoundaries (asset boundary : String)
  | invalidDate (value : String)
  | invalidTrackingDate (key value : String)
  deriving DecidableEq, Repr

/-- What is said about a fault. -/
def Fault.message : Fault → String
  | .unknownValue field element value => "unknown '" ++ field ++ "' value of " ++ element ++ ": " ++ value
  | .invalidId id =>
    "invalid id syntax used (only letters, numbers, and hyphen allowed): " ++ id
  | .duplicateId id => "duplicate id used: " ++ id
  | .missingReference kind location id =>
    "missing referenced " ++ kind ++ " at " ++ location ++ ": " ++ id
  | .multipleBoundaries asset boundary =>
    "referenced technical asset " ++ asset ++ " at trust boundary '" ++ boundary ++
      "' is modeled in multiple trust boundaries"
  | .invalidDate value => "unable to parse 'date' value of model file: " ++ value
  | .invalidTrackingDate key value =>
    "unable to parse 'date' of risk tracking '" ++ key ++ "': " ++ value

end ThreatModel
