import ThreatModel.Calendar
import ThreatModel.Json.Record
import ThreatModel.Text.Wildcard
import ThreatModel.ValueSet.Risk

/-!
# Tracking records

A tracking record is a decision about the risk with an id, or about all risks whose ids match a
pattern.
-/

namespace ThreatModel

/-- A decision about a risk id or a pattern of ids. -/
structure TrackingRecord where
  syntheticRiskId : String
  justification : String
  ticket : String
  checkedBy : String
  status : RiskStatus
  date : Option Date
  deriving DecidableEq, Inhabited

namespace TrackingRecord

/-- Whether a record is about a pattern of ids. -/
def isWildcard (r : TrackingRecord) : Bool := Text.hasWildcard r.syntheticRiskId

/-- The names of the fields in order. -/
def fieldNames : List String :=
  ["synthetic_risk_id", "justification", "ticket", "checked_by", "status", "date"]

/-- Reads a date. -/
def dateOfJson? (j : Json) : Option Date := j.text?.bind Date.parseSpaced?

/-- Reads a record. -/
def ofJson? (j : Json) : Option TrackingRecord := do
  let s ← j.slots? fieldNames
  return {
    syntheticRiskId := ← Record.required s "synthetic_risk_id" Json.text?
    justification := ← Record.optional s "justification" Json.text? ""
    ticket := ← Record.optional s "ticket" Json.text? ""
    checkedBy := ← Record.optional s "checked_by" Json.text? ""
    status := ← Record.required s "status" Json.word?
    date := ← Record.optional s "date" (Json.nullable dateOfJson?) none }

/-- A record as an object. -/
def toJson (r : TrackingRecord) : Json :=
  .object (
    [("synthetic_risk_id", .string r.syntheticRiskId), ("justification", .string r.justification),
      ("ticket", .string r.ticket), ("checked_by", .string r.checkedBy),
      ("status", .ofWord r.status)] ++
    Json.ifPresent "date" (fun d => .string d.render) r.date)

end TrackingRecord

end ThreatModel
