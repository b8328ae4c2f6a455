import ThreatModel.Json.Record
import ThreatModel.ValueSet.Risk

/-!
# Risk categories

What is known about a kind of risk before any model is looked at: how it arises, what it leads to and
what to do about it.
-/

namespace ThreatModel

/-- The description of a kind of risk. -/
structure Category where
  id : String
  title : String
  description : String
  impact : String
  asvs : String
  cheatSheet : String
  action : String
  mitigation : String
  check : String
  detectionLogic : String
  riskAssessment : String
  falsePositives : String
  function : Responsibility
  stride : Stride
  modelFailurePossible : Bool
  cwe : Nat
  deriving DecidableEq, Inhabited

namespace Category

/-- The names of the fields in order. -/
def fieldNames : List String :=
  ["id", "title", "description", "impact", "asvs", "cheat_sheet", "action", "mitigation", "check",
    "detection_logic", "risk_assessment", "false_positives", "function", "stride",
    "model_failure_possible_reason", "cwe"]

/-- The category that a record's fields state. -/
def ofSlots (s : List (String × Json)) : Option Category := do
  return {
    id := ← Record.required s "id" Json.text?
    title := ← Record.required s "title" Json.text?
    description := ← Record.optional s "description" Json.text? ""
    impact := ← Record.optional s "impact" Json.text? ""
    asvs := ← Record.optional s "asvs" Json.text? ""
    cheatSheet := ← Record.optional s "cheat_sheet" Json.text? ""
    action := ← Record.optional s "action" Json.text? ""
    mitigation := ← Record.optional s "mitigation" Json.text? ""
    check := ← Record.optional s "check" Json.text? ""
    detectionLogic := ← Record.optional s "detection_logic" Json.text? ""
    riskAssessment := ← Record.optional s "risk_assessment" Json.text? ""
    falsePositives := ← Record.optional s "false_positives" Json.text? ""
    function := ← Record.required s "function" Json.word?
    stride := ← Record.required s "stride" Json.word?
    modelFailurePossible := ← Record.optional s "model_failure_possible_reason" Json.bool? false
    cwe := ← Record.optional s "cwe" Record.word32 0 }

/-- Reads a category. -/
def ofJson? (j : Json) : Option Category := (j.slots? fieldNames).bind ofSlots

/-- The members of a category's object. -/
def members (c : Category) : List (String × Json) :=
  [("id", .string c.id), ("title", .string c.title), ("description", .string c.description),
    ("impact", .string c.impact), ("asvs", .string c.asvs), ("cheat_sheet", .string c.cheatSheet),
    ("action", .string c.action), ("mitigation", .string c.mitigation), ("check", .string c.check),
    ("detection_logic", .string c.detectionLogic), ("risk_assessment", .string c.riskAssessment),
    ("false_positives", .string c.falsePositives), ("function", .ofWord c.function),
    ("stride", .ofWord c.stride), ("model_failure_possible_reason", .bool c.modelFailurePossible),
    ("cwe", .ofNat c.cwe)]

/-- A category as an object. -/
def toJson (c : Category) : Json := .object c.members

end Category

end ThreatModel
