import ThreatModel.Dict
import ThreatModel.Risk.Basic
import ThreatModel.Risk.Category

/-!
# Presentation of risks

The order in which risks and categories are listed, and the counts of risks by severity and status.
-/

namespace ThreatModel

namespace Risk

/-- Severe risks first, then by status, impact, likelihood, title and id. -/
def compare (a b : Risk) : Ordering :=
  (Ord.compare b.severity.ctorIdx a.severity.ctorIdx).then <|
  (Ord.compare a.status.ctorIdx b.status.ctorIdx).then <|
  (Ord.compare b.impact.ctorIdx a.impact.ctorIdx).then <|
  (Ord.compare b.likelihood.ctorIdx a.likelihood.ctorIdx).then <|
  (Ord.compare a.title b.title).then <|
  Ord.compare a.syntheticId b.syntheticId

/-- Whether one risk may be listed before another. -/
def listedBefore (a b : Risk) : Bool := (compare a b).isLE

/-- Risks in the order of presentation; equally ranked ones keep their order. -/
def sort (risks : List Risk) : List Risk := risks.mergeSort listedBefore

/-- The highest severity of the risks that are still at risk, if there is one. -/
def highestOpenSeverity (risks : List Risk) : Option Severity :=
  ((risks.filter (·.status.isStillAtRisk)).map (·.severity)).foldl
    (fun highest s => some (match highest with
      | none => s
      | some h => max h s)) none

end Risk

namespace Category

/-- The place of a severity, with no open risk at all as the lowest. -/
def openRank : Option Severity → Nat
  | none => 0
  | some s => s.ctorIdx + 1

/-- Categories with severe open risks first, then by title and id. -/
def compare (risks : Dict (List Risk)) (a b : Category) : Ordering :=
  let rank (c : Category) := openRank ((risks.get? c.id).bind Risk.highestOpenSeverity)
  (Ord.compare (rank b) (rank a)).then <|
  (Ord.compare a.title b.title).then <|
  Ord.compare a.id b.id

/-- Categories in the order of presentation. -/
def sort (risks : Dict (List Risk)) (categories : List Category) : List Category :=
  categories.mergeSort fun a b => (compare risks a b).isLE

end Category

/-- The number of risks of each severity and status, by their words. -/
structure Statistics where
  counts : Dict (Dict Nat)
  deriving DecidableEq

namespace Statistics

/-- A count of zero in every cell. -/
def zero : Statistics :=
  ⟨.ofList (Severity.all.map fun s =>
    (s.word, .ofList (RiskStatus.all.map fun t => (t.word, 0))))⟩

/-- Counts one more risk. -/
def add (s : Statistics) (r : Risk) : Statistics :=
  ⟨s.counts.modify r.severity.word fun row => row.modify r.status.word (· + 1)⟩

/-- The counts of some risks. -/
def ofRisks (risks : List Risk) : Statistics := risks.foldl add zero

/-- The number of risks of a severity and status. -/
def count (s : Statistics) (severity : Severity) (status : RiskStatus) : Nat :=
  ((s.counts.get? severity.word).bind (·.get? status.word)).getD 0

/-- Reads counts. -/
def ofJson? (j : Json) : Option Statistics := do
  let s ← j.slots? ["risks"]
  let count (v : Json) : Option Nat :=
    (RecordSource.int? 0 0xFFFFFFFFFFFFFFFF v).map Int.toNat
  return ⟨← Record.required s "risks" (Record.dict (Record.dict count))⟩

/-- Counts as an object. -/
def toJson (s : Statistics) : Json := .object [("risks", .ofDict (.ofDict .ofNat) s.counts)]

end Statistics

end ThreatModel
