import ThreatModel.Dict
import ThreatModel.Rule.Finding
import ThreatModel.Risk.TrackingRecord
import ThreatModel.Text.LowerCase

/-!
# Reconciliation with tracking records

Decisions that were recorded for risk ids are carried over to newly found risks. A record about one id
comes before all patterns, and of the patterns that match an id the first one counts. A record that
concerns no risk is an orphan.
-/

namespace ThreatModel

/-- A tracking key that concerns no risk. -/
inductive Orphan where
  | id (key : String)
  | pattern (key : String)
  deriving DecidableEq, Repr

namespace Orphan

/-- The key without a risk. -/
def key : Orphan → String
  | id k | pattern k => k

/-- What is said about an orphan. -/
def message : Orphan → String
  | id k => "risk tracking references unknown risk (risk id not found), consider ignoring orphaned "
    ++ "risk tracking: " ++ k
  | pattern k => "wildcard risk tracking does not match any risk id: " ++ k

end Orphan

/-- What reconciliation has done. -/
structure Reconciled where
  risks : List Risk
  /-- The key that decided about a risk id. -/
  applied : Dict String
  orphans : List String
  deriving DecidableEq

/-- What is known while the records are gone through. -/
structure Decisions where
  /-- The record that decides about a risk id. -/
  records : Dict TrackingRecord := .empty
  /-- The key of that record. -/
  applied : Dict String := .empty
  orphans : List String := []

namespace Decisions

/-- Lets the record of a key decide about a risk id. -/
def settle (d : Decisions) (id key : String) (record : TrackingRecord) : Decisions :=
  { d with records := d.records.insert id record, applied := d.applied.insert id key }

/-- Notes an orphan, which is an error unless orphans are ignored. -/
def orphan (d : Decisions) (ignore : Bool) (o : Orphan) : Except Orphan Decisions :=
  if ignore then .ok { d with orphans := d.orphans ++ [o.key] } else .error o

end Decisions

namespace Reconciliation

/-- Tracking keys in lower case with their records, in the order of the keys. -/
def entries (tracking : Dict TrackingRecord) : List (String × TrackingRecord) :=
  tracking.entries.map fun e => (Text.lower e.1, e.2)

/-- The entries about single ids. -/
def direct (tracking : Dict TrackingRecord) : List (String × TrackingRecord) :=
  (entries tracking).filter (!·.2.isWildcard)

/-- The entries about patterns. -/
def wildcards (tracking : Dict TrackingRecord) : List (String × TrackingRecord) :=
  (entries tracking).filter (·.2.isWildcard)

/-- The id by which a risk is tracked. -/
def trackedId (r : Risk) : String := Text.lower r.syntheticId

/-- The ids of some risks, in order. -/
def riskIds (risks : List Risk) : List String := sortedUnique (risks.map trackedId)

/-- The ids that no entry is about directly. -/
def openIds (tracking : Dict TrackingRecord) (ids : List String) : List String :=
  ids.filter fun id => !(direct tracking).any (·.1 = id)

/-- Goes on to an entry about a single id. -/
def applyDirect (ids : List String) (ignore : Bool) (d : Decisions)
    (e : String × TrackingRecord) : Except Orphan Decisions :=
  if ids.contains e.1 then .ok (d.settle e.1 e.1 e.2) else d.orphan ignore (.id e.1)

/-- Compares the pattern of an entry with an id. An id that is decided about stays so, but the pattern
has been of use. -/
def applyPattern (e : String × TrackingRecord) (s : Decisions × Bool) (id : String) :
    Decisions × Bool :=
  if Text.wildcardMatches e.1 id then
    (if s.1.records.contains id then s.1 else s.1.settle id e.1 e.2, true)
  else s

/-- Goes on to an entry about a pattern. -/
def applyWildcard (ids : List String) (ignore : Bool) (d : Decisions)
    (e : String × TrackingRecord) : Except Orphan Decisions :=
  let (d, matched) := ids.foldl (applyPattern e) (d, false)
  if matched then .ok d else d.orphan ignore (.pattern e.1)

/-- Goes through all records, first those about single ids. -/
def decisions (tracking : Dict TrackingRecord) (ignore : Bool) (ids : List String) :
    Except Orphan Decisions := do
  let d ← (direct tracking).foldlM (applyDirect ids ignore) {}
  (wildcards tracking).foldlM (applyWildcard (openIds tracking ids) ignore) d

/-- The risk with the status that was decided, unchecked without a decision. -/
def withStatus (d : Decisions) (r : Risk) : Risk :=
  { r with status := ((d.records.get? (trackedId r)).map (·.status)).getD .unchecked }

/-- Sets the status of risks from the records. -/
def update (tracking : Dict TrackingRecord) (ignore : Bool) :
    ExceptT Orphan (StateM (List Risk)) Decisions := do
  let d ← decisions tracking ignore (riskIds (← get))
  modify (·.map (withStatus d))
  return d

/-- Sets the status of risks from the records. Unless orphans are ignored the first one is an error. -/
def reconcile (risks : List Risk) (tracking : Dict TrackingRecord) (ignoreOrphans : Bool) :
    Except Orphan Reconciled :=
  match (update tracking ignoreOrphans).run.run risks with
  | (.ok d, risks) => .ok ⟨risks, d.applied, d.orphans⟩
  | (.error o, _) => .error o

end Reconciliation

end ThreatModel
