import ThreatModel.Analysis.Reconciliation
import ThreatModel.Plugin.Fault

/-!
# Failing analyses
-/

namespace ThreatModel

/-- Why an analysis has no result. -/
inductive AnalysisFault where
  | duplicateCategory (id : String)
  | failed (rule : String) (fault : PluginFault)
  /-- A risk of a rule belongs to another category. -/
  | foreignCategory (rule syntheticId found : String)
  | orphan (o : Orphan)

/-- What is said about a fault. -/
def AnalysisFault.message : AnalysisFault → String
  | .duplicateCategory id => "duplicate risk category id: " ++ id
  | .failed id fault => "risk rule '" ++ id ++ "' failed: " ++ fault.message
  | .foreignCategory rule syntheticId found =>
    "risk rule '" ++ rule ++ "' failed: risk '" ++ syntheticId ++ "' reports category '" ++ found
      ++ "' instead of '" ++ rule ++ "'"
  | .orphan o => o.message

end ThreatModel
