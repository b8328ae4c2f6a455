import ThreatModel.ValueSet.Risk

/-!
# Severity

The severity of a risk follows from the product of the weights of its likelihood and its impact.
-/

namespace ThreatModel

/-- The severity for a product of weights. -/
def Severity.ofProduct (n : Nat) : Severity :=
  if n ≤ 1 then .low
  else if n ≤ 3 then .medium
  else if n ≤ 8 then .elevated
  else if n ≤ 12 then .high
  else .critical

/-- The severity of a risk with this likelihood and impact. -/
def Severity.of (likelihood : Likelihood) (impact : Impact) : Severity :=
  .ofProduct (likelihood.weight * impact.weight)

/-- A higher impact never lowers the severity. -/
theorem Severity.of_mono_impact (l : Likelihood) {i j : Impact} (h : i ≤ j) :
    Severity.of l i ≤ Severity.of l j := by
  revert h; cases l <;> cases i <;> cases j <;> decide

end ThreatModel
