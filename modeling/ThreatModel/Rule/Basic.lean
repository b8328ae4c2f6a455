import ThreatModel.Model.Basic
import ThreatModel.Plugin.Fault

/-!
# Rules

A rule finds the risks of one category in a model. The built-in rules are functions of the model; other
rules may look at what the rules before them have found, or rest on a separate program and fail. The
risks that a model states by itself become rules that always find these risks.
-/

namespace ThreatModel

/-- A rule that depends on the model alone and cannot fail. -/
structure ModelRule where
  category : Category
  /-- The tags that the rule looks at. -/
  tags : List String := []
  findings : Model → List Risk

/-- The state of an analysis, which every rule can look at. -/
structure AnalysisContext where
  model : Model
  /-- The tags of the model and of the rules so far. -/
  tags : Dict Unit := .empty
  /-- The risks that were found so far, by category. -/
  byCategory : Dict (List Risk) := .empty
  /-- The categories of the rules so far. -/
  categories : Dict Category := .empty

/-- A source of the risks of one category. -/
structure Rule where
  category : Category
  /-- The tags that the rule looks at. -/
  tags : List String
  findings : AnalysisContext → Except PluginFault (List Risk)

namespace Rule

/-- A rule of the model alone. -/
def ofModelRule (r : ModelRule) : Rule := ⟨r.category, r.tags, fun c => .ok (r.findings c.model)⟩

/-- The rule that always finds the same risks. -/
def fixed (category : Category) (tags : List String) (risks : List Risk) : Rule :=
  ⟨category, tags, fun _ => .ok risks⟩

/-- The rule that finds the risks stated by a model. -/
def ofIndividual (c : IndividualCategory) : Rule := fixed c.category [] c.risks

/-- The id of the rule's category. -/
def id (r : Rule) : String := r.category.id

end Rule

end ThreatModel
